import Mathlib.Data.List.Forall2
import Conformance.Proofs.Expr.Frames

/-!
# Comparisons and calls of atoms

Names that are bound and constants give a value without any other effect. What a comparison of two of them gives, or a
call of a function with some of them, is what the comparison or the function makes of their values.
-/

namespace Conformance.Expr

/-- Outside of comprehensions the expression gives a value, and changes nothing. -/
def Yields (s : Scope) (e : Expr) (v : Value) : Prop :=
  ∀ st : Store, st.frames = [] → (eval s e).run.run st = (.ok v, st)

section
variable {s : Scope} {a b f : Expr} {v w : Value} {k : Nat}

theorem yields_name {n : String} (h : s.bindings.lookup n = some v) : Yields s (.name k n) v := by
  intro st hst
  rw [eval, Eval.run_read, hst, Eval.found_nil, h]

theorem yields_function {n : String} {g : Function} (h : s.bindings.lookup n = none)
    (hg : Function.named? n = some g) : Yields s (.name k n) (.function g) := by
  intro st hst
  rw [eval, Eval.run_read, hst, Eval.found_nil, h, hg]

theorem yields_literal (l : Literal) : Yields s (.literal k l) l.value := fun _ _ => rfl

theorem run_bind_of_ok {α β : Type} {x : Eval α} {y : α} {st st' : Store} (h : x.run.run st = (.ok y, st'))
    (g : α → Eval β) : (x >>= g).run.run st = (g y).run.run st' := by
  rw [ExceptT.run_bind, StateT.run_bind, h]
  rfl

theorem Yields.run_bind {α : Type} (h : Yields s a v) (g : Value → Eval α) {st : Store} (hst : st.frames = []) :
    (eval s a >>= g).run.run st = (g v).run.run st :=
  run_bind_of_ok (h st hst) g

/-- A comparison of two atoms gives what it makes of their values. -/
theorem value_compare (ha : Yields s a v) (hb : Yields s b w) (c : Comparison) :
    value s (.compare k a [(c, b)]) =
      ((compareValues c (nameOne v a b) v w).run.run {}).1.map .bool := by
  unfold value
  rw [eval, ha.run_bind _ rfl, evalComparison, evalLink]
  simp only [bind_assoc]
  rw [hb.run_bind _ rfl]
  generalize compareValues c (nameOne v a b) v w = x
  rw [ExceptT.run_bind, StateT.run_bind]
  generalize x.run.run {} = r
  obtain ⟨(f | y), st⟩ := r
  · rfl
  · cases y <;> rfl

theorem run_evalList {es : List Expr} {vs : List Value} (h : List.Forall₂ (Yields s) es vs) {st : Store}
    (hst : st.frames = []) : (evalList s es).run.run st = (.ok vs, st) := by
  induction h with
  | nil => rfl
  | cons he _ ih =>
    rw [evalList, he.run_bind _ hst, run_bind_of_ok ih]
    rfl

/-- A call of a library function with atoms gives what the function makes of their values. -/
theorem value_call {g : Function} {es : List Expr} {vs : List Value} (hf : Yields s f (.function g))
    (hes : List.Forall₂ (Yields s) es vs) :
    value s (.call k f es []) = ((Library.call s.schema (.function g) ⟨vs, []⟩).run.run
      { calls := [⟨callee f, .function g⟩] }).1 := by
  unfold value
  rw [eval, hf.run_bind _ rfl, run_bind_of_ok (run_evalList hes rfl)]
  rfl

end
end Conformance.Expr
