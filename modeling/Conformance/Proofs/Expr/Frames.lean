import Conformance.Expr.Evaluation
import Conformance.Proofs.Expr.Library
import Conformance.Proofs.Expr.Names

/-!
# What names give

A name gives what the innermost comprehension that binds it has for it, or else what the caller or the library has.
So what an expression reads can be told for its parts from the frames that are there and the names that a
comprehension adds.
-/

namespace Conformance.Expr

/-- Two scopes in which one expression is evaluated. They have the same types of messages, and `lax` says whether
names may give nothing. -/
structure Views where
  one : Scope
  other : Scope
  schema : one.schema = other.schema
  lax : Prop

/-! ## Reading -/

namespace Eval

/-- What a name gives under these frames. -/
def found (s : Scope) (n : String) (fs : List Frame) : Except Fault Value :=
  ((Eval.read s n).run.run { frames := fs }).1

section
variable {s : Scope} {n : String} {fs : List Frame}

theorem run_get_bind {α : Type} (g : Store → Eval α) (st : Store) :
    ((get : Eval Store) >>= g).run.run st = (g st).run.run st := rfl

/-- Reading depends on the frames only, and leaves the store as it is. -/
theorem run_read (st : Store) : (Eval.read s n).run.run st = (found s n st.frames, st) := by
  unfold found Eval.read
  rw [run_get_bind, run_get_bind]
  dsimp only
  cases local? n st.frames with
  | some o =>
    cases o with
    | some v => rfl
    | none =>
      dsimp only
      split <;> rfl
  | none =>
    dsimp only
    split
    · rfl
    · split <;> rfl

theorem found_assigned {v : Value} (h : local? n fs = some (some v)) : found s n fs = .ok v := by
  unfold found Eval.read
  rw [run_get_bind]
  simp only [h]
  rfl

theorem found_unassigned (h : local? n fs = some none) : found s n fs =
    .error (if fs.head?.any fun f => (f.lookup n).isSome then .unassignedName else .unknownName) := by
  unfold found Eval.read
  rw [run_get_bind]
  simp only [h]
  split <;> rfl

theorem found_outer (h : local? n fs = none) : found s n fs = found s n [] := by
  unfold found Eval.read
  rw [run_get_bind, run_get_bind]
  simp only [h, local?]
  split
  · rfl
  · split <;> rfl

/-- Without comprehensions a name gives what the caller binds it to, or else the function of the library. -/
theorem found_nil (n : String) : found s n [] =
    match s.bindings.lookup n with
    | some v => .ok v
    | none =>
      match Function.named? n with
      | some f => .ok (.function f)
      | none => .error .unknownName := by
  unfold found Eval.read
  rw [run_get_bind]
  simp only [local?]
  cases s.bindings.lookup n with
  | some v => rfl
  | none => cases Function.named? n <;> rfl

end
end Eval

open Eval (found local?)

/-- A name gives the same in both scopes, and it gives a value unless it may give nothing. -/
def Views.Known (w : Views) (fs : List Frame) (n : String) : Prop :=
  found w.one n fs = found w.other n fs ∧ (w.lax ∨ ∃ v, found w.one n fs = .ok v)

/-- The frame of a comprehension that owns some names, of which some have a value for sure. -/
structure Frame.Binds (assigned owned : List String) (f : Frame) : Prop where
  owned : ∀ n, (f.lookup n).isSome = true ↔ n ∈ owned
  assigned : ∀ n ∈ assigned, ∃ v, f.lookup n = some (some v)

namespace Frame

theorem lookup_pending (ns : List String) (n : String) :
    ((ns.map (·, none) : Frame).lookup n).isSome = true ↔ n ∈ ns := by
  induction ns with
  | nil => simp
  | cons m ns ih =>
    rw [List.map_cons, List.lookup_cons]
    by_cases h : n = m
    · simp [h]
    · simp [beq_false_of_ne h, ih, h]

theorem lookup_assigned (f : Frame) (n m : String) (v : Value) :
    (f.map fun e => if e.1 = n then (n, some v) else e).lookup m =
      if m = n then (f.lookup n).map fun _ => some v else f.lookup m := by
  induction f with
  | nil => simp
  | cons e f ih =>
    obtain ⟨k, o⟩ := e
    rw [List.map_cons]
    by_cases hk : k = n
    · subst hk
      rw [if_pos rfl, List.lookup_cons, List.lookup_cons, ih]
      by_cases hm : m = k
      · simp [hm]
      · simp [List.lookup_cons, beq_false_of_ne hm, hm]
    · rw [if_neg hk, List.lookup_cons, ih, List.lookup_cons, List.lookup_cons, beq_false_of_ne (Ne.symm hk)]
      by_cases hm : m = k
      · simp [hm, hk]
      · simp [beq_false_of_ne hm]

namespace Binds

variable {w : Views} {fs : List Frame} {f : Frame} {v o : List String} {n : String}

theorem frameOf (cs : List Clause) : Binds [] (boundBy cs) (frameOf cs) := by
  refine ⟨fun n => ?_, fun n hn => absurd hn List.not_mem_nil⟩
  unfold Expr.frameOf
  rw [lookup_pending, List.mem_eraseDups]
  rfl

theorem write (h : Binds v o f) (hn : n ∈ o) (x : Value) :
    Binds (v ++ [n]) o (f.map fun e => if e.1 = n then (n, some x) else e) := by
  constructor
  · intro m
    rw [lookup_assigned]
    by_cases hm : m = n
    · simp [hm, h.owned, hn]
    · simp [hm, h.owned]
  · intro m hm
    rw [lookup_assigned]
    by_cases hmn : m = n
    · obtain ⟨y, hy⟩ := Option.isSome_iff_exists.1 ((h.owned n).2 hn)
      simp [hmn, hy]
    · have hv : m ∈ v := by simpa [hmn] using hm
      simpa [hmn] using h.assigned m hv

theorem mono {v' : List String} (h : Binds v o f) (hv : ∀ n ∈ v', n ∈ v) : Binds v' o f :=
  ⟨h.owned, fun n hn => h.assigned n (hv n hn)⟩

/-! ### What is known under the frame -/

theorem known_assigned (h : Binds v o f) (hn : n ∈ v) : w.Known (f :: fs) n := by
  obtain ⟨x, hx⟩ := h.assigned n hn
  have hlocal : local? n (f :: fs) = some (some x) := by rw [local?, hx, Option.some_or]
  have hfound : ∀ s, found s n (f :: fs) = .ok x := fun s => Eval.found_assigned hlocal
  exact ⟨by rw [hfound, hfound], .inr ⟨x, hfound _⟩⟩

theorem known_owned (h : Binds v o f) (hn : n ∈ o) (hlax : w.lax) : w.Known (f :: fs) n := by
  obtain ⟨y, hy⟩ := Option.isSome_iff_exists.1 ((h.owned n).2 hn)
  have hlocal : local? n (f :: fs) = some y := by rw [local?, hy, Option.some_or]
  refine ⟨?_, .inl hlax⟩
  cases y with
  | some x => rw [Eval.found_assigned hlocal, Eval.found_assigned hlocal]
  | none => rw [Eval.found_unassigned hlocal, Eval.found_unassigned hlocal]

theorem known_outer (h : Binds v o f) (hn : n ∉ o) (hknown : w.Known fs n) : w.Known (f :: fs) n := by
  have hf : f.lookup n = none := by
    rw [← Option.not_isSome_iff_eq_none]
    intro hsome
    exact hn ((h.owned n).1 hsome)
  have hlocal : local? n (f :: fs) = local? n fs := by rw [local?, hf, Option.none_or]
  cases hfs : local? n fs with
  | none =>
    rw [hfs] at hlocal
    unfold Views.Known at hknown ⊢
    rwa [Eval.found_outer hlocal, Eval.found_outer hlocal, ← Eval.found_outer hfs, ← Eval.found_outer hfs]
  | some y =>
    rw [hfs] at hlocal
    cases y with
    | some x =>
      rw [Views.Known, Eval.found_assigned hlocal, Eval.found_assigned hlocal]
      exact ⟨rfl, .inr ⟨x, rfl⟩⟩
    | none =>
      -- The fault can be another one than outside, but there is one outside too.
      obtain ⟨-, hlax | ⟨x, hx⟩⟩ := hknown
      · rw [Views.Known, Eval.found_unassigned hlocal, Eval.found_unassigned hlocal]
        exact ⟨rfl, .inl hlax⟩
      · rw [Eval.found_unassigned hfs] at hx
        cases hx

end Binds
end Frame

/-! ## What fits the frames -/

/-- An expression whose calls are those of the language, and whose names are known where they are read. -/
structure Views.Fits (w : Views) (fs : List Frame) (e : Expr) : Prop where
  callees : ∀ v o c f args named, Within e v o (.call c f args named) → IsCallee f
  reads : ∀ n, Reads e n → w.Known fs n
  early : ReadsEarly e → w.lax

namespace Views.Fits

variable {w : Views} {fs : List Frame} {e x : Expr} {v o : List String}

theorem outer (h : w.Fits fs e) (hp : Part e [] [] x) : w.Fits fs x := by
  constructor
  · intro v o c f args named hw
    exact h.callees _ _ c f args named (.inside hp hw)
  · intro n hn
    exact h.reads n (.inside hp hn List.not_mem_nil)
  · intro he
    exact h.early (.inside hp he)

theorem operand (h : w.Fits fs e) (hx : x ∈ e.operands) : w.Fits fs x := h.outer (.operand hx)

theorem inner {f : Frame} (h : w.Fits fs e) (hp : Part e v o x) (hf : f.Binds v o) : w.Fits (f :: fs) x := by
  constructor
  · intro v o c f args named hw
    exact h.callees _ _ c f args named (.inside hp hw)
  · intro n hn
    by_cases ho : n ∈ o
    · by_cases hv : n ∈ v
      · exact hf.known_assigned hv
      · exact hf.known_owned ho (h.early (.here hp hn ho hv))
    · exact hf.known_outer ho (h.reads n (.inside hp hn ho))
  · intro he
    exact h.early (.inside hp he)

theorem name {c : Nat} {n : String} (h : w.Known fs n) : w.Fits fs (.name c n) := by
  have hpart : ∀ {v o x}, ¬Part (.name c n) v o x := by
    intro v o x hp
    cases hp with
    | operand hx => cases hx
  constructor
  · intro v o c f args named hw
    cases hw with
    | inside hp => exact (hpart hp).elim
  · intro m hm
    cases hm with
    | name => exact h
    | inside hp => exact (hpart hp).elim
  · intro he
    cases he with
    | here hp | inside hp => exact (hpart hp).elim

theorem member {c : Nat} {b : Expr} {m : String} (h : w.Fits fs b) : w.Fits fs (.member c b m) := by
  have hpart : ∀ {v o x}, Part (.member c b m) v o x → v = [] ∧ o = [] ∧ x = b := by
    intro v o x hp
    cases hp with
    | operand hx => exact ⟨rfl, rfl, List.mem_singleton.1 hx⟩
  constructor
  · intro v o c f args named hw
    cases hw with
    | inside hp hw =>
      obtain ⟨rfl, rfl, rfl⟩ := hpart hp
      exact h.callees _ _ c f args named hw
  · intro n hn
    cases hn with
    | inside hp hn =>
      obtain ⟨rfl, rfl, rfl⟩ := hpart hp
      exact h.reads n hn
  · intro he
    cases he with
    | here hp _ ho =>
      obtain ⟨rfl, rfl, rfl⟩ := hpart hp
      cases ho
    | inside hp he =>
      obtain ⟨rfl, rfl, rfl⟩ := hpart hp
      exact h.early he

/-- A callee is no part of its call, but it is evaluated. -/
theorem callee {c : Nat} {f : Expr} {args : List Expr} {named : List (Option String × Expr)}
    (h : w.Fits fs (.call c f args named)) : w.Fits fs f := by
  have hcallee := h.callees _ _ c f args named .whole
  cases f with
  | name c' n => exact .name (h.reads n .callee)
  | member c' b m => exact .member (h.operand (by simp [operands, receiver]))
  | _ => exact hcallee.elim

end Views.Fits

/-! ## Stores -/

namespace Views

variable {w : Views} {fs : List Frame} {v o : List String}

def Tolerates (w : Views) (f : Fault) : Prop := f.isOfName = true → w.lax

/-- The frames of a store are these, and its generators end in tolerated faults. -/
structure On (w : Views) (fs : List Frame) (st : Store) : Prop where
  frames : st.frames = fs
  sources : ∀ source ∈ st.generators, source.EndsIn w.Tolerates

/-- Above these frames is the one of a comprehension that is gone through. -/
def Iterating (w : Views) (fs : List Frame) (assigned owned : List String) (st : Store) : Prop :=
  ∃ f, Frame.Binds assigned owned f ∧ w.On (f :: fs) st

theorem tolerates_of_nameless {f : Fault} (h : f.isOfName = false) : w.Tolerates f := by
  intro hname
  rw [h] at hname
  cases hname

theorem On.steadfast : Steadfast (w.On fs) w.Tolerates where
  faults _ hf := tolerates_of_nameless hf
  sources _ hst := hst.sources
  regenerated _ _ hst hg := ⟨hst.frames, hg⟩

theorem Iterating.steadfast : Steadfast (w.Iterating fs v o) w.Tolerates where
  faults _ hf := tolerates_of_nameless hf
  sources := by
    intro st hst
    obtain ⟨f, -, hon⟩ := hst
    exact hon.sources
  regenerated := by
    intro st g hst hg
    obtain ⟨f, hf, hon⟩ := hst
    exact ⟨f, hf, hon.frames, hg⟩

theorem Iterating.mono {v' : List String} {st : Store} (h : w.Iterating fs v o st) (hv : ∀ n ∈ v', n ∈ v) :
    w.Iterating fs v' o st := by
  obtain ⟨f, hf, hon⟩ := h
  exact ⟨f, hf.mono hv, hon⟩

/-- Two evaluations do the same, keep an invariant, and end in tolerated faults only. -/
def Agree {α : Type} (w : Views) (I : Store → Prop) (m m' : Eval α) : Prop :=
  Alike I (fun f st => w.Tolerates f ∧ I st) m m' fun _ => I

section
variable {α β : Type} {I : Store → Prop}

theorem agree_pure (a : α) : w.Agree I (pure a) (pure a) := Alike.pure fun _ hst => hst

theorem agree_throw {f : Fault} (h : w.Tolerates f) : w.Agree I (throw f : Eval α) (throw f) :=
  Alike.throw fun _ hst => ⟨h, hst⟩

theorem Agree.bind {m m' : Eval α} {g g' : α → Eval β} (hm : w.Agree I m m') (hg : ∀ a, w.Agree I (g a) (g' a)) :
    w.Agree I (m >>= g) (m' >>= g') := Alike.bind hm hg

theorem agree_of_ends {m : Eval α} {Q : α → Prop} (hm : Ends I w.Tolerates m Q) : w.Agree I m m :=
  Alike.weaken hm.alike (fun _ _ hf => hf) fun _ _ hst => hst.2

/-- What agrees above each frame of a comprehension agrees while it is gone through. -/
theorem agree_iterating {m m' : Eval α} (h : ∀ f, Frame.Binds v o f → w.Agree (w.On (f :: fs)) m m') :
    w.Agree (w.Iterating fs v o) m m' := by
  intro st hst
  obtain ⟨f, hf, hon⟩ := hst
  have hin : ∀ st, w.On (f :: fs) st → w.Iterating fs v o st := fun st hst => ⟨f, hf, hst⟩
  have hagree : Alike (w.On (f :: fs)) (fun g st => w.Tolerates g ∧ w.Iterating fs v o st) m m' fun _ =>
      w.Iterating fs v o := (h f hf).weaken (fun g st hg => ⟨hg.1, hin st hg.2⟩) fun _ => hin
  exact hagree st hon

end

theorem agree_read {n : String} (h : w.Known fs n) :
    w.Agree (w.On fs) (Eval.read w.one n) (Eval.read w.other n) := by
  intro st hst
  obtain ⟨hsame, hvalue⟩ := h
  rw [Eval.run_read, Eval.run_read, hst.frames, hsame]
  refine ⟨rfl, fun a _ => hst, fun f hf => ⟨fun _ => ?_, hst⟩⟩
  obtain hlax | ⟨v, hv⟩ := hvalue
  · exact hlax
  · cases (hsame.symm.trans hv).symm.trans hf

/-! ## Assigning -/

theorem alike_write {n : String} (hn : n ∈ o) (x : Value) :
    Alike (w.Iterating fs v o) (fun f st => w.Tolerates f ∧ w.Iterating fs v o st) (Eval.write n x) (Eval.write n x)
      fun _ => w.Iterating fs (v ++ [n]) o := by
  intro st hst
  obtain ⟨f, hf, hon⟩ := hst
  have hrun : (Eval.write n x).run.run st =
      (.ok (), { st with frames := (f.map fun e => if e.1 = n then (n, some x) else e) :: fs }) := by
    obtain ⟨frames, generators, calls⟩ := st
    obtain rfl : frames = f :: fs := hon.frames
    rfl
  rw [hrun]
  refine ⟨rfl, fun a _ => ⟨_, hf.write hn x, rfl, hon.sources⟩, fun f hf => ?_⟩
  cases hf

mutual

/-- An assignment gives values to all names of its target, if it does not end in a fault. -/
theorem alike_assign (w : Views) (fs : List Frame) (o : List String) : ∀ (t : Expr) (v : List String) (x : Value),
    (∀ n ∈ targetIds t, n ∈ o) →
      Alike (w.Iterating fs v o) (fun f st => w.Tolerates f ∧ w.Iterating fs v o st) (assign t x) (assign t x)
        fun _ => w.Iterating fs (v ++ targetIds t) o
  | .name _ n, v, x, h => by
    rw [assign]
    exact alike_write (h n List.mem_cons_self) x
  | .row _ _ es, v, x, h => by
    rw [assign]
    refine Alike.bind (agree_of_ends (ends_taken Iterating.steadfast x)) fun xs => ?_
    by_cases hlength : xs.length = es.length
    · simp only [if_pos hlength]
      exact alike_assignAll w fs o es v xs hlength h
    · simp only [if_neg hlength]
      exact Alike.throw fun _ hst => ⟨tolerates_of_nameless rfl, hst⟩
  | .literal .., _, _, _ | .member .., _, _, _ | .subscript .., _, _, _ | .slice .., _, _, _ | .call .., _, _, _
  | .dict .., _, _, _ | .comprehension .., _, _, _ | .joined .., _, _, _ | .placed .., _, _, _ | .unary .., _, _, _
  | .logical .., _, _, _ | .binary .., _, _, _ | .compare .., _, _, _ | .conditional .., _, _, _
  | .starred .., _, _, _ | .foreign .., _, _, _ => by
    rw [assign]
    · exact Alike.throw fun _ hst => ⟨tolerates_of_nameless rfl, hst⟩
    all_goals simp

theorem alike_assignAll (w : Views) (fs : List Frame) (o : List String) :
    ∀ (ts : List Expr) (v : List String) (xs : List Value), xs.length = ts.length → (∀ n ∈ targetsIds ts, n ∈ o) →
      Alike (w.Iterating fs v o) (fun f st => w.Tolerates f ∧ w.Iterating fs v o st) (assignAll ts xs) (assignAll ts xs)
        fun _ => w.Iterating fs (v ++ targetsIds ts) o
  | [], v, _, _, _ => Alike.pure fun st hst => by rwa [targetsIds, List.append_nil]
  | t :: ts, v, [], hlength, _ => by cases hlength
  | t :: ts, v, x :: xs, hlength, h => by
    rw [assignAll, targetsIds]
    have ht := alike_assign w fs o t v x fun n hn => h n (List.mem_append_left _ hn)
    have hts := alike_assignAll w fs o ts (v ++ targetIds t) xs (Nat.succ.inj hlength) fun n hn =>
      h n (List.mem_append_right _ hn)
    rw [List.append_assoc] at hts
    refine ht.bind fun _ => hts.weaken (fun f st hf => ?_) fun _ _ hst => hst
    exact ⟨hf.1, hf.2.mono fun n hn => List.mem_append_left _ hn⟩

end

end Views

end Conformance.Expr
