import Conformance.Proofs.Constraint.Typed
import Conformance.Proofs.Expr.Atoms

/-!
# Rules that compare

Equality, bounds and lists are closed tests for numbers and expressions for times. Both compare the value with the
parameter in the same way, so a check of such a rule passes exactly when the test of its name holds.
-/

namespace Conformance

open Expr (Comparison)

/-! ## The forms of comparisons -/

namespace Rule

/-- The test that makes a comparison of the value and the parameter. -/
def testOf? : Comparison → Option Test
  | .eq => some .const
  | .lt => some .lt
  | .le => some .lte
  | .gt => some .gt
  | .ge => some .gte
  | .isIn => some .isIn
  | .notIn => some .notIn
  | _ => none

def comparisonIn? : Expr → Option Comparison
  | .compare _ (.name _ this) [(c, .name _ rule)] => if this == "this" && rule == "rule" then some c else none
  | _ => none

/-- The test that the form of a rule comes to: its own, or the one that its expression makes. -/
def Form.test? : Form → Option Test
  | .test t => some t
  | .expression source =>
    match Program.compile ⟨source, standardVariables⟩ with
    | .ok p => (comparisonIn? p.tree).bind testOf?
    | .error _ => none

/-- The tests of the rules that numbers and times have in common, by name. -/
def comparisons : List (String × Test) :=
  [("const", .const), ("lt", .lt), ("lte", .lte), ("gt", .gt), ("gte", .gte), ("in", .isIn), ("not_in", .notIn)]

/-- Rules of one name compare alike, whatever their form. -/
theorem standard_comparisons : ∀ r ∈ standard, hasRanges r.kind = true → ∀ e ∈ comparisons, r.name = e.1 →
    r.form.test? = some e.2 := by
  decide +kernel

theorem ranges_unprepared : ∀ r ∈ standard, hasRanges r.kind = true → r.preparation = none := by
  decide +kernel

theorem ne_enum_of_ranges {kind : String} (hk : hasRanges kind = true) : kind ≠ "enum" := by
  rintro rfl
  cases hk

end Rule

open Rule

/-! ## Evaluation -/

theorem Domain.Holds.ne_generator {d : Domain} {v : Value} (h : d.Holds v) (i : Nat) : v ≠ .generator i := by
  rintro rfl
  cases h

theorem Expr.run_compareValues {c : Comparison} {t : Test} (ht : testOf? c = some t) {v w : Value}
    (hw : ∀ i, w ≠ .generator i) (st : Store) :
    ((compareValues c false v w).run.run st).1 = t.holds v w := by
  have hlift : Library.holds w v = Eval.lift (w.contains v) := by
    unfold Library.holds
    split
    · next i => exact absurd rfl (hw i)
    · rfl
  cases c with
  | isIn =>
    cases ht
    simp only [compareValues, hlift]
    rfl
  | notIn =>
    cases ht
    simp only [compareValues, hlift, Test.holds]
    cases w.contains v <;> rfl
  | same | notSame | notEq => cases ht
  | _ =>
    cases ht
    rfl

theorem Program.evaluate_comparison {source : String} {p : Program} {c : Comparison} {t : Test}
    (hp : Program.compile ⟨source, standardVariables⟩ = .ok p) (hc : comparisonIn? p.tree = some c)
    (ht : testOf? c = some t) (s : Schema) {v param : Value} (hparam : ∀ i, param ≠ .generator i) (now : Value) :
    p.evaluate s [("this", v), ("rule", param), ("now", now)] =
      match t.holds v param with
      | .ok b => .ok (.holds b)
      | .error f => .error (.faulty f p.source) := by
  unfold comparisonIn? at hc
  split at hc
  · next k kt this c' kr rule htree =>
    obtain ⟨hnames, hc'⟩ := Option.ite_none_right_eq_some.1 hc
    cases hc'
    obtain ⟨rfl, rfl⟩ : this = "this" ∧ rule = "rule" := by simpa using hnames
    -- Two names that differ never name one thing.
    have hone : Expr.nameOne v (.name kt "this") (.name kr "rule") = false := rfl
    have hthis : Expr.Yields ⟨s, [("this", v), ("rule", param), ("now", now)]⟩ (.name kt "this") v :=
      Expr.yields_name rfl
    have hrule : Expr.Yields ⟨s, [("this", v), ("rule", param), ("now", now)]⟩ (.name kr "rule") param :=
      Expr.yields_name rfl
    rw [evaluate_standard hp, htree, Expr.value_compare hthis hrule, hone, Expr.run_compareValues ht hparam]
    cases t.holds v param <;> rfl
  · cases hc

/-! ## Checks -/

def Check.Passes (s : Schema) (c : Check) (v now : Value) : Prop := c.run s v now = .ok none

section
variable {s : Schema} {v now : Value}

theorem Check.passes_test {id message : String} {t : Test} {param : Value} :
    Passes s ⟨id, message, .test t param⟩ v now ↔ t.holds v param = .ok true := by
  unfold Passes run
  dsimp only
  cases ht : t.holds v param with
  | ok b => cases b <;> simp
  | error f => simp

theorem Check.passes_formula {id message : String} {p : Program} {param : Value} {x : Except Fault Bool}
    (h : p.evaluate s [("this", v), ("rule", param), ("now", now)] =
      match x with
      | .ok b => .ok (.holds b)
      | .error f => .error (.faulty f p.source)) :
    Passes s ⟨id, message, .formula p param⟩ v now ↔ x = .ok true := by
  unfold Passes run bindings
  dsimp only [Check.param]
  rw [h]
  cases x with
  | ok b => cases b <;> simp
  | error f => simp

theorem Compile.exists_standardCheck {place kind : String} {type : FieldType} {a : Active} {d : Domain}
    (ha : a.Fits kind) (hk : hasRanges kind = true) (hd : kindDomain kind = some d) :
    ∃ c, (standardCheck s place type a).outcome = .ok c := by
  refine (standardCheck_ok_iff ha hd fun h => absurd h (ne_enum_of_ranges hk)).2 fun h => ?_
  rw [ranges_unprepared a.rule ha.mem (ha.kind_eq ▸ hk)] at h
  cases h

/-- A rule that compares passes on the values for which the test of its name holds. -/
theorem Compile.standardCheck_passes {place kind : String} {type : FieldType} {a : Active} (ha : a.Fits kind)
    (hk : hasRanges kind = true) {t : Test} (ht : (a.rule.name, t) ∈ comparisons) {c : Check}
    (hc : (standardCheck s place type a).outcome = .ok c) : c.Passes s v now ↔ t.holds v a.param = .ok true := by
  obtain ⟨hmem, rfl, hparam⟩ := ha
  have hform := standard_comparisons a.rule hmem hk _ ht rfl
  obtain ⟨_, _, ⟨u, w, hf, hw, rfl⟩ | ⟨source, p, hf, hp, rfl⟩⟩ := standardCheck_eq_ok.1 hc
  · rw [hf] at hform
    cases hform
    obtain rfl : a.param = w := by simpa [prepare, ranges_unprepared a.rule hmem hk] using hw
    exact Check.passes_test
  · rw [hf] at hform
    simp only [Form.test?, hp] at hform
    obtain ⟨c, hc, ht⟩ := Option.bind_eq_some_iff.1 hform
    exact Check.passes_formula (Program.evaluate_comparison hp hc ht s hparam.ne_generator now)

end
end Conformance
