import Conformance.Proofs.Constraint.Origins
import Conformance.Proofs.Expr.Bindings
import Conformance.Proofs.Resolver.Graph

/-!
# Timeless checks

All programs are given the present time, but only three of the standard rules ask for it. So where a type declares none
of these and no expression that names the time, the answers of its checks are the same at all times.
-/

namespace Conformance

open Rule

namespace Program

/-- The time stands in a program as a name. -/
def NamesNow (p : Program) : Prop := ∃ c, Expr.Inside p.tree (.name c "now")

def namesNow (p : Program) : Bool :=
  p.tree.anywhere fun
    | .name _ n => n == "now"
    | _ => false

theorem namesNow_iff {p : Program} : p.namesNow = true ↔ p.NamesNow := by
  unfold namesNow
  rw [Expr.anywhere_eq_true]
  constructor
  · rintro ⟨e, he, hname⟩
    cases e with
    | name c n =>
      obtain rfl := beq_iff_eq.1 hname
      exact ⟨c, he⟩
    | _ => cases hname
  · rintro ⟨c, hc⟩
    exact ⟨_, hc, rfl⟩

end Program

/-! ## Checks -/

namespace Check

/-- The check runs no program that names the time. -/
def IsTimeless (c : Check) : Prop :=
  ∀ p, c.program? = some p → (∃ key, Program.compile key = .ok p) ∧ ¬p.NamesNow

theorem lookup_bindings (c : Check) (v now now' : Value) {n : String} (hn : n ≠ "now") :
    (c.bindings v now).lookup n = (c.bindings v now').lookup n := by
  have hne : (n == "now") = false := beq_eq_false_iff_ne.2 hn
  unfold bindings
  split <;> simp only [List.lookup_cons, hne]

theorem lookup_now (c : Check) (v now : Value) : (c.bindings v now).lookup "now" = some now := by
  unfold bindings
  split <;> rfl

theorem IsTimeless.run_eq {c : Check} (h : c.IsTimeless) (s : Schema) (v now now' : Value) :
    c.run s v now = c.run s v now' := by
  have hevaluate (p : Program) (hp : c.program? = some p) :
      p.evaluate s (c.bindings v now) = p.evaluate s (c.bindings v now') := by
    obtain ⟨⟨key, hkey⟩, hnow⟩ := h p hp
    refine Program.evaluate_congr hkey s (fun n => ?_) fun n hn => ?_
    · by_cases hn : n = "now"
      · rw [hn, lookup_now, lookup_now]
        rfl
      · rw [c.lookup_bindings v now now' hn]
    · refine c.lookup_bindings v now now' ?_
      rintro rfl
      exact hnow hn
  obtain ⟨id, message, form⟩ := c
  cases form with
  | test t param => rfl
  | formula p param => simp only [run, hevaluate p rfl]
  | custom p => simp only [run, hevaluate p rfl]

end Check

/-! ## Rules that ask for the time -/

namespace Rule

/-- The names of the rules that compare with the present time. -/
def clocks : List String := ["lt_now", "gt_now", "within"]

/-- A rule that compares with the present time, or whose expression does not name it. -/
def isClockOrTimeless (r : Rule) : Bool :=
  match r.form with
  | .test _ => true
  | .expression source =>
    match Program.compile ⟨source, standardVariables⟩ with
    | .ok p => clocks.contains r.name || !p.namesNow
    | .error _ => true

theorem standard_isClockOrTimeless : ∀ r ∈ standard, r.isClockOrTimeless = true := by
  decide +kernel

theorem not_namesNow {r : Rule} (hr : r ∈ standard) (hn : r.name ∉ clocks) {source : String}
    (hform : r.form = .expression source) {p : Program} (hp : Program.compile ⟨source, standardVariables⟩ = .ok p) :
    ¬p.NamesNow := by
  intro hnow
  have hrule := standard_isClockOrTimeless r hr
  simp [isClockOrTimeless, hform, hp, Program.namesNow_iff.2 hnow, hn] at hrule

end Rule

/-! ## Declarations -/

/-- None of the rules that are active compares with the present time. -/
def TypedRules.IsTimeless (t : TypedRules) : Prop := ∀ a ∈ t.active, a.rule.name ∉ clocks

/-- The time is not named in the expression. -/
def CustomRule.IsTimeless (r : CustomRule) : Prop :=
  ∀ p, Program.compile ⟨r.expression, customVariables⟩ = .ok p → ¬p.NamesNow

/-- No rule of the type asks for the time: the type is disabled, or neither its typed rules nor its expressions do. -/
def MessageType.IsTimeless (t : MessageType) : Prop :=
  t.constraints.any (·.disabled) = false →
    (∀ f ∈ t.fields, ∀ part ∈ (f.constraints.getD {}).parts, ∀ u, part.typed = some u → u.IsTimeless) ∧
      ∀ r ∈ t.customs, r.IsTimeless

theorem CustomRule.isTimeless_of_compile {r : CustomRule}
    (h : (Program.compile ⟨r.expression, customVariables⟩).toOption.all (!·.namesNow) = true) : r.IsTimeless := by
  intro p hp hnow
  rw [hp] at h
  simp [Except.toOption, Program.namesNow_iff.2 hnow] at h

theorem MessageType.IsTimeless.check {t : MessageType} (ht : t.IsTimeless) {s : Schema} {c : Check}
    (hc : c ∈ (t.rules s).checks) : c.IsTimeless := by
  intro p hp
  obtain ⟨hd, ⟨f, hf, part, hpart, u, hu, a, ha, source, hform, hcompile⟩ | ⟨r, hr, hcompile⟩⟩ := program_of_check hc hp
  · have hname := (ht hd).1 f hf part hpart u hu a ha
    exact ⟨⟨_, hcompile⟩, not_namesNow (u.rule_mem_standard ha) hname hform hcompile⟩
  · exact ⟨⟨_, hcompile⟩, (ht hd).2 r hr p hcompile⟩

/-- No type that validation of a type may get to has a rule that asks for the time. -/
def Schema.IsTimeless (s : Schema) (type : String) : Prop := ∀ name, s.Below type name → (s.messageType name).IsTimeless

end Conformance
