import Conformance.Proofs.Constraint.Declared
import Conformance.Proofs.Constraint.Typed

/-!
# Where checks come from

The checks of the rules of a message type are those of typed rules and of custom rules that the type declares. What is
asked of all programs that are run for the type has to be asked of these rules only (`MessageType.program_of_check`).
-/

namespace Conformance

open Rule

/-! ## Declarations -/

namespace FieldConstraints

/-- The constraints of a value itself, and those of its elements, keys and values. -/
def parts (c : FieldConstraints) : List FieldConstraints :=
  [c, c.items.getD {}, c.keys.getD {}, c.values.getD {}]

/-- The rules that are declared as expressions: on a value itself, and on its elements, keys and values. -/
def customs (c : FieldConstraints) : List CustomRule :=
  c.custom ++ (c.items.getD {}).custom ++ (c.keys.getD {}).custom ++ (c.values.getD {}).custom

theorem custom_mem_customs {c part : FieldConstraints} (hp : part ∈ c.parts) {r : CustomRule} (hr : r ∈ part.custom) :
    r ∈ c.customs := by
  simp only [parts, List.mem_cons, List.not_mem_nil, or_false] at hp
  unfold customs
  rcases hp with rfl | rfl | rfl | rfl <;> simp [hr]

end FieldConstraints

def MessageType.custom (t : MessageType) : List CustomRule := (t.constraints.map (·.custom)).getD []

def MessageType.customs (t : MessageType) : List CustomRule :=
  t.custom ++ t.fields.flatMap fun f => (f.constraints.getD {}).customs

/-! ## Compiled rules -/

def ValueRules.checks (r : ValueRules) : List Check := r.standard ++ r.custom

/-- The rules of a field as a whole, and of its elements, keys and values. -/
def FieldRules.parts (r : FieldRules) : List ValueRules :=
  r.value :: (r.items.toList ++ r.keys.toList ++ r.values.toList)

def FieldRules.checks (r : FieldRules) : List Check := r.parts.flatMap (·.checks)

def TypeRules.checks (r : TypeRules) : List Check := r.fields.flatMap (·.checks) ++ r.rules

/-! ## Programs of typed rules -/

namespace TypedRules

variable {t : TypedRules} {s : Schema} {place : String} {type : FieldType}

theorem rule_mem_standard {a : Compile.Active} (ha : a ∈ t.active) : a.rule ∈ standard := by
  obtain ⟨e, -, he⟩ := List.mem_filterMap.1 ha
  exact (Compile.standard?_eq_some (Compile.active?_eq_some he).1).1

/-- A program among the checks of typed rules is that of an active rule: ranges have none. -/
theorem program_of_typedChecks {cs : List Check} (h : (Compile.typedChecks s place type t).outcome = .ok cs) {c : Check}
    (hc : c ∈ cs) {p : Program} (hp : c.program? = some p) : ∃ a ∈ t.active, ∃ source,
      a.rule.form = .expression source ∧ Program.compile ⟨source, standardVariables⟩ = .ok p := by
  have hchecks := (typedChecks_eq_ok.1 h).2.2
  rcases Compile.standardChecks_mem hchecks hc with ⟨a, ha, hcheck⟩ | ⟨lower, low, upper, high, -, hrange⟩
  · obtain ⟨text, -, ⟨_, _, _, _, rfl⟩ | ⟨source, q, hform, hq, rfl⟩⟩ := Compile.standardCheck_eq_ok.1 hcheck
    · cases hp
    · cases hp
      exact ⟨a, ha, source, hform, hq⟩
  · obtain ⟨_, _, _, _, rfl⟩ := Compile.rangeCheck_eq_ok hrange
    cases hp

end TypedRules

/-! ## Checks of a type -/

section
variable {s : Schema} {t : MessageType} {f : Field} {c : Check}

theorem Field.mem_checks (hc : c ∈ (f.rules s t).checks) : ∃ part ∈ (f.constraints.getD {}).parts, ∃ place type,
    c ∈ part.standard s place type ++ part.custom.filterMap (·.check?) := by
  obtain ⟨r, hr, hc⟩ := List.mem_flatMap.1 hc
  unfold Field.rules FieldRules.parts at hr
  unfold FieldConstraints.parts
  cases hs : f.shape with
  | singular =>
    simp only [hs, Option.toList_none, List.append_nil, List.mem_singleton] at hr
    subst hr
    exact ⟨_, by simp, _, _, hc⟩
  | «repeated» =>
    simp only [hs, Option.toList_some, Option.toList_none, List.append_nil, List.mem_cons, List.not_mem_nil,
      or_false] at hr
    rcases hr with rfl | rfl
    · exact ⟨f.constraints.getD {}, by simp, _, _, hc⟩
    · exact ⟨(f.constraints.getD {}).items.getD {}, by simp, _, _, hc⟩
  | map key =>
    simp only [hs, Option.toList_some, Option.toList_none, List.nil_append, List.singleton_append, List.mem_cons,
      List.not_mem_nil, or_false] at hr
    rcases hr with rfl | rfl | rfl
    · exact ⟨f.constraints.getD {}, by simp, _, _, hc⟩
    · exact ⟨(f.constraints.getD {}).keys.getD {}, by simp, _, _, hc⟩
    · exact ⟨(f.constraints.getD {}).values.getD {}, by simp, _, _, hc⟩

/-- Every program that is run for messages of a type is that of a typed rule of one of its fields, or of a custom rule. -/
theorem MessageType.program_of_check (hc : c ∈ (t.rules s).checks) {p : Program} (hp : c.program? = some p) :
    t.constraints.any (·.disabled) = false ∧
      ((∃ f ∈ t.fields, ∃ part ∈ (f.constraints.getD {}).parts, ∃ u, part.typed = some u ∧ ∃ a ∈ u.active, ∃ source,
          a.rule.form = .expression source ∧ Program.compile ⟨source, standardVariables⟩ = .ok p) ∨
        ∃ r ∈ t.customs, Program.compile ⟨r.expression, customVariables⟩ = .ok p) := by
  have hcustom {r : CustomRule} (hr : r.check? = some c) : Program.compile ⟨r.expression, customVariables⟩ = .ok p := by
    obtain ⟨q, hq, rfl⟩ := CustomRule.check?_eq_some hr
    cases hp
    exact hq
  unfold MessageType.rules at hc
  cases hd : t.constraints.any (·.disabled) with
  | true =>
    rw [hd] at hc
    cases hc
  | false =>
    refine ⟨rfl, ?_⟩
    rw [hd] at hc
    rcases List.mem_append.1 hc with hc | hc
    · obtain ⟨r, hr, hc⟩ := List.mem_flatMap.1 hc
      obtain ⟨f, hf, rfl⟩ := List.mem_map.1 hr
      obtain ⟨part, hpart, place, type, hc⟩ := Field.mem_checks hc
      rcases List.mem_append.1 hc with hc | hc
      · obtain ⟨u, cs, hu, hcs, hmem⟩ := FieldConstraints.mem_standard hc
        exact .inl ⟨f, hf, part, hpart, u, hu, TypedRules.program_of_typedChecks hcs hmem hp⟩
      · obtain ⟨r, hr, hcheck⟩ := List.mem_filterMap.1 hc
        refine .inr ⟨r, List.mem_append_right _ (List.mem_flatMap.2 ⟨f, hf, ?_⟩), hcustom hcheck⟩
        exact FieldConstraints.custom_mem_customs hpart hr
    · obtain ⟨r, hr, hcheck⟩ := List.mem_filterMap.1 hc
      exact .inr ⟨r, List.mem_append_left _ hr, hcustom hcheck⟩

end
end Conformance
