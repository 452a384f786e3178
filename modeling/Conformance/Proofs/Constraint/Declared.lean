import Conformance.Proofs.Constraint.Outcome

/-!
# Declared rules

The rules of a message type as its declarations give them, without a way to fail. Where the constraints of a
type compile, they compile to these rules (`compile_eq_rules`).
-/

namespace Conformance

/-- The check of a custom rule, if its expression compiles. -/
def CustomRule.check? (c : CustomRule) : Option Check :=
  (Compile.custom c).outcome.toOption

theorem CustomRule.check?_eq_some {r : CustomRule} {c : Check} (h : r.check? = some c) :
    ∃ p, Program.compile ⟨r.expression, Rule.customVariables⟩ = .ok p ∧ c = ⟨r.id, r.message, .custom p⟩ := by
  unfold check? at h
  cases ho : (Compile.custom r).outcome with
  | error f =>
    rw [ho] at h
    cases h
  | ok check =>
    rw [ho] at h
    cases h
    obtain ⟨p, hp, hc⟩ := (Compile.outcome_bind_eq_ok fun p => Compile.steady_pure _).1 ho
    exact ⟨p, Compile.outcome_program.1 hp, Compile.outcome_pure_eq_ok.1 hc⟩

/-- The checks of typed rules, if all of them compile. -/
def TypedRules.checks (t : TypedRules) (s : Schema) (place : String) (type : FieldType) : List Check :=
  (Compile.typedChecks s place type t).outcome.toOption.getD []

namespace FieldConstraints

/-- The checks that are declared by name. -/
def standard (c : FieldConstraints) (s : Schema) (place : String) (type : FieldType) : List Check :=
  (c.typed.map (·.checks s place type)).getD []

theorem mem_standard {c : FieldConstraints} {s : Schema} {place : String} {type : FieldType} {check : Check}
    (h : check ∈ c.standard s place type) :
    ∃ t cs, c.typed = some t ∧ (Compile.typedChecks s place type t).outcome = .ok cs ∧ check ∈ cs := by
  unfold standard at h
  cases ht : c.typed with
  | none =>
    rw [ht] at h
    cases h
  | some t =>
    simp only [ht, Option.map_some, Option.getD_some, TypedRules.checks] at h
    cases hcs : (Compile.typedChecks s place type t).outcome with
    | error f =>
      rw [hcs] at h
      cases h
    | ok cs =>
      rw [hcs] at h
      exact ⟨t, cs, rfl, hcs, h⟩

/-- The rules of single values of a type. -/
def forValue (c : FieldConstraints) (s : Schema) (place : String) (type : FieldType) : ValueRules :=
  { kind := .value type
    standard := c.standard s place type
    custom := c.custom.filterMap (·.check?)
    ignoreEmpty := c.ignoreEmpty
    nested := Compile.nested? type c
    isWrapper := (c.typed.bind fun t => Compile.applies? t.kind type).getD false }

/-- The rules of a collection as a whole. -/
def forWhole (c : FieldConstraints) (s : Schema) (place : String) (kind : Kind) (type : FieldType) :
    ValueRules :=
  { kind, standard := c.standard s place type, custom := c.custom.filterMap (·.check?) }

end FieldConstraints

/-- The rules of a field of a message type. -/
def Field.rules (f : Field) (s : Schema) (t : MessageType) : FieldRules :=
  let c := f.constraints.getD {}
  let place := t.name ++ "." ++ f.name
  let whole := c.forWhole s place (t.kindOf f) f.type
  let rules (value : ValueRules) : FieldRules :=
    { field := f, kind := t.kindOf f, value, required := c.required, ignoreEmpty := c.ignoreEmpty }
  match f.shape with
  | .map key =>
    { rules whole with
      keys := (c.keys.getD {}).forValue s (place ++ " key") (.scalar key)
      values := (c.values.getD {}).forValue s (place ++ " value") f.type }
  | .repeated => { rules whole with items := (c.items.getD {}).forValue s (place ++ " item") f.type }
  | .singular => rules (c.forValue s place f.type)

theorem Field.rules_field (f : Field) (s : Schema) (t : MessageType) : (f.rules s t).field = f := by
  unfold rules
  split <;> rfl

theorem Field.rules_required (f : Field) (s : Schema) (t : MessageType) :
    (f.rules s t).required = (f.constraints.getD {}).required := by
  unfold rules
  split <;> rfl

/-- The rules of a message type. One that is disabled has none. -/
def MessageType.rules (t : MessageType) (s : Schema) : TypeRules :=
  if t.constraints.any (·.disabled) then { type := t.name, disabled := true }
  else
    { type := t.name
      fields := t.fields.map (·.rules s t)
      oneofs := Compile.oneofRules t
      rules := ((t.constraints.map (·.custom)).getD []).filterMap (·.check?) }

theorem MessageType.rules_type (t : MessageType) (s : Schema) : (t.rules s).type = t.name := by
  unfold rules
  split <;> rfl

theorem MessageType.rules_disabled (t : MessageType) (s : Schema) :
    (t.rules s).disabled = t.constraints.any (·.disabled) := by
  unfold rules
  cases h : t.constraints.any (·.disabled) <;> simp

namespace Compile

/-! ## Steps that all succeed -/

section
variable {α β ε : Type} {f : α → Except ε β} {bs : List β}

theorem mapM_cons_ok {a : α} {as : List α} (h : (a :: as).mapM f = .ok bs) :
    ∃ b cs, f a = .ok b ∧ as.mapM f = .ok cs ∧ bs = b :: cs := by
  rw [List.mapM_cons] at h
  cases ha : f a with
  | error e =>
    rw [ha] at h
    cases h
  | ok b =>
    cases has : as.mapM f with
    | error e =>
      rw [ha, has] at h
      cases h
    | ok cs =>
      rw [ha, has] at h
      cases h
      exact ⟨b, cs, rfl, rfl, rfl⟩

theorem mapM_eq_map {g : α → β} (hg : ∀ a b, f a = .ok b → b = g a) : ∀ {as : List α} {bs : List β},
    as.mapM f = .ok bs → bs = as.map g
  | [], _, h => by
    cases h
    rfl
  | a :: _, _, h => by
    obtain ⟨b, cs, ha, has, rfl⟩ := mapM_cons_ok h
    rw [List.map_cons, hg a b ha, mapM_eq_map hg has]

theorem mapM_eq_filterMap : ∀ {as : List α} {bs : List β},
    as.mapM f = .ok bs → bs = as.filterMap fun a => (f a).toOption
  | [], _, h => by
    cases h
    rfl
  | _ :: _, _, h => by
    obtain ⟨b, cs, ha, has, rfl⟩ := mapM_cons_ok h
    rw [List.filterMap_cons_some (by rw [ha]; rfl), mapM_eq_filterMap has]

end

/-! ## What compiles -/

variable {s : Schema} {t : MessageType}

theorem customs_eq {cs : List CustomRule} {checks : List Check} (h : (cs.mapM custom).outcome = .ok checks) :
    checks = cs.filterMap (·.check?) := by
  rw [outcome_mapM steady_custom] at h
  exact mapM_eq_filterMap h

theorem typedChecks_eq {place : String} {type : FieldType} {t : TypedRules} {checks : List Check}
    (h : (typedChecks s place type t).outcome = .ok checks) : checks = t.checks s place type := by
  rw [TypedRules.checks, h]
  rfl

theorem valueChecks_eq {place : String} {type : FieldType} {c : FieldConstraints} {checks : List Check × Bool}
    (h : (valueChecks s place type c).outcome = .ok checks) :
    checks = (c.standard s place type, (c.typed.bind fun t => applies? t.kind type).getD false) := by
  unfold valueChecks at h
  rw [FieldConstraints.standard]
  cases hc : c.typed with
  | none =>
    rw [hc] at h
    cases h
    rfl
  | some t =>
    simp only [hc] at h
    cases ha : applies? t.kind type with
    | none =>
      simp only [ha] at h
      cases h
    | some isWrapper =>
      simp only [ha] at h
      obtain ⟨checks, ht, h⟩ := (outcome_bind_eq_ok fun _ => steady_pure _).1 h
      cases h
      rw [typedChecks_eq ht]
      simp [ha]

theorem valueRules_eq {place : String} {type : FieldType} {c : FieldConstraints} {r : ValueRules}
    (h : (valueRules s place type c).outcome = .ok r) : r = c.forValue s place type := by
  obtain ⟨checks, hv, customs, hc, rfl⟩ := valueRules_eq_ok.1 h
  rw [valueChecks_eq hv, customs_eq hc]
  rfl

theorem elementRules_eq {place : String} {type : FieldType} {c : Option FieldConstraints} {r : ValueRules}
    (h : (elementRules s place type c).outcome = .ok r) : r = (c.getD {}).forValue s place type :=
  valueRules_eq (elementRules_eq_ok.1 h).2

theorem wholeChecks_eq {place : String} {type : FieldType} {c : FieldConstraints} {checks : List Check}
    (h : (wholeChecks s place type c).outcome = .ok checks) : checks = c.standard s place type := by
  unfold wholeChecks at h
  rw [FieldConstraints.standard]
  cases hc : c.typed with
  | none =>
    rw [hc] at h
    cases h
    rfl
  | some t =>
    simp only [hc] at h
    exact typedChecks_eq h

theorem collectionRules_eq {place : String} {kind : Kind} {type : FieldType} {c : FieldConstraints}
    {r : ValueRules} (h : (collectionRules s place kind type c).outcome = .ok r) :
    r = c.forWhole s place kind type := by
  obtain ⟨checks, hw, customs, hc, rfl⟩ := collectionRules_eq_ok.1 h
  rw [wholeChecks_eq hw, customs_eq hc]
  rfl

theorem fieldRules_eq {f : Field} {r : FieldRules} (h : (fieldRules s t f).outcome = .ok r) :
    r = f.rules s t := by
  unfold Field.rules
  cases hs : f.shape with
  | map key =>
    obtain ⟨_, _, whole, hw, keys, hk, values, hv, rfl⟩ := (fieldRules_map hs).1 h
    rw [collectionRules_eq hw, elementRules_eq hk, elementRules_eq hv]
  | repeated =>
    obtain ⟨_, _, whole, hw, items, hi, rfl⟩ := (fieldRules_repeated hs).1 h
    rw [collectionRules_eq hw, elementRules_eq hi]
  | singular =>
    obtain ⟨value, hv, rfl⟩ := (fieldRules_singular hs).1 h
    rw [valueRules_eq hv]

theorem typeRules_eq {r : TypeRules} (h : (typeRules s t).outcome = .ok r) : r = t.rules s := by
  unfold MessageType.rules
  cases hd : t.constraints.any (·.disabled) with
  | true =>
    simp only [typeRules, hd, if_true] at h
    cases h
    rfl
  | false =>
    obtain ⟨checks, hc, fields, hf, rfl⟩ := (typeRules_eq_ok hd).1 h
    rw [outcome_mapM (steady_fieldRules s t)] at hf
    rw [customs_eq hc, mapM_eq_map (fun _ _ => fieldRules_eq) hf]
    rfl

end Compile

theorem MessageType.compile_eq_rules {s : Schema} {t : MessageType} {r : TypeRules}
    (h : (t.compile s).outcome = .ok r) : r = t.rules s :=
  Compile.typeRules_eq h

end Conformance
