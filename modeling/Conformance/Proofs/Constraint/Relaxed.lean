import Mathlib.Data.List.Forall2
import Conformance.Proofs.Constraint.Accepted
import Conformance.Proofs.Constraint.Plain

/-!
# Relaxed constraints

A schema relaxes another one if it declares the same but for marks that take away: values that are skipped, zeros that
are ignored, types that are disabled. What marks are set on elements is told by typed rules of the collection, which may
be there for that only. The rules of a relaxed type have the same checks at the same places.
-/

namespace Conformance

open Rule

/-! ## What typed rules come to -/

namespace TypedRules

/-- The settings that are rules; others hold the constraints of elements. -/
def ruleSettings (t : TypedRules) : List (String × Content) :=
  t.settings.filter fun e => (standard? t.kind e.1).isSome

/-- The kind and its rules; collections without rules come to nothing. -/
def rules? (t : TypedRules) : Option (String × List (String × Content)) :=
  if (t.kind = "repeated" ∨ t.kind = "map") ∧ t.ruleSettings = [] then none else some (t.kind, t.ruleSettings)

end TypedRules

namespace Compile

variable {s : Schema} {place kind : String} {type : FieldType}

theorem standardChecks_bare (range : Option ((Lower × Value) × (Upper × Value))) : ∀ rules : List Active,
    standardChecks s.bare place kind type range rules = standardChecks s place kind type range rules
  | [] => rfl
  | a :: rest => by
    have hcheck : standardCheck s.bare place type a = standardCheck s place type a := rfl
    simp only [standardChecks, hcheck, standardChecks_bare range rest]

theorem active_ruleSettings (kind : String) : ∀ settings : List (String × Content),
    active kind (settings.filter fun e => (standard? kind e.1).isSome) = active kind settings
  | [] => rfl
  | (name, c) :: rest => by
    rw [List.filter_cons]
    cases h : standard? kind name with
    | none => simp only [Option.isSome_none, Bool.false_eq_true, if_false, active, h, active_ruleSettings kind rest]
    | some r => simp only [Option.isSome_some, if_true, active, h, active_ruleSettings kind rest]

theorem checkBounds_nil (place kind : String) : ∀ bounds, checkBounds place kind [] bounds = pure ()
  | [] => rfl
  | (lower, upper) :: rest => by
    unfold checkBounds
    exact checkBounds_nil place kind rest

theorem typedChecks_ruleSettings (t : TypedRules) :
    typedChecks s.bare place type ⟨t.kind, t.ruleSettings⟩ = typedChecks s place type t := by
  simp only [typedChecks, TypedRules.ruleSettings, active_ruleSettings, standardChecks_bare]

theorem typedChecks_nil (kind : String) : (typedChecks s place type ⟨kind, []⟩).outcome = .ok [] := by
  have hbounds : (checkBounds place kind [] (lengthBounds kind)).outcome = .ok () := by
    rw [checkBounds_nil]
    rfl
  exact TypedRules.typedChecks_eq_ok.2 ⟨fun e he => absurd he List.not_mem_nil, hbounds, rfl⟩

theorem applies?_collection {kind : String} (hk : kind = "repeated" ∨ kind = "map") (type : FieldType) :
    applies? kind type = none := by
  have hno : ¬type.Suits kind := by
    have hscalar (s : Scalar) : ¬(s.name = "repeated" ∨ s.name = "map") := by cases s <;> decide
    intro h
    cases h with
    | scalar s => exact hscalar s hk
    | wrapper _ => exact hscalar _ hk
    | enum _ | any | duration | timestamp => revert hk; decide
  simpa using mt suits_iff.2 hno

end Compile

namespace TypedRules

variable {s : Schema} {place : String} {type : FieldType}

theorem checks_eq (t : TypedRules) : t.checks s place type = (⟨t.kind, t.ruleSettings⟩ : TypedRules).checks s.bare place type := by
  rw [checks, checks, Compile.typedChecks_ruleSettings]

theorem checks_of_rules? (t : TypedRules) :
    t.checks s place type = (t.rules?.map fun e => (⟨e.1, e.2⟩ : TypedRules).checks s.bare place type).getD [] := by
  rw [checks_eq]
  unfold rules?
  split
  · next h => rw [h.2, checks, Compile.typedChecks_nil]; rfl
  · rfl

theorem applies?_of_rules? (t : TypedRules) :
    Compile.applies? t.kind type = t.rules?.bind fun e => Compile.applies? e.1 type := by
  unfold rules?
  split
  · next h => exact Compile.applies?_collection h.1 type
  · rfl

end TypedRules

/-! ## Relaxation -/

namespace FieldConstraints

def rules? (c : FieldConstraints) : Option (String × List (String × Content)) := c.typed.bind (·.rules?)

/-- Constraints on one level are those of others with more marks. -/
structure Relaxes (c' c : FieldConstraints) : Prop where
  typed : c'.rules? = c.rules?
  custom : c'.custom = c.custom
  required : c'.required = c.required
  skipped : c.skipped = true → c'.skipped = true
  ignoreEmpty : c.ignoreEmpty = true → c'.ignoreEmpty = true

/-- Constraints and those of elements are those of others with more marks. -/
structure RelaxesWithin (c' c : FieldConstraints) : Prop extends Relaxes c' c where
  items : (c'.items.getD {}).Relaxes (c.items.getD {})
  keys : (c'.keys.getD {}).Relaxes (c.keys.getD {})
  values : (c'.values.getD {}).Relaxes (c.values.getD {})

theorem Relaxes.refl (c : FieldConstraints) : c.Relaxes c := ⟨rfl, rfl, rfl, id, id⟩

variable {c' c : FieldConstraints} {s' s : Schema} {type : FieldType}

theorem standard_eq (c : FieldConstraints) (s : Schema) (place : String) (type : FieldType) : c.standard s place type =
    (c.rules?.map fun e => (⟨e.1, e.2⟩ : TypedRules).checks s.bare place type).getD [] := by
  unfold standard rules?
  cases c.typed with
  | none => rfl
  | some t => exact t.checks_of_rules?

theorem Relaxes.standard (h : c'.Relaxes c) (hs : s'.bare = s.bare) (place : String) (type : FieldType) :
    c'.standard s' place type = c.standard s place type := by
  rw [standard_eq, standard_eq, h.typed, hs]

theorem Relaxes.applies? (h : c'.Relaxes c) (type : FieldType) :
    (c'.typed.bind fun t => Compile.applies? t.kind type) = c.typed.bind fun t => Compile.applies? t.kind type := by
  have happlies (c : FieldConstraints) : (c.typed.bind fun t => Compile.applies? t.kind type) =
      c.rules?.bind fun e => Compile.applies? e.1 type := by
    unfold rules?
    cases c.typed with
    | none => rfl
    | some t => exact t.applies?_of_rules?
  rw [happlies, happlies, h.typed]

end FieldConstraints

/-- A field is another one but for its constraints, and these relax those of the other. -/
structure Field.Relaxes (f' f : Field) : Prop where
  eq : f' = { f with constraints := f'.constraints }
  constraints : (f'.constraints.getD {}).RelaxesWithin (f.constraints.getD {})

def MessageType.isDisabled (t : MessageType) : Bool := t.constraints.any (·.disabled)

structure MessageType.Relaxes (t' t : MessageType) : Prop where
  name : t'.name = t.name
  fields : List.Forall₂ Field.Relaxes t'.fields t.fields
  oneofs : t'.oneofs = t.oneofs
  custom : t'.custom = t.custom
  disabled : t.isDisabled = true → t'.isDisabled = true

structure Schema.Relaxes (s' s : Schema) : Prop where
  enums : s'.enums = s.enums
  messages : List.Forall₂ MessageType.Relaxes s'.messages s.messages

theorem Field.Relaxes.refl (f : Field) : f.Relaxes f where
  eq := rfl
  constraints := { FieldConstraints.Relaxes.refl _ with
    items := .refl _
    keys := .refl _
    values := .refl _ }

theorem MessageType.Relaxes.refl (t : MessageType) : t.Relaxes t :=
  ⟨rfl, List.forall₂_same.2 fun f _ => .refl f, rfl, rfl, id⟩

/-! ## What stays the same -/

theorem Field.Relaxes.bare {f' f : Field} (h : f'.Relaxes f) : f'.bare = f.bare := by
  rw [h.eq]
  rfl

theorem map_eq_of_forall₂ {α β : Type} {R : α → α → Prop} {f : α → β} (hf : ∀ a' a, R a' a → f a' = f a)
    {as' as : List α} (h : List.Forall₂ R as' as) : as'.map f = as.map f := by
  induction h with
  | nil => rfl
  | cons ha _ ih => rw [List.map_cons, List.map_cons, hf _ _ ha, ih]

theorem MessageType.Relaxes.bare {t' t : MessageType} (h : t'.Relaxes t) : t'.bare = t.bare := by
  have hfields : t'.fields.map (·.bare) = t.fields.map (·.bare) := map_eq_of_forall₂ (fun _ _ hf => hf.bare) h.fields
  rw [MessageType.bare, MessageType.bare, h.name, h.oneofs, hfields]

namespace Schema.Relaxes

variable {s' s : Schema}

theorem bare (h : s'.Relaxes s) : s'.bare = s.bare := by
  have hmessages : s'.messages.map (·.bare) = s.messages.map (·.bare) :=
    map_eq_of_forall₂ (fun _ _ ht => ht.bare) h.messages
  rw [Schema.bare, Schema.bare, h.enums, hmessages]

theorem find? {name : String} {ts' ts : List MessageType} (h : List.Forall₂ MessageType.Relaxes ts' ts) :
    ((ts'.find? (·.name == name)).getD (.empty name)).Relaxes ((ts.find? (·.name == name)).getD (.empty name)) := by
  induction h with
  | nil => exact .refl _
  | cons ht _ ih =>
    rw [List.find?_cons, List.find?_cons, ht.name]
    split
    · exact ht
    · exact ih

theorem messageType (h : s'.Relaxes s) (name : String) : (s'.messageType name).Relaxes (s.messageType name) :=
  find? (List.rel_append h.messages (List.forall₂_same.2 fun t _ => .refl t))

end Schema.Relaxes
end Conformance
