import Conformance.Constraint.Compile
import Conformance.Constraint.Reading
import Conformance.Proofs.Value.Domain

/-!
# Parameters of rules

The layout of options fixes the domain of every parameter. Constraints that are read from a message of options have
parameters of these domains, so that what is done with them depends on their rules alone.
-/

namespace Conformance

open Rule

/-! ## The layout of parameters -/

namespace Layout

def constraintsName : String := fullName "FieldConstraints"

/-- The type of the parameters of typed rules. -/
def parametersName (kind : String) : String := fullName (((rulesTypes.lookup kind).map (·.2)).getD "")

def parametersType (kind : String) : MessageType := schema.messageType (parametersName kind)

/-- Whether the part of a message of options that has a name is one message of a type. -/
def hasPart (owner name type : String) : Bool :=
  ((schema.messageType owner).field? name).any (·.type == .message type)

theorem kinds_hasPart : ∀ kind ∈ kinds, hasPart constraintsName kind (parametersName kind) = true := by
  decide

theorem items_hasPart : hasPart (parametersName "repeated") "items" constraintsName = true := by
  decide

theorem keys_hasPart : hasPart (parametersName "map") "keys" constraintsName = true := by
  decide

theorem values_hasPart : hasPart (parametersName "map") "values" constraintsName = true := by
  decide

end Layout

/-- The domain of the parameters that a field holds. -/
def Field.parameterDomain (f : Field) : Domain :=
  match f.shape with
  | .singular => f.type.domain
  | .repeated => .tuple f.type.domain
  | .map _ => .dict

namespace Rule

def field? (r : Rule) : Option Field := (Layout.parametersType r.kind).field? r.name

def domain (r : Rule) : Domain := (r.field?.map (·.parameterDomain)).getD .dict

end Rule

/-! ## Declared constraints -/

/-- Constraints as they are read from a message of options. -/
def FieldConstraints.Declared (c : FieldConstraints) : Prop :=
  ∃ m : Message, m.type = Layout.constraintsName ∧ m.Conforms Layout.schema ∧ c = .ofMessage m

/-- All settings are of the fields of parameters. -/
def TypedRules.Declared (t : TypedRules) : Prop :=
  ∀ e ∈ t.settings, ∃ f, (Layout.parametersType t.kind).field? e.1 = some f ∧ f.admits e.2 = true

def TypedRules.InTime (t : TypedRules) : Prop := ∀ e ∈ t.settings, e.2.everywhere (·.isBound) = true

section
variable {m p : Message} {name type : String}

theorem Message.part_conforms (hm : m.Conforms Layout.schema) (hp : m.part? name = some p) :
    p.Conforms Layout.schema := by
  unfold part? at hp
  split at hp
  · next q hq =>
    cases hp
    exact m.everywhere_single hm hq
  · cases hp

theorem Message.part_type (hm : m.Conforms Layout.schema) (hpart : Layout.hasPart m.type name type = true)
    (hp : m.part? name = some p) : p.type = type := by
  have hconf : m.conforms Layout.schema = true := (everywhere_iff.1 hm).1
  obtain ⟨f, hf, hft⟩ : ∃ f, (Layout.schema.messageType m.type).field? name = some f ∧
      (f.type == .message type) = true := by
    simpa [Layout.hasPart, Option.any_eq_true] using hpart
  unfold part? at hp
  split at hp
  · next q hq =>
    cases hp
    have hadmits := (m.single_admits hconf hf hq).2
    rw [beq_iff_eq.1 hft] at hadmits
    simpa [FieldType.admits] using hadmits
  · cases hp

theorem Message.innerPart_declared {kind : String} (htype : m.type = Layout.constraintsName)
    (hm : m.Conforms Layout.schema) (hkind : kind ∈ Layout.kinds)
    (hpart : Layout.hasPart (Layout.parametersName kind) name Layout.constraintsName = true)
    (hp : m.innerPart? kind name = some p) : (FieldConstraints.ofMessage p).Declared := by
  obtain ⟨q, hq, hp⟩ := Option.bind_eq_some_iff.1 hp
  have hqconf : q.Conforms Layout.schema := m.part_conforms hm hq
  have hqtype : q.type = Layout.parametersName kind :=
    m.part_type hm (by rw [htype]; exact Layout.kinds_hasPart kind hkind) hq
  have hptype : p.type = Layout.constraintsName := q.part_type hqconf (by rw [hqtype]; exact hpart) hp
  exact ⟨p, hptype, q.part_conforms hqconf hp, rfl⟩

end

/-! ## Parameters in the order of their numbers -/

section
variable {t : MessageType} {fields : List (String × Content)}

theorem MessageType.inNumberOrder_perm : (t.inNumberOrder fields).Perm fields := List.mergeSort_perm ..

theorem MessageType.mem_inNumberOrder {e : String × Content} : e ∈ t.inNumberOrder fields ↔ e ∈ fields :=
  inNumberOrder_perm.mem_iff

theorem MessageType.pairwise_inNumberOrder :
    (t.inNumberOrder fields).Pairwise fun a b => t.numberOf a.1 ≤ t.numberOf b.1 := by
  have hle : (t.inNumberOrder fields).Pairwise fun a b => decide (t.numberOf a.1 ≤ t.numberOf b.1) := by
    refine List.pairwise_mergeSort (fun a b c hab hbc => ?_) (fun a b => ?_) fields
    · exact decide_eq_true (Nat.le_trans (of_decide_eq_true hab) (of_decide_eq_true hbc))
    · simpa using Nat.le_total (t.numberOf a.1) (t.numberOf b.1)
  exact hle.imp fun h => of_decide_eq_true h

/-- Fields that are listed by their numbers stay as they are. -/
theorem MessageType.inNumberOrder_of_pairwise (h : fields.Pairwise fun a b => t.numberOf a.1 ≤ t.numberOf b.1) :
    t.inNumberOrder fields = fields :=
  List.mergeSort_of_pairwise (h.imp fun h => decide_eq_true h)

end

theorem TypedRules.Declared.ofParameters {kind : String} {p : Message} (ht : p.type = Layout.parametersName kind)
    (hp : p.Conforms Layout.schema) : (TypedRules.ofParameters kind p).Declared := by
  intro e he
  have hconf := List.all_eq_true.1 (Message.everywhere_iff.1 hp).1 e (MessageType.mem_inNumberOrder.1 he)
  rw [ht] at hconf
  exact (Option.any_eq_true _ _).1 hconf

namespace FieldConstraints

theorem ofMessage_unset (name : String) : ofMessage (.unset name) = {} := by
  rw [ofMessage]
  rfl

section
variable (m : Message)

theorem ofMessage_items : (ofMessage m).items = (m.innerPart? "repeated" "items").map ofMessage := by
  rw [ofMessage]
  simp

theorem ofMessage_keys : (ofMessage m).keys = (m.innerPart? "map" "keys").map ofMessage := by
  rw [ofMessage]
  simp

theorem ofMessage_values : (ofMessage m).values = (m.innerPart? "map" "values").map ofMessage := by
  rw [ofMessage]
  simp

end

namespace Declared

/-- Where no constraints are declared, it is as if they were read from a message without any. -/
theorem getD {c : Option FieldConstraints} (h : ∀ d, c = some d → d.Declared) : (c.getD {}).Declared := by
  cases c with
  | none => exact ⟨.unset Layout.constraintsName, rfl, rfl, (ofMessage_unset _).symm⟩
  | some d => exact h d rfl

variable {c : FieldConstraints}

theorem typed (h : c.Declared) {t : TypedRules} (ht : c.typed = some t) : t.Declared := by
  obtain ⟨m, htype, hm, rfl⟩ := h
  rw [ofMessage] at ht
  obtain ⟨kind, hkind, hp⟩ := List.exists_of_findSome?_eq_some ht
  obtain ⟨p, hpart, rfl⟩ := Option.map_eq_some_iff.1 hp
  have hptype : p.type = Layout.parametersName kind :=
    m.part_type hm (by rw [htype]; exact Layout.kinds_hasPart kind hkind) hpart
  exact .ofParameters hptype (m.part_conforms hm hpart)

theorem items (h : c.Declared) : (c.items.getD {}).Declared := by
  obtain ⟨m, htype, hm, rfl⟩ := h
  rw [ofMessage_items]
  refine getD fun d hd => ?_
  obtain ⟨p, hp, rfl⟩ := Option.map_eq_some_iff.1 hd
  exact m.innerPart_declared htype hm (by decide) Layout.items_hasPart hp

theorem keys (h : c.Declared) : (c.keys.getD {}).Declared := by
  obtain ⟨m, htype, hm, rfl⟩ := h
  rw [ofMessage_keys]
  refine getD fun d hd => ?_
  obtain ⟨p, hp, rfl⟩ := Option.map_eq_some_iff.1 hd
  exact m.innerPart_declared htype hm (by decide) Layout.keys_hasPart hp

theorem values (h : c.Declared) : (c.values.getD {}).Declared := by
  obtain ⟨m, htype, hm, rfl⟩ := h
  rw [ofMessage_values]
  refine getD fun d hd => ?_
  obtain ⟨p, hp, rfl⟩ := Option.map_eq_some_iff.1 hd
  exact m.innerPart_declared htype hm (by decide) Layout.values_hasPart hp

end Declared

/-- Every time and span among the parameters can be bound. -/
structure InTime (c : FieldConstraints) : Prop where
  own : ∀ t, c.typed = some t → t.InTime
  items : ∀ t, (c.items.getD {}).typed = some t → t.InTime
  keys : ∀ t, (c.keys.getD {}).typed = some t → t.InTime
  values : ∀ t, (c.values.getD {}).typed = some t → t.InTime

end FieldConstraints
end Conformance
