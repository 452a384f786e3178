import Conformance.Constraint.Layout

/-!
# Constraints from options

Reads the constraints of fields, oneofs and messages from messages of the layout of options.
-/

namespace Conformance

namespace Message

def textIn (m : Message) (name : String) : String :=
  match m.single? name with
  | some (.text s) => s
  | _ => ""

def flagIn (m : Message) (name : String) : Bool :=
  match m.single? name with
  | some (.bool b) => b
  | _ => false

def part? (m : Message) (name : String) : Option Message :=
  match m.single? name with
  | some (.message p) => some p
  | _ => none

theorem sizeOf_part? {m p : Message} {name : String} (h : m.part? name = some p) : sizeOf p < sizeOf m := by
  unfold part? at h
  split at h
  · next q hq =>
    cases h
    have := sizeOf_single hq
    simp only [Datum.message.sizeOf_spec] at this
    omega
  · cases h

def innerPart? (m : Message) (outer inner : String) : Option Message := (m.part? outer).bind (·.part? inner)

theorem sizeOf_innerPart? {m p : Message} {outer inner : String} (h : m.innerPart? outer inner = some p) :
    sizeOf p < sizeOf m := by
  obtain ⟨q, hq, hp⟩ := Option.bind_eq_some_iff.1 h
  exact Nat.lt_trans (sizeOf_part? hp) (sizeOf_part? hq)

end Message

def CustomRule.ofMessage (m : Message) : CustomRule :=
  ⟨m.textIn "id", m.textIn "message", m.textIn "expression"⟩

def customRulesIn (m : Message) (name : String) : List CustomRule :=
  (m.elements name).filterMap fun
    | .message r => some (.ofMessage r)
    | _ => none

def MessageConstraints.ofMessage (m : Message) : MessageConstraints :=
  ⟨m.flagIn "disabled", customRulesIn m "cel"⟩

def OneofConstraints.ofMessage (m : Message) : OneofConstraints := ⟨m.flagIn "required"⟩

/-- The number of a field of the type, zero for names that no field has. -/
def MessageType.numberOf (t : MessageType) (name : String) : Nat := ((t.field? name).map (·.number)).getD 0

/-- The fields that a message lists, in the order of their numbers. -/
def MessageType.inNumberOrder (t : MessageType) (fields : List (String × Content)) : List (String × Content) :=
  fields.mergeSort fun a b => t.numberOf a.1 ≤ t.numberOf b.1

/-- Typed rules by the message of their parameters. The order in which the message lists its fields is no matter. -/
def TypedRules.ofParameters (kind : String) (rules : Message) : TypedRules :=
  ⟨kind, (Layout.schema.messageType rules.type).inNumberOrder rules.fields⟩

def TypedRules.ofMessage? (m : Message) : Option TypedRules :=
  Layout.kinds.findSome? fun kind => (m.part? kind).map (.ofParameters kind)

/-- The constraints of a field, with those of its elements, keys and values. -/
def FieldConstraints.ofMessage (m : Message) : FieldConstraints :=
  { typed := TypedRules.ofMessage? m
    custom := customRulesIn m "cel"
    skipped := m.flagIn "skipped"
    required := m.flagIn "required"
    ignoreEmpty := m.flagIn "ignore_empty"
    items := (m.innerPart? "repeated" "items").attach.map fun ⟨c, _⟩ => ofMessage c
    keys := (m.innerPart? "map" "keys").attach.map fun ⟨c, _⟩ => ofMessage c
    values := (m.innerPart? "map" "values").attach.map fun ⟨c, _⟩ => ofMessage c }
termination_by sizeOf m
decreasing_by all_goals exact Message.sizeOf_innerPart? (by assumption)

end Conformance
