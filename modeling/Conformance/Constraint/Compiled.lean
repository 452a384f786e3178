import Conformance.Constraint.Check

/-!
# Compiled constraints

The constraints of a message type with everything resolved that can be resolved without a message.
-/

namespace Conformance

/-- The rules of one value: a singular field, an element, a key or value of a map, or a whole collection. -/
structure ValueRules where
  kind : Kind
  standard : List Check := []
  custom : List Check := []
  /-- Zero values are not checked. -/
  ignoreEmpty : Bool := false
  /-- The message type to go on with inside of the value. -/
  nested : Option String := none
  /-- The value is a wrapper, and the rules are for what it wraps. -/
  isWrapper : Bool := false

/-- The rules of a field as a whole, and of its elements, keys and values. -/
structure FieldRules where
  field : Field
  kind : Kind
  value : ValueRules
  required : Bool
  ignoreEmpty : Bool
  items : Option ValueRules := none
  keys : Option ValueRules := none
  values : Option ValueRules := none

structure OneofRule where
  name : String
  required : Bool
  deriving DecidableEq, Repr

structure TypeRules where
  type : String
  disabled : Bool := false
  fields : List FieldRules := []
  oneofs : List OneofRule := []
  /-- Rules on the message as a whole. -/
  rules : List Check := []

namespace FieldRules

/-- Whether the field can be told from one that holds its default. -/
def hasPresence (f : FieldRules) : Bool := !f.field.isRepeated && f.field.hasPresence

/-- The message types that values of the field may contain, in order. -/
def dependencies (f : FieldRules) : List String :=
  ([some f.value, f.items, f.keys, f.values].filterMap id).filterMap (·.nested)

end FieldRules

/-- The message types that messages of the type may contain, with repetitions. -/
def TypeRules.dependencies (t : TypeRules) : List String := t.fields.flatMap (·.dependencies)

end Conformance
