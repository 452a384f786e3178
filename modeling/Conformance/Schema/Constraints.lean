import Conformance.Message.Basic

/-!
# Declared constraints

What a schema declares about the values of its fields, oneofs and messages: typed rules by kind and name,
and rules of its own as expressions.
-/

namespace Conformance

/-- A rule written as an expression, with an identifier and the text of its violation. -/
structure CustomRule where
  id : String
  message : String
  expression : String
  deriving DecidableEq, Repr

/-- Rules for values of one kind: the parameters that are set, in the order of their numbers. -/
structure TypedRules where
  kind : String
  settings : List (String × Content)

/-- The constraints of a field, or of the elements, keys or values of one. -/
structure FieldConstraints where
  typed : Option TypedRules := none
  custom : List CustomRule := []
  /-- Messages in the field are not validated themselves. -/
  skipped : Bool := false
  required : Bool := false
  /-- The rules do not apply to zero values. -/
  ignoreEmpty : Bool := false
  items : Option FieldConstraints := none
  keys : Option FieldConstraints := none
  values : Option FieldConstraints := none

structure OneofConstraints where
  required : Bool
  deriving DecidableEq, Repr

structure MessageConstraints where
  /-- Messages of the type are not validated at all. -/
  disabled : Bool
  custom : List CustomRule
  deriving DecidableEq, Repr

end Conformance
