/-!
# Statuses

The possible outcomes of a validation.
-/

namespace Conformance

inductive Status where
  | unspecified
  | valid
  | invalid
  | schemaError
  | compilationError
  | recursionError
  | runtimeError
  deriving DecidableEq, Repr

namespace Status

def all : List Status :=
  [unspecified, valid, invalid, schemaError, compilationError, recursionError, runtimeError]

def name : Status → String
  | unspecified => "UNSPECIFIED"
  | valid => "VALID"
  | invalid => "INVALID"
  | schemaError => "SCHEMA_ERROR"
  | compilationError => "COMPILATION_ERROR"
  | recursionError => "RECURSION_ERROR"
  | runtimeError => "RUNTIME_ERROR"

def number : Status → Nat
  | unspecified => 0
  | valid => 1
  | invalid => 2
  | schemaError => 3
  | compilationError => 4
  | recursionError => 5
  | runtimeError => 6

def description : Status → String
  | unspecified => "Status not specified (default)"
  | valid => "Message satisfied all of its constraints"
  | invalid => "Message violated one or more constraints"
  | schemaError => "Constraint metadata of the schema is malformed"
  | compilationError => "A constraint expression failed to compile"
  | recursionError => "Message nesting exceeded the maximum depth"
  | runtimeError => "A constraint expression could not be evaluated against the message"

/-- Whether the constraints could be evaluated, satisfied or not. -/
def evaluated (s : Status) : Bool := s == valid || s == invalid

def named? (s : String) : Option Status := all.find? (·.name == s)

def numbered? (n : Int) : Option Status := all.find? fun s => (s.number : Int) == n

end Status
end Conformance
