/-!
# Faults

The kinds of failure that a single operation on values can end in. A kind is all that later answers show,
but for the one fault that names a missing field.
-/

namespace Conformance

inductive Fault where
  | wrongType
  | badValue
  | divisionByZero
  | badIndex
  | missingKey
  | missingAttribute
  | tooLarge
  | badPattern
  /-- A name without a value anywhere. -/
  | unknownName
  /-- A local name read before it has a value. -/
  | unassignedName
  | invalidSyntax
  /-- Octets that are no text in the code they are said to be in. -/
  | undecodable
  /-- A code for texts that nobody knows. -/
  | unknownCode
  | stackExhausted
  | memoryExhausted
  /-- A message type has no field of that name; the name is shown as it was given. -/
  | noField (name type : String)
  deriving DecidableEq, Repr

namespace Fault

def kind : Fault → String
  | wrongType => "TypeError"
  | badValue => "ValueError"
  | divisionByZero => "ZeroDivisionError"
  | badIndex => "IndexError"
  | missingKey => "KeyError"
  | missingAttribute => "AttributeError"
  | tooLarge => "OverflowError"
  | badPattern => "error"
  | unknownName => "NameError"
  | unassignedName => "UnboundLocalError"
  | invalidSyntax => "SyntaxError"
  | undecodable => "UnicodeDecodeError"
  | unknownCode => "LookupError"
  | stackExhausted => "RecursionError"
  | memoryExhausted => "MemoryError"
  | noField .. => "ValueError"

/-- What an error text says of the fault: its kind, and the details where there are any. -/
def text : Fault → String
  | noField name type => "ValueError: no field named " ++ name ++ " in " ++ type
  | f => f.kind

end Fault
end Conformance
