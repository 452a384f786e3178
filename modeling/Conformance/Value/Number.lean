import Conformance.Value.Basic

/-!
# Numbers among values

Reading a value as an integer or as a floating point number.
-/

namespace Conformance.Value

open Decimal

/-- An integer as a floating point number, unless it is out of range. -/
def floatOfInt (n : Int) : Except Fault Binary64 :=
  let x := Binary64.ofInt n
  if x.isInfinite then .error .tooLarge else .ok x

def real : Value → Except Fault Binary64
  | float x => .ok x
  | v =>
    match v.integer? with
    | some n => floatOfInt n
    | Option.none => .error .wrongType

def truncated (x : Binary64) : Except Fault Int :=
  match x with
  | .nan => .error .badValue
  | .infinite _ => .error .tooLarge
  | .finite .. => .ok (x.truncInt?.getD 0)

/-- The integer that a number stands for, its fraction cut off. -/
def whole : Value → Except Fault Int
  | float x => truncated x
  | v =>
    match v.integer? with
    | some n => .ok n
    | Option.none => .error .wrongType

/-- The integer that an index is; numbers with a fraction type are none. -/
def index (v : Value) : Except Fault Int :=
  match v.integer? with
  | some n => .ok n
  | Option.none => .error .wrongType

end Conformance.Value
