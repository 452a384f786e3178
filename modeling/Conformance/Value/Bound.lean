import Conformance.Schema.Known
import Conformance.Value.Basic

/-!
# Values as expressions see them

Messages that stand for a time or a span are bound as such; all other values are bound as they are.
-/

namespace Conformance

open Calendar

/-- The number in an integer field, zero when it is unset. -/
def Message.integer (m : Message) (name : String) : Int :=
  match m.single? name with
  | some (.int n) => n
  | _ => 0

/-- The time or span that a message stands for, or the message itself. Years before 1 and after 9999 and
fractions that are none cannot be bound, nor can spans of more than 999999999 days. -/
def Message.bound (m : Message) : Except Fault Value :=
  if m.type == Schema.timestampName then
    match Instant.ofParts? (m.integer "seconds") (m.integer "nanos") with
    | some i => .ok (.instant i)
    | none => .error .badValue
  else if m.type == Schema.durationName then
    match Span.ofParts? (m.integer "seconds") (m.integer "nanos") with
    | some s => .ok (.span s)
    | none => .error .tooLarge
  else .ok (.message m)

def Datum.bound : Datum → Except Fault Value
  | .message m => m.bound
  | d => .ok (.ofDatum d)

def boundAll : List Datum → Except Fault (List Value)
  | [] => .ok []
  | d :: ds => do
    let v ← d.bound
    return v :: (← boundAll ds)

def boundEntries : List (Datum × Datum) → Except Fault (List (Value × Value))
  | [] => .ok []
  | (k, d) :: es => do
    let v ← d.bound
    return (.ofDatum k, v) :: (← boundEntries es)

end Conformance
