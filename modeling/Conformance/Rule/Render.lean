import Conformance.Value.Display

/-!
# Parameters in texts

How the parameter of a rule is written in the text of a violation.
-/

namespace Conformance

open Decimal

def Calendar.Span.rendered (s : Span) : String :=
  let seconds := Binary64.ofRatio s.micros 1000000
  (if s.micros < 0 then "-" else "") ++ String.ofList (layOut seconds (.general 6) {}) ++ "s"

namespace Value

mutual

def render : Value → Except Fault String
  | tuple xs | list xs | set true xs => do return "[" ++ ", ".intercalate (← renderAll xs) ++ "]"
  | bool b => .ok (if b then "true" else "false")
  | span s => .ok s.rendered
  | instant i => .ok i.isoText
  | pattern p => .ok p.source
  | v => v.plainText
termination_by structural x => x

def renderAll : List Value → Except Fault (List String)
  | [] => .ok []
  | x :: xs => do
    let s ← x.render
    return s :: (← renderAll xs)
termination_by structural x => x

end

end Value
end Conformance
