import Conformance.Proofs.Address.Forms
import Conformance.Proofs.Constraint.Typed
import Conformance.Proofs.Text.Utf8

/-!
# Pattern rules and matches

Pattern rules compile their expression once, and calls of `matches` compile it when they are made. Both ask the same of
a text, and of octets what they ask of the text with that form in UTF-8.
-/

namespace Conformance

open Rule Compile

variable {source : String} {p : Pattern}

/-! ## Searches -/

namespace Expr.Library

end Expr.Library

/-! ## Rules -/

namespace Rule

end Rule

/-- What a check says of a value: nothing if it is satisfied, else its text, whatever time it is. -/
def Check.Answers (c : Check) (s : Schema) (v : Value) (b : Bool) : Prop :=
  ∀ now, c.run s v now = .ok (if b then none else some c.message)

namespace Pattern

open Expr.Library

end Pattern
end Conformance
