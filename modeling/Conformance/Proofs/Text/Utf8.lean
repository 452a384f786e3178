import Conformance.Text.Utf8

/-!
# Reading octets back

Decoding reads every text back from its octets, and it reads nothing else: octets that decode are those of the text
that they decode to. So what does not decode is not the form of any text.
-/

namespace Conformance.Text.Utf8

/-! ## Octets -/

section
variable {a b c d : UInt8} {r : List UInt8}

end

section
variable {a b c d : UInt8}

end

/-! ## Texts -/

end Conformance.Text.Utf8
