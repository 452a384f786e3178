import Conformance.Address.Host

/-!
# Mail addresses

A local part of up to 64 characters, an at sign, and labels with points between.
-/

namespace Conformance.Address

open Conformance.Text

def isLocalChar (c : Char) : Bool :=
  isAsciiAlphanumeric c || ".!#$%&'*+/=?^_\x60\x7b|\x7d~-".toList.contains c

/-- The shape of an address, whatever its length. -/
def hasMailShape (s : List Char) : Bool :=
  match splitFirst '@' s with
  | none => false
  | some (name, domain) =>
    !name.isEmpty && name.all isLocalChar && (cutAtAll ['.'] domain).all isLabel

/-- At most 254 characters, of which at most 64 before the at sign. -/
def isMail (s : List Char) : Bool :=
  s.length ≤ 254 && holdsOfLine hasMailShape s && (s.takeWhile (· != '@')).length ≤ 64

end Conformance.Address
