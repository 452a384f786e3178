import Conformance.Text.Case

/-!
# Letters that are the same but for case

Two letters are the same when their small letters are, or when these belong to one group of small letters
that share a capital.
-/

namespace Conformance.Pattern

def smallLetterGroups : List (List Nat) := [
  [0x0069, 0x0131], [0x0073, 0x017F], [0x00B5, 0x03BC], [0x0345, 0x03B9, 0x1FBE], [0x0390,
  0x1FD3], [0x03B0, 0x1FE3], [0x03B2, 0x03D0], [0x03B5, 0x03F5], [0x03B8, 0x03D1], [0x03BA,
  0x03F0], [0x03C0, 0x03D6], [0x03C1, 0x03F1], [0x03C2, 0x03C3], [0x03C6, 0x03D5], [0x0432,
  0x1C80], [0x0434, 0x1C81], [0x043E, 0x1C82], [0x0441, 0x1C83], [0x0442, 0x1C84, 0x1C85],
  [0x044A, 0x1C86], [0x0463, 0x1C87], [0x1C88, 0xA64B], [0x1E61, 0x1E9B], [0xFB05, 0xFB06]]

/-- The small letters that share a capital with the small letter `n`, itself included. -/
def kin (n : Nat) : List Nat :=
  match smallLetterGroups.find? (·.contains n) with
  | some group => group
  | none => [n]

/-- The small letter of a code point; `ascii` restricts case to the letters A to Z. -/
def small (ascii : Bool) (n : Nat) : Nat :=
  if n < 128 then (Char.ofNat n).toLower.toNat
  else if ascii || !n.isValidChar then n
  else (Text.smallLetter (Char.ofNat n)).toNat

def sameLetter (ascii : Bool) (m n : Nat) : Bool :=
  let a := small ascii m
  let b := small ascii n
  a == b || (!ascii && (kin a).contains b)

def withSmall (ascii : Bool) (n : Nat) : List Nat :=
  let capitals :=
    if ascii then (if 97 ≤ n && n ≤ 122 then [n - 32] else [])
    else (Text.smallTable.toList.filter (·.2.toNat == n)).map (·.1.toNat)
  n :: capitals

/-- Whether some code point from `low` to `high` is the letter `n` but for case. -/
def letterBetween (ascii : Bool) (low high n : Nat) : Bool :=
  let a := small ascii n
  let targets := if ascii then [a] else kin a
  targets.any fun t => (withSmall ascii t).any fun m => low ≤ m && m ≤ high && small ascii m == t

end Conformance.Pattern
