/-!
# Blanks

The white space of all scripts (Unicode 14), cutting blanks off a text and splitting a text at them.
-/

namespace Conformance.Text

/-- White space: the separators of Unicode, the control characters that move the position, and the
information separators. -/
def isBlank (c : Char) : Bool :=
  let n := c.toNat
  (9 ≤ n && n ≤ 13) || (28 ≤ n && n ≤ 32) || n == 133 || n == 160 || n == 5760 ||
    (8192 ≤ n && n ≤ 8202) || n == 8232 || n == 8233 || n == 8239 || n == 8287 || n == 12288

/-- White space of byte strings: the space and the controls from tab to carriage return. -/
def isBlankByte (b : UInt8) : Bool := (9 ≤ b && b ≤ 13) || b == 32

variable {α : Type}

def trim (p : α → Bool) (s : List α) : List α :=
  ((s.dropWhile p).reverse.dropWhile p).reverse

/-- Cuts off at most `limit` pieces that end at the elements for which `p` holds; runs of such
elements separate once. What is left after `limit` cuts is one last piece without leading blanks. -/
def wordsUpTo (p : α → Bool) (limit : Nat) (s : List α) : List (List α) :=
  match s.dropWhile p with
  | [] => []
  | c :: rest =>
    match limit with
    | 0 => [c :: rest]
    | n + 1 =>
      (c :: rest).takeWhile (!p ·) :: wordsUpTo p n ((c :: rest).dropWhile (!p ·))

def wordsBy (p : α → Bool) (s : List α) : List (List α) := wordsUpTo p s.length s

end Conformance.Text
