import Conformance.Decimal.Binary64

/-!
# Decimal digits of a number

A positive number is written as the digits after the point of `0.d₁d₂…` and a power of ten. Digits are
either rounded to a wanted count or place, halves to even, or the fewest that read back as the number.
-/

namespace Conformance.Decimal

/-- The decimal digits of a natural number, at least one. -/
def digitsOf (n : Nat) : List Char := Nat.toDigits 10 n

def ofDigits (ds : List Char) : Nat := ds.foldl (fun n d => n * 10 + (d.toNat - 48)) 0

/-- The digits `0.d₁d₂… · 10^point`. -/
structure Digits where
  digits : List Char
  point : Int
  deriving DecidableEq, Repr

namespace Digits

def zero : Digits := ⟨['0'], 1⟩

/-- The same number without zeros at the end; one digit always stays. -/
def trimmed (d : Digits) : Digits :=
  match (d.digits.reverse.dropWhile (· == '0')).reverse with
  | [] => { d with digits := ['0'] }
  | ds => { d with digits := ds }

/-- The number `n · 10^scale`. -/
def ofScaled (n : Nat) (scale : Int) : Digits :=
  let ds := digitsOf n
  ⟨ds, ds.length + scale⟩

end Digits

/-- `num / den / 10^scale` as a ratio of natural numbers. -/
def unscale (num den : Nat) : Int → Nat × Nat
  | .ofNat s => (num, den * Nat.pow 10 s)
  | .negSucc s => (num * Nat.pow 10 (s + 1), den)

/-- The exponent of the first digit: `10^k ≤ num / den < 10^(k+1)`. -/
def leadingExponent (num den : Nat) : Int :=
  let k : Int := (digitsOf num).length - (digitsOf den).length
  let (a, b) := unscale num den k
  if b ≤ a then k else k - 1

/-- The first `count` digits of `num / den`, rounded. -/
def roundToCount (num den count : Nat) : Digits :=
  if num = 0 then ⟨List.replicate count '0', 1⟩
  else
    let scale := leadingExponent num den - count + 1
    let (a, b) := unscale num den scale
    let q := Binary64.roundDiv a b
    if q = Nat.pow 10 count then .ofScaled (Nat.pow 10 (count - 1)) (scale + 1) else .ofScaled q scale

/-- The digits of `num / den` up to `places` places after the point, rounded. Places that only hold zeros
before the first digit are no digits. -/
def roundToPlaces (num den places : Nat) : Digits :=
  let q := Binary64.roundDiv (num * Nat.pow 10 places) den
  if q = 0 then ⟨[], -(places : Int)⟩ else .ofScaled q (-(places : Int))

/-- Of the two neighbours of `num / den` with `count` digits, those that read back as `x`, the nearer
first; an exact tie takes the even one. -/
def candidate? (x : Binary64) (num den count : Nat) : Option Digits :=
  let scale := leadingExponent num den - count + 1
  let (a, b) := unscale num den scale
  let low := a / b
  let reads (n : Nat) : Bool :=
    let (c, d) := unscale n 1 (-scale)
    Binary64.roundTo Binary64.double false c d == x
  let nearest := Binary64.roundDiv a b
  let other := if nearest = low then low + 1 else low
  if reads nearest then some (.ofScaled nearest scale)
  else if reads other then some (.ofScaled other scale)
  else none

/-- The first count of digits from `count` on, `fuel` of them, at which a neighbour reads back. -/
def fewest (x : Binary64) (num den : Nat) : (count fuel : Nat) → Digits
  | count, 0 => roundToCount num den count
  | count, fuel + 1 =>
    match candidate? x num den count with
    | some d => d
    | none => fewest x num den (count + 1) fuel

/-- The fewest digits that read back as the finite number `x`, whose sign is left aside; seventeen always
do. -/
def shortest (x : Binary64) : Digits :=
  match x.abs.ratio? with
  | none => .zero
  | some (num, den) =>
    if num = 0 then .zero else (fewest x.abs num.natAbs den 1 16).trimmed

end Conformance.Decimal
