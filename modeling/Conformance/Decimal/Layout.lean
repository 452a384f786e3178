import Conformance.Decimal.Digits

/-!
# Layout of decimal numbers

Where the point of a number stands, when an exponent is written, and how many places are kept. Signs are
left to the caller: a layout shows the absolute value.
-/

namespace Conformance.Decimal

inductive Form where
  /-- The fewest digits that read back; an exponent below 0.0001 and from 10^16 on. -/
  | shortest
  /-- One digit, the point, `places` more and an exponent. -/
  | scientific (places : Nat)
  /-- `places` digits after the point. -/
  | positional (places : Nat)
  /-- `count` digits; an exponent below 0.0001 and from 10^count on. -/
  | general (count : Nat)
  deriving DecidableEq, Repr

structure Style where
  /-- Integers get `.0`. -/
  pointZero : Bool := false
  /-- The point and the zeros at the end stay. -/
  keepPoint : Bool := false
  capital : Bool := false
  deriving DecidableEq, Repr

def exponentText (capital : Bool) (e : Int) : List Char :=
  let ds := digitsOf e.natAbs
  (if capital then 'E' else 'e') :: (if e < 0 then '-' else '+') ::
    (if ds.length < 2 then '0' :: ds else ds)

/-- The digits with the point after the first `point` of them and zeros up to the place `last`. Zeros are
put in front where `point` is not positive. -/
def placeDigits (digits : List Char) (point last : Int) (keepPoint : Bool) : List Char :=
  let digits := if 0 < point then digits else List.replicate (1 - point).toNat '0' ++ digits
  let last := if 0 < point then last else last + 1 - point
  let point := if 0 < point then point else 1
  let padded := digits ++ List.replicate (max last point - digits.length).toNat '0'
  let whole := padded.take point.toNat
  let fraction := padded.drop point.toNat
  if fraction.isEmpty && !keepPoint then whole else whole ++ '.' :: fraction

def placeForm (d : Digits) (form : Form) (style : Style) : List Char :=
  let d := match form with
    | .general _ => if style.keepPoint then d else d.trimmed
    | _ => d
  let withExponent := match form with
    | .shortest => d.point ≤ -4 || 16 < d.point
    | .scientific _ => true
    | .positional _ => false
    | .general count => d.point ≤ -4 || (count : Int) - (if style.pointZero then 1 else 0) < d.point
  if withExponent then
    placeDigits d.digits 1 d.digits.length style.keepPoint ++ exponentText style.capital (d.point - 1)
  else
    let last : Int := match form with
      | .positional places => d.point + places
      | _ => d.digits.length
    let last := if style.pointZero && last ≤ d.point then d.point + 1 else last
    placeDigits d.digits d.point last style.keepPoint

def layOut (x : Binary64) (form : Form) (style : Style) : List Char :=
  let word (s : String) : List Char := (if style.capital then s.toUpper else s).toList
  match x with
  | .nan => word "nan"
  | .infinite _ => word "inf"
  | .finite .. =>
    match x.abs.ratio? with
    | none => word "nan"
    | some (num, den) =>
      let num := num.natAbs
      match form with
      | .shortest => placeForm (shortest x) form style
      | .scientific places => placeForm (roundToCount num den (places + 1)) form style
      | .positional places => placeForm (roundToPlaces num den places) form style
      | .general count => placeForm (roundToCount num den (max 1 count)) (.general (max 1 count)) style

/-- The text of a number that reads back as the number: the fewest digits, `.0` on integers. -/
def Binary64.text (x : Binary64) : String :=
  String.ofList ((if x.isNegative then ['-'] else []) ++ layOut x .shortest ⟨true, false, false⟩)

end Conformance.Decimal
