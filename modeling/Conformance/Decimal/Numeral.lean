import Conformance.Decimal.Digits
import Conformance.Text.Blank
import Conformance.Text.Digit

/-!
# Numerals

Reading integers and floating point numbers. Blanks around a numeral are left aside, the digits of every
script count, and single low lines may stand between digits.
-/

namespace Conformance.Decimal

/-- Decimal digits of every script become `0` to `9`, everything else stays. -/
def plainDigit (c : Char) : Char :=
  match Text.digitValue? c with
  | some v => Char.ofNat (48 + v)
  | none => c

/-- The numeral without blanks around it and with plain digits. -/
def plainNumeral (s : List Char) : List Char := (Text.trim Text.isBlank s).map plainDigit

/-- A sign that is not there counts as plus. -/
def takeSign : List Char → Bool × List Char
  | '+' :: r => (false, r)
  | '-' :: r => (true, r)
  | r => (false, r)

/-- Digits of a base, with single low lines only between two digits. -/
def digitValues? (base : Nat) : List Char → Option (List Nat)
  | [] => none
  | c :: rest =>
    match Text.baseDigitValue? c with
    | none => none
    | some v =>
      if base ≤ v then none
      else
        match rest with
        | [] => some [v]
        | '_' :: rest => (digitValues? base rest).map (v :: ·)
        | rest => (digitValues? base rest).map (v :: ·)

/-- Numerals of more digits are refused in bases that are no power of two. -/
def digitLimit : Nat := 4300

def isPowerOfTwo (n : Nat) : Bool := n == Nat.pow 2 n.log2

/-- The base that a mark after a leading zero stands for. -/
def markedBase? : Char → Option Nat
  | 'x' | 'X' => some 16
  | 'o' | 'O' => some 8
  | 'b' | 'B' => some 2
  | _ => none

/-- What is left after a base mark; one low line may follow it. -/
def afterMark : List Char → List Char
  | '_' :: r => r
  | r => r

/-- The base and the digits of an unsigned numeral in the wanted base. In base 0 the numeral itself says
its base, and a decimal one with a leading zero must be zero. -/
def digitsInBase? (base : Nat) (s : List Char) : Option (Nat × List Nat) :=
  match s with
  | '0' :: m :: rest =>
    match markedBase? m with
    | some b =>
      if base = 0 || base = b then (digitValues? b (afterMark rest)).map ((b, ·))
      else (digitValues? base s).map ((base, ·))
    | none =>
      if base = 0 then
        match digitValues? 10 s with
        | some vs => if vs.all (· == 0) then some (10, vs) else none
        | none => none
      else (digitValues? base s).map ((base, ·))
  | _ =>
    let base := if base = 0 then 10 else base
    (digitValues? base s).map ((base, ·))

/-- The integer that a numeral denotes in a base from 2 to 36, or in the base it says itself. -/
def readInteger? (base : Nat) (s : List Char) : Option Int :=
  let (negative, body) := takeSign (plainNumeral s)
  match digitsInBase? base body with
  | none => none
  | some (b, vs) =>
    if !isPowerOfTwo b && digitLimit < vs.length then none
    else
      let n : Int := (vs.foldl (fun n v => n * b + v) 0 : Nat)
      some (if negative then -n else n)

/-- Whether every low line stands between two digits; `afterDigit` says so of the start. -/
def linesBetweenDigits (afterDigit : Bool) : List Char → Bool
  | [] => true
  | '_' :: rest =>
    match rest with
    | [] => false
    | c :: _ => afterDigit && Text.isAsciiDigit c && linesBetweenDigits false rest
  | c :: rest => linesBetweenDigits (Text.isAsciiDigit c) rest

/-- The number `±mantissa · 10^exponent`; magnitudes far outside the range are not computed. -/
def ofScientific (negative : Bool) (mantissa : Nat) (exponent : Int) : Binary64 :=
  let size : Int := (digitsOf mantissa).length + exponent
  if mantissa = 0 then Binary64.withSign negative .zero
  else if 400 < size then .infinite negative
  else if size < -400 then Binary64.withSign negative .zero
  else
    let (a, b) := unscale mantissa 1 (-exponent)
    Binary64.roundTo Binary64.double negative a b

/-- The digits after a point, if there is one, and what follows them. -/
def takeFraction : List Char → List Char × List Char
  | '.' :: r => (r.takeWhile Text.isAsciiDigit, r.dropWhile Text.isAsciiDigit)
  | r => ([], r)

/-- The power of ten at the end of a numeral, zero if none is written. -/
def readExponent? : List Char → Option Int
  | [] => some 0
  | e :: r =>
    if e != 'e' && e != 'E' then none
    else
      let (minus, ds) := takeSign r
      if ds.isEmpty || !ds.all Text.isAsciiDigit then none
      else some (if minus then -(ofDigits ds : Int) else ofDigits ds)

/-- An unsigned decimal numeral, which has digits, a point and digits, and an exponent: the number of all its digits, and
the power of ten that goes with it. -/
def readScientific? (s : List Char) : Option (Nat × Int) :=
  let whole := s.takeWhile Text.isAsciiDigit
  let (fraction, rest) := takeFraction (s.dropWhile Text.isAsciiDigit)
  if whole.isEmpty && fraction.isEmpty then none
  else (readExponent? rest).map fun e => (ofDigits (whole ++ fraction), e - fraction.length)

/-- The number nearest to what an unsigned numeral denotes. -/
def readUnsigned? (negative : Bool) (s : List Char) : Option Binary64 :=
  let lowered := String.ofList (s.map Char.toLower)
  if lowered == "inf" || lowered == "infinity" then some (.infinite negative)
  else if lowered == "nan" then some .nan
  else (readScientific? s).map fun d => ofScientific negative d.1 d.2

def readNumber? (s : List Char) : Option Binary64 :=
  let plain := plainNumeral s
  if !linesBetweenDigits false plain then none
  else
    let (negative, body) := takeSign (plain.filter (· != '_'))
    readUnsigned? negative body

end Conformance.Decimal
