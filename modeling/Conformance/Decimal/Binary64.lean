/-!
# Binary floating point

Numbers of 64 bits as exact data: a finite number is a sign, a significand below 2^53 and a power of
two. Every operation is one rounding of an exact ratio, to nearest, halves to even, so comparisons and
arithmetic are statements about integers.
-/

namespace Conformance.Decimal

/-- A 64 bit binary floating point number. `finite s m e` stands for `±m · 2^e`; the significand has 53
bits unless the exponent is the least one, -1074. -/
inductive Binary64 where
  | nan
  | infinite (negative : Bool)
  | finite (negative : Bool) (significand : Nat) (exponent : Int)
  deriving DecidableEq, Inhabited, Repr

namespace Binary64

def zero : Binary64 := .finite false 0 (-1074)

def isNan : Binary64 → Bool
  | .nan => true
  | _ => false

def isInfinite : Binary64 → Bool
  | .infinite _ => true
  | _ => false

def isFinite : Binary64 → Bool
  | .finite .. => true
  | _ => false

/-- Neither zero; NaN is not zero. -/
def isZero : Binary64 → Bool
  | .finite _ 0 _ => true
  | _ => false

/-- The sign bit. NaN counts as positive. -/
def isNegative : Binary64 → Bool
  | .nan => false
  | .infinite n => n
  | .finite n _ _ => n

def neg : Binary64 → Binary64
  | .nan => .nan
  | .infinite n => .infinite !n
  | .finite n m e => .finite (!n) m e

def abs : Binary64 → Binary64
  | .nan => .nan
  | .infinite _ => .infinite false
  | .finite _ m e => .finite false m e

def withSign (negative : Bool) (x : Binary64) : Binary64 :=
  if negative then x.abs.neg else x.abs

/-! ## Exact values and rounding -/

/-- The numerator and denominator of `n · 2^e`. -/
def scaled (n : Int) : Int → Int × Nat
  | .ofNat e => (n * Int.pow 2 e, 1)
  | .negSucc e => (n, Nat.pow 2 (e + 1))

def ratio? : Binary64 → Option (Int × Nat)
  | .finite n m e => some (scaled (if n then -(m : Int) else m) e)
  | _ => none

/-- `num / den` to the nearest integer, halves to even. -/
def roundDiv (num den : Nat) : Nat :=
  let q := num / den
  let r := num % den
  if 2 * r < den then q
  else if den < 2 * r then q + 1
  else if q % 2 = 0 then q else q + 1

/-- `num / (den · 2^e)` to the nearest integer, halves to even. -/
def roundScaled (num den : Nat) : Int → Nat
  | .ofNat e => roundDiv num (den * Nat.pow 2 e)
  | .negSucc e => roundDiv (num * Nat.pow 2 (e + 1)) den

/-- The floating point format: bits of the significand, least and greatest exponent. -/
structure Format where
  precision : Nat
  least : Int
  greatest : Int

def double : Format := ⟨53, -1074, 971⟩

def single : Format := ⟨24, -149, 104⟩

/-- A number whose significand is shifted into the 53 bit form, as far as the least exponent allows. -/
def canonical (negative : Bool) (m : Nat) (e : Int) : Binary64 :=
  if m = 0 then .finite negative 0 (-1074)
  else
    let up := min (52 - m.log2) (e + 1074).toNat
    .finite negative (m * Nat.pow 2 up) (e - up)

/-- The number of a format nearest to `±num / den`. -/
def roundTo (f : Format) (negative : Bool) (num den : Nat) : Binary64 :=
  if num = 0 then .finite negative 0 (-1074)
  else
    -- a power of two that puts the quotient at or just above the wanted number of bits
    let guess : Int := (num.log2 : Int) - den.log2 - f.precision
    let tooSmall := roundScaled num den (guess + 1) < Nat.pow 2 (f.precision - 1)
    let e := max f.least (if tooSmall then guess else guess + 1)
    let m := roundScaled num den e
    let (m, e) := if m = Nat.pow 2 f.precision then (m / 2, e + 1) else (m, e)
    if f.greatest < e then .infinite negative else canonical negative m e

def ofRatio (num : Int) (den : Nat) : Binary64 := roundTo double (num < 0) num.natAbs den

/-- The nearest number; infinite when the integer is out of range. -/
def ofInt (n : Int) : Binary64 := ofRatio n 1

/-- The same number in the 32 bit format, seen as a 64 bit one. -/
def toSingle (x : Binary64) : Binary64 :=
  match x with
  | .finite n _ _ =>
    match x.ratio? with
    | some (a, b) => roundTo single n a.natAbs b
    | none => x
  | _ => x

/-! ## Comparison -/

/-- The order of two ratios with positive denominators. -/
def compareRatio (a b : Int × Nat) : Ordering := compare (a.1 * b.2) (b.1 * a.2)

/-- The order of two numbers, which NaN does not take part in. -/
def compare? : Binary64 → Binary64 → Option Ordering
  | .nan, _ => none
  | _, .nan => none
  | .infinite a, .infinite b => some (if a = b then .eq else if a then .lt else .gt)
  | .infinite a, .finite .. => some (if a then .lt else .gt)
  | .finite .., .infinite b => some (if b then .gt else .lt)
  | .finite a m e, .finite b n f =>
    some (compareRatio (scaled (if a then -(m : Int) else m) e) (scaled (if b then -(n : Int) else n) f))

/-- The order of a number and an integer, without rounding the integer. -/
def compareInt? (x : Binary64) (n : Int) : Option Ordering :=
  match x with
  | .nan => none
  | .infinite a => some (if a then .lt else .gt)
  | .finite a m e => some (compareRatio (scaled (if a then -(m : Int) else m) e) (n, 1))

/-- Equality of values: NaN differs from itself and both zeros are equal. -/
def same (x y : Binary64) : Bool := compare? x y == some .eq

/-! ## Arithmetic -/

/-- The exact sum rounded once. A sum of zero is positive unless both parts are negative. -/
def add : Binary64 → Binary64 → Binary64
  | .nan, _ => .nan
  | _, .nan => .nan
  | .infinite a, .infinite b => if a = b then .infinite a else .nan
  | .infinite a, _ => .infinite a
  | _, .infinite b => .infinite b
  | .finite a m e, .finite b n f =>
    let x := scaled (if a then -(m : Int) else m) e
    let y := scaled (if b then -(n : Int) else n) f
    let num := x.1 * y.2 + y.1 * x.2
    if num = 0 then .finite (a && b) 0 (-1074) else ofRatio num (x.2 * y.2)

def sub (x y : Binary64) : Binary64 := add x y.neg

def mul : Binary64 → Binary64 → Binary64
  | .nan, _ => .nan
  | _, .nan => .nan
  | .infinite a, y => if y.isZero then .nan else .infinite (a != y.isNegative)
  | x, .infinite b => if x.isZero then .nan else .infinite (x.isNegative != b)
  | .finite a m e, .finite b n f =>
    let x := scaled (m * n) (e + f)
    roundTo double (a != b) x.1.natAbs x.2

/-- The quotient; the divisor is not zero. -/
def div : Binary64 → Binary64 → Binary64
  | .nan, _ => .nan
  | _, .nan => .nan
  | .infinite a, y => if y.isInfinite then .nan else .infinite (a != y.isNegative)
  | .finite a _ _, .infinite b => .finite (a != b) 0 (-1074)
  | .finite a m e, .finite b n f =>
    let x := scaled m (e - f)
    roundTo double (a != b) x.1.natAbs (x.2 * n)

/-- The remainder of the quotient cut toward zero; it has the sign of `x`. -/
def rem : Binary64 → Binary64 → Binary64
  | .nan, _ => .nan
  | _, .nan => .nan
  | .infinite _, _ => .nan
  | x, .infinite _ => x
  | .finite a m e, .finite _ n f =>
    let x := scaled m e
    let y := scaled n f
    let r := (x.1 * y.2) % (y.1 * x.2)
    roundTo double a r.natAbs (x.2 * y.2)

def floorInt? (x : Binary64) : Option Int := x.ratio?.map fun (a, b) => a.fdiv b

def truncInt? (x : Binary64) : Option Int := x.ratio?.map fun (a, b) => a.tdiv b

def floor (x : Binary64) : Binary64 :=
  match x.floorInt? with
  | some n => withSign x.isNegative (ofInt n)
  | none => x

def isIntegral (x : Binary64) : Bool :=
  match x.ratio? with
  | some (a, b) => a % (b : Int) == 0
  | none => false

/-- Quotient rounded down and remainder with the sign of the divisor; the divisor is not zero. The
quotient is derived from the exact remainder, so that both fit each other. -/
def floorDivMod (x y : Binary64) : Binary64 × Binary64 :=
  let r := rem x y
  let q := div (sub x r) y
  let (r, q) :=
    if r.isZero then (withSign y.isNegative zero, q)
    else if r.isNan then (r, q)
    else if y.isNegative != r.isNegative then (add r y, sub q (ofInt 1))
    else (r, q)
  if q.isZero then (withSign (div x y).isNegative zero, r)
  else
    let down := floor q
    let half : Binary64 := ofRatio 1 2
    let q := if compare? (sub q down) half == some .gt then add down (ofInt 1) else down
    (q, r)

/-! ## Machine numbers

Powers and the functions they need are those of the machine; a number goes there and back by its bits. -/

/-- The bit above the digits of the significand, which only numbers near zero lack. -/
def leadingBit : Nat := 4503599627370496

def signBit : Nat := 9223372036854775808

def toBits : Binary64 → UInt64
  | .nan => 0x7FF8000000000000
  | .infinite n => (if n then 0x8000000000000000 else 0) + 0x7FF0000000000000
  | .finite n m e =>
    let sign : Nat := if n then signBit else 0
    if m < leadingBit then (sign + m).toUInt64
    else (sign + (e + 1075).toNat * leadingBit + (m - leadingBit)).toUInt64

def ofBits (bits : UInt64) : Binary64 :=
  let n : Nat := bits.toNat
  let negative := decide (signBit ≤ n)
  let e : Nat := n / leadingBit % 2048
  let m : Nat := n % leadingBit
  if e = 2047 then (if m = 0 then .infinite negative else .nan)
  else if e = 0 then .finite negative m (-1074)
  else .finite negative (leadingBit + m) ((e : Int) - 1075)

def toMachine (x : Binary64) : Float := Float.ofBits x.toBits

def ofMachine (x : Float) : Binary64 := ofBits x.toBits

def pow (x y : Binary64) : Binary64 := ofMachine (x.toMachine.pow y.toMachine)

end Binary64
end Conformance.Decimal
