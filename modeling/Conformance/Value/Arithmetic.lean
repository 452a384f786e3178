import Conformance.Value.Bound
import Conformance.Value.Number
import Conformance.Value.Substitute

/-!
# Arithmetic

The unary and binary operators on values. Integers are exact, division rounds to a floating point number,
floor division and remainder round down; sequences are joined and repeated, times are shifted and scaled,
sets are subtracted, and texts take values into their directives.
-/

namespace Conformance

open Decimal Calendar

inductive UnaryOp where
  | plus
  | minus
  | invert
  | not
  deriving DecidableEq, Repr

inductive BinaryOp where
  | add
  | sub
  | mul
  | div
  | floorDiv
  | mod
  | pow
  | matMul
  | leftShift
  | rightShift
  | bitOr
  | bitXor
  | bitAnd
  deriving DecidableEq, Repr

namespace Value

/-! ## Floating point numbers -/

/-- The result of a number operation, unless it left the range although its operands had not. -/
def inRange (x : Binary64) : Except Fault Value :=
  if x.isInfinite then .error .tooLarge else .ok (float x)

def isOdd (x : Binary64) : Bool := x.isIntegral && x.truncInt?.any (· % 2 != 0)

def complexPower (re im y : Binary64) : Value :=
  let a := re.toMachine
  let b := im.toMachine
  let length := (Float.sqrt (a * a + b * b)).pow y.toMachine
  let phase := Float.atan2 b a * y.toMachine
  complex (.ofMachine (length * Float.cos phase)) (.ofMachine (length * Float.sin phase))

/-- `x` to the power of `y`. A negative number has complex roots. -/
def floatPower (x y : Binary64) : Except Fault Value :=
  let one := Binary64.ofInt 1
  let abs := x.abs
  if y.isZero then .ok (float one)
  else if x.isNan then .ok (float x)
  else if y.isNan then .ok (float (if x == one then one else y))
  else if y.isInfinite then
    if abs == one then .ok (float one)
    else if y.isNegative != (abs.compare? one == some .gt) then .ok (float (.infinite false))
    else .ok (float .zero)
  else if x.isInfinite then
    let size : Binary64 := if y.isNegative then .zero else .infinite false
    .ok (float (.withSign (x.isNegative && isOdd y) size))
  else if x.isZero then
    if y.isNegative then .error .divisionByZero
    else .ok (float (.withSign (x.isNegative && isOdd y) .zero))
  else if x.isNegative && !y.isIntegral then .ok (complexPower x .zero y)
  else if abs == one then .ok (float (.withSign (x.isNegative && isOdd y) one))
  else inRange (.withSign (x.isNegative && isOdd y) (abs.pow y))

/-- The exact quotient of two integers, rounded once. -/
def trueDivide (a b : Int) : Except Fault Value :=
  if b = 0 then .error .divisionByZero
  else inRange (.ofRatio (if b < 0 then -a else a) b.natAbs)

/-- Integers of more bits do not fit into memory. -/
def bitLimit : Nat := 4294967296

/-- An integer power; a negative exponent gives a floating point number. -/
def intPower (a b : Int) : Except Fault Value := do
  if 0 ≤ b then
    if a.natAbs ≤ 1 then return int (if b = 0 || (a < 0 && b % 2 = 0) then 1 else a)
    else if bitLimit < a.natAbs.log2 * b.toNat then throw .memoryExhausted
    else return int (Int.pow a b.toNat)
  else if a = 0 then throw .divisionByZero
  else floatPower (← floatOfInt a) (← floatOfInt b)

def intOp (op : BinaryOp) (a b : Int) : Except Fault Value :=
  match op with
  | .add => .ok (int (a + b))
  | .sub => .ok (int (a - b))
  | .mul => .ok (int (a * b))
  | .div => trueDivide a b
  | .floorDiv => if b = 0 then .error .divisionByZero else .ok (int (a.fdiv b))
  | .mod => if b = 0 then .error .divisionByZero else .ok (int (a.fmod b))
  | .pow => intPower a b
  | _ => .error .wrongType

def floatOp (op : BinaryOp) (x y : Binary64) : Except Fault Value :=
  match op with
  | .add => .ok (float (x.add y))
  | .sub => .ok (float (x.sub y))
  | .mul => .ok (float (x.mul y))
  | .div => if y.isZero then .error .divisionByZero else .ok (float (x.div y))
  | .floorDiv => if y.isZero then .error .divisionByZero else .ok (float (x.floorDivMod y).1)
  | .mod => if y.isZero then .error .divisionByZero else .ok (float (x.floorDivMod y).2)
  | .pow => floatPower x y
  | _ => .error .wrongType

/-- Operations on complex numbers, the first as `a + bi`, the second as `c + di`. -/
def complexOp (op : BinaryOp) (a b c d : Binary64) : Except Fault Value :=
  match op with
  | .add => .ok (complex (a.add c) (b.add d))
  | .sub => .ok (complex (a.sub c) (b.sub d))
  | .mul => .ok (complex ((a.mul c).sub (b.mul d)) ((a.mul d).add (b.mul c)))
  | .div =>
    if c.isZero && d.isZero then .error .divisionByZero
    else if (c.abs.compare? d.abs) != some .lt then
      let r := d.div c
      let n := c.add (d.mul r)
      .ok (complex ((a.add (b.mul r)).div n) ((b.sub (a.mul r)).div n))
    else
      let r := c.div d
      let n := (c.mul r).add d
      .ok (complex (((a.mul r).add b).div n) (((b.mul r).sub a).div n))
  | .pow =>
    if c.isZero && d.isZero then .ok (complex (.ofInt 1) .zero)
    else if !d.isZero then .error .wrongType
    else .ok (complexPower a b c)
  | _ => .error .wrongType

/-- A number by its real and its imaginary part. -/
def complexParts? : Value → Option (Decimal.Binary64 × Decimal.Binary64)
  | complex a b => some (a, b)
  | float x => some (x, .zero)
  | int n => some (.ofInt n, .zero)
  | bool b => some (.ofInt (if b then 1 else 0), .zero)
  | _ => Option.none

/-- Operations on numbers: exact on integers, complex if an operand is, floating point otherwise. -/
def numberOp (op : BinaryOp) (a b : Value) : Except Fault Value :=
  match a.integer?, b.integer? with
  | some m, some n => intOp op m n
  | _, _ =>
    match a, b with
    | complex .., _ | _, complex .. =>
      match a.complexParts?, b.complexParts? with
      | some (p, q), some (r, s) => complexOp op p q r s
      | _, _ => .error .wrongType
    | _, _ => do floatOp op (← a.real) (← b.real)

/-! ## Sequences -/

/-- Indices and counts stay below this number. -/
def indexLimit : Nat := 9223372036854775808

/-- Collections of more members do not fit into memory. -/
def memoryLimit : Nat := 68719476736

/-- A list that many times over; not at all for negative counts. -/
def repeatList {α : Type} (tooLong : Fault) (xs : List α) (n : Int) : Except Fault (List α) :=
  if indexLimit ≤ n.natAbs then .error .tooLarge
  else if xs.isEmpty then .ok []
  else if indexLimit ≤ xs.length * n.toNat then .error tooLong
  else if memoryLimit < xs.length * n.toNat then .error .memoryExhausted
  else .ok (List.replicate n.toNat xs).flatten

/-- A sequence that many times over; `none` when the value is no sequence. -/
def repeated? (v : Value) (n : Int) : Option (Except Fault Value) :=
  match v with
  | text s => some do return text (String.ofList (← repeatList .tooLarge s.toList n))
  | bytes b => some do return bytes (← repeatList .tooLarge b n)
  | list xs => some do return list (← repeatList .memoryExhausted xs n)
  | tuple xs => some do return tuple (← repeatList .memoryExhausted xs n)
  | _ => Option.none

/-! ## Times -/

def newSpan (micros : Int) : Except Fault Value :=
  match Span.ofMicros? micros with
  | some s => .ok (span s)
  | Option.none => .error .tooLarge

def newInstant (micros : Int) : Except Fault Value :=
  match Instant.ofMicros? micros with
  | some i => .ok (instant i)
  | Option.none => .error .tooLarge

/-- `a / b` to the nearest integer, halves to even. -/
def divideNearest (a b : Int) : Int :=
  let q : Int := Binary64.roundDiv a.natAbs b.natAbs
  if (a < 0) != (b < 0) then -q else q

def exactRatio (x : Binary64) : Except Fault (Int × Nat) :=
  match x with
  | .nan => .error .badValue
  | .infinite _ => .error .tooLarge
  | .finite .. => .ok (x.ratio?.getD (0, 1))

def scaleSpan (s : Span) (factor : Value) : Except Fault Value :=
  match factor with
  | float x => do
    let (a, b) ← exactRatio x
    newSpan (divideNearest (s.micros * a) b)
  | _ =>
    match factor.integer? with
    | some n => newSpan (s.micros * n)
    | Option.none => .error .wrongType

def divideSpan (s : Span) (factor : Value) : Except Fault Value :=
  match factor with
  | span t => trueDivide s.micros t.micros
  | float x => do
    let (a, b) ← exactRatio x
    if a = 0 then throw .divisionByZero
    newSpan (divideNearest (s.micros * b) a)
  | _ =>
    match factor.integer? with
    | some n => if n = 0 then .error .divisionByZero else newSpan (divideNearest s.micros n)
    | Option.none => .error .wrongType

/-- A span divided by a span or an integer, rounded down. -/
def floorDivideSpan (s : Span) (factor : Value) : Except Fault Value :=
  match factor with
  | span t => if t.micros = 0 then .error .divisionByZero else .ok (int (s.micros.fdiv t.micros))
  | _ =>
    match factor.integer? with
    | some n => if n = 0 then .error .divisionByZero else newSpan (s.micros.fdiv n)
    | Option.none => .error .wrongType

def timeOp (op : BinaryOp) (a b : Value) : Except Fault Value :=
  match op, a, b with
  | .add, instant i, span s => newInstant (i.micros + s.micros)
  | .add, span s, instant i => newInstant (i.micros + s.micros)
  | .add, span s, span t => newSpan (s.micros + t.micros)
  | .sub, instant i, instant j => .ok (span (i.since j))
  | .sub, instant i, span s => newInstant (i.micros - s.micros)
  | .sub, span s, span t => newSpan (s.micros - t.micros)
  | .mul, span s, b => scaleSpan s b
  | .div, span s, b => divideSpan s b
  | .floorDiv, span s, b => floorDivideSpan s b
  | .mod, span s, span t =>
    if t.micros = 0 then .error .divisionByZero else newSpan (s.micros.fmod t.micros)
  | _, _, _ => .error .wrongType

def isMoment : Value → Bool
  | message m => m.type == Schema.timestampName
  | _ => false

/-- What a message stands for; other values stand for themselves. -/
def standsFor : Value → Except Fault Value
  | message m => m.bound
  | v => .ok v

/-- Sums and differences with messages that stand for times. The moment in a message has no zone, so only another
such moment can be taken from it. -/
def messageOp (op : BinaryOp) (a b : Value) : Except Fault Value := do
  let x ← a.standsFor
  let y ← b.standsFor
  if a.isMoment && b.isMoment && op == .sub then timeOp .sub x y
  else if a.isMoment || b.isMoment then throw .wrongType
  else timeOp op x y

/-! ## Sets -/

/-- The members of a collection, without order for mappings. -/
def members? : Value → Option (List Value)
  | text s => some (s.toList.map fun c => text (String.singleton c))
  | bytes b => some (b.map fun x => int x.toNat)
  | list xs | tuple xs | set _ xs | elements _ xs => some xs
  | dict es | entries _ _ es | view _ .keys es => some (es.map (·.1))
  | view _ .values es => some (es.map (·.2))
  | view _ .items es => some (es.map fun (k, v) => tuple [k, v])
  | _ => Option.none

def isView : Value → Bool
  | view _ side _ => side != .values
  | _ => false

def subtractSets (a b : Value) : Except Fault Value :=
  match a, b with
  | set frozen xs, set _ ys => .ok (set frozen (xs.filter fun x => !isIn x ys))
  | _, _ =>
    if a.isView || b.isView then
      match a.members?, b.members? with
      | some xs, some ys =>
        if allHashable xs && allHashable ys then
          .ok (set false ((xs.foldl insertMember []).filter fun x => !isIn x ys))
        else .error .wrongType
      | _, _ => .error .wrongType
    else .error .wrongType

/-! ## Operators -/

def binary (op : BinaryOp) (a b : Value) : Except Fault Value :=
  match op, a, b with
  | .add, text s, text t => .ok (text (s ++ t))
  | .add, bytes s, bytes t => .ok (bytes (s ++ t))
  | .add, list xs, list ys => .ok (list (xs ++ ys))
  | .add, tuple xs, tuple ys => .ok (tuple (xs ++ ys))
  | .mod, text s, b => do return text (String.ofList (← Substitute.substitute false s.toList b))
  | .mod, bytes s, b => do
    let out ← Substitute.substitute true (Substitute.ofOctets s) b
    return bytes (out.map fun c => UInt8.ofNat c.toNat)
  | .mul, a, span s => scaleSpan s a
  | .add, message _, _ | .add, _, message _ | .sub, message _, _ | .sub, _, message _ => messageOp op a b
  | _, instant _, _ | _, span _, _ => timeOp op a b
  | .mul, a, b =>
    match b.integer?.bind (repeated? a), a.integer?.bind (repeated? b) with
    | some r, _ => r
    | _, some r => r
    | _, _ => numberOp op a b
  | .sub, set .., _ | .sub, view .., _ | .sub, _, view .. => subtractSets a b
  | _, _, _ => numberOp op a b

def negate : Value → Except Fault Value
  | float x => .ok (float x.neg)
  | complex a b => .ok (complex a.neg b.neg)
  | span s => newSpan (-s.micros)
  | v =>
    match v.integer? with
    | some n => .ok (int (-n))
    | Option.none => .error .wrongType

def unary (op : UnaryOp) (v : Value) : Except Fault Value :=
  match op with
  | .not => .ok (bool !v.truth)
  | .minus => v.negate
  | .plus =>
    match v with
    | float _ | complex .. | span _ => .ok v
    | _ => do return int (← v.index)
  | .invert => do return int (-(← v.index) - 1)

/-- The distance from zero. -/
def absolute : Value → Except Fault Value
  | float x => .ok (float x.abs)
  | complex a b =>
    let x := a.toMachine
    let y := b.toMachine
    inRange (.ofMachine (Float.sqrt (x * x + y * y)))
  | span s => newSpan s.micros.natAbs
  | v =>
    match v.integer? with
    | some n => .ok (int n.natAbs)
    | Option.none => .error .wrongType

end Value
end Conformance
