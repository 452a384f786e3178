import Conformance.Calendar.Patterned
import Conformance.Value.Display

/-!
# Format specifications

How a value is laid out in a text: fill and alignment, sign, width, grouping of digits, precision and the
kind of number. A specification that does not fit the value is refused.
-/

namespace Conformance

open Decimal

inductive Align where
  | left
  | right
  | center
  /-- Between the sign and the digits. -/
  | inside
  deriving DecidableEq, Repr

inductive Sign where
  | minus
  | plus
  | space
  deriving DecidableEq, Repr

structure Spec where
  fill : Char := ' '
  align : Option Align := none
  sign : Option Sign := none
  /-- A number that rounds to zero has no minus sign. -/
  plainZero : Bool := false
  alternate : Bool := false
  width : Nat := 0
  grouping : Option Char := none
  precision : Option Nat := none
  kind : Option Char := none
  deriving DecidableEq, Repr

namespace Spec

def align? : Char → Option Align
  | '<' => some .left
  | '>' => some .right
  | '^' => some .center
  | '=' => some .inside
  | _ => none

def sign? : Char → Option Sign
  | '+' => some .plus
  | '-' => some .minus
  | ' ' => some .space
  | _ => none

def takeNumber (s : List Char) : Nat × List Char :=
  ((s.takeWhile Text.isDigit).foldl (fun n c => n * 10 + (Text.digitValue? c).getD 0) 0,
    s.dropWhile Text.isDigit)

def takeAlign (s : List Char) : Spec × Bool × List Char :=
  match s with
  | fill :: a :: rest =>
    match align? a with
    | some align => ({ fill, align := some align }, true, rest)
    | none =>
      match align? fill with
      | some align => ({ align := some align }, false, a :: rest)
      | none => ({}, false, s)
  | [a] =>
    match align? a with
    | some align => ({ align := some align }, false, [])
    | none => ({}, false, s)
  | [] => ({}, false, s)

/-- Separators of digit groups go with decimal numbers, the low line also with other bases. -/
def groupingFits (s : Spec) : Bool :=
  match s.grouping, s.kind with
  | none, _ => true
  | some _, none => true
  | some c, some k =>
    "defgEG%F".toList.contains k || (c == '_' && "boxX".toList.contains k)

/-- Widths and precisions from here on are refused. -/
def numberLimit : Nat := 9223372036854775807

/-- Reads a specification; `numeric` says that zeros in front of the width stand between sign and digits. -/
def ofText? (numeric : Bool) (text : List Char) : Option Spec := do
  let (spec, filled, s) := takeAlign text
  let (spec, s) := match s with
    | c :: rest =>
      match sign? c with
      | some sign => ({ spec with sign := some sign }, rest)
      | none => (spec, s)
    | [] => (spec, s)
  let (spec, s) := match s with
    | 'z' :: rest => ({ spec with plainZero := true }, rest)
    | _ => (spec, s)
  let (spec, s) := match s with
    | '#' :: rest => ({ spec with alternate := true }, rest)
    | _ => (spec, s)
  let (spec, s) := match s with
    | '0' :: rest =>
      if filled then (spec, s)
      else
        let align := if numeric && spec.align.isNone then some Align.inside else spec.align
        ({ spec with fill := '0', align }, rest)
    | _ => (spec, s)
  let (width, s) := takeNumber s
  if numberLimit < width then none
  let spec := { spec with width }
  let (spec, s) := match s with
    | ',' :: rest => ({ spec with grouping := some ',' }, rest)
    | '_' :: rest => ({ spec with grouping := some '_' }, rest)
    | _ => (spec, s)
  if spec.grouping.isSome && (s.head? == some '_' || s.head? == some ',') then none
  let (spec, s) ← match s with
    | '.' :: rest =>
      if !rest.head?.any Text.isDigit then none
      else
        let (n, rest) := takeNumber rest
        if numberLimit < n then none else some ({ spec with precision := some n }, rest)
    | _ => some (spec, s)
  let spec ← match s with
    | [] => some spec
    | [k] => some { spec with kind := some k }
    | _ => none
  if spec.groupingFits then some spec else none

def pad (spec : Spec) (default : Align) (s : List Char) : List Char :=
  let missing := spec.width - s.length
  let fill (n : Nat) : List Char := List.replicate n spec.fill
  match spec.align.getD default with
  | .left => s ++ fill missing
  | .center => fill (missing / 2) ++ s ++ fill (missing - missing / 2)
  | _ => fill missing ++ s

def applyText (spec : Spec) (s : List Char) : Except Fault (List Char) :=
  if spec.sign.isSome || spec.plainZero || spec.alternate || spec.align == some .inside ||
      spec.grouping.isSome || (spec.kind.isSome && spec.kind != some 's') then .error .badValue
  else
    let s := match spec.precision with
      | some n => s.take n
      | none => s
    .ok (spec.pad .left s)

/-- Digits, read backwards, in groups with separators and zeros up to a width. The fuel bounds the number
of groups. -/
def groupDigits (size : Nat) (separator : Char) : (fuel : Nat) → (width : Int) → List Char → List Char
  | 0, _, ds => ds
  | fuel + 1, width, ds =>
    let l := min size (max (max ds.length width.toNat) 1)
    let group := ds.take l ++ List.replicate (l - ds.length) '0'
    let rest := ds.drop l
    let width := width - l
    if rest.isEmpty && width ≤ 0 then group
    else group ++ separator :: groupDigits size separator fuel (width - 1) rest

/-- A number in parts: minus sign or not, the mark of its base, its integer digits and what follows them. -/
structure Parts where
  negative : Bool
  mark : List Char
  digits : List Char
  rest : List Char

def signText (spec : Spec) (negative : Bool) : List Char :=
  if negative then ['-']
  else
    match spec.sign with
    | some .plus => ['+']
    | some .space => [' ']
    | _ => []

def applyParts (spec : Spec) (p : Parts) : List Char :=
  let sign := spec.signText p.negative
  let others : Int := (sign.length + p.mark.length + p.rest.length : Nat)
  let zeros : Int :=
    if spec.fill = '0' && spec.align == some .inside then max 0 (spec.width - others) else 0
  let size := if spec.kind.any fun k => "boxX".toList.contains k then 4 else 3
  let digits :=
    if p.digits.isEmpty then []
    else
      match spec.grouping with
      | some c =>
        (groupDigits size c (p.digits.length + spec.width + 1) zeros p.digits.reverse).reverse
      | none => List.replicate (zeros.toNat - p.digits.length) '0' ++ p.digits
  let missing := spec.width - (sign.length + p.mark.length + digits.length + p.rest.length)
  let fill (n : Nat) : List Char := List.replicate n spec.fill
  match spec.align.getD .right with
  | .left => sign ++ p.mark ++ digits ++ p.rest ++ fill missing
  | .center =>
    fill (missing / 2) ++ sign ++ p.mark ++ digits ++ p.rest ++ fill (missing - missing / 2)
  | .inside => sign ++ p.mark ++ fill missing ++ digits ++ p.rest
  | .right => fill missing ++ sign ++ p.mark ++ digits ++ p.rest

def form (kind : Option Char) (precision : Option Nat) : Option (Form × Style) :=
  let p := precision.getD 6
  match kind with
  | none =>
    match precision with
    | none => some (.shortest, { pointZero := true })
    | some p => some (.general p, { pointZero := true })
  | some 'e' => some (.scientific p, {})
  | some 'E' => some (.scientific p, { capital := true })
  | some 'f' | some '%' => some (.positional p, {})
  | some 'F' => some (.positional p, { capital := true })
  | some 'g' | some 'n' => some (.general p, {})
  | some 'G' => some (.general p, { capital := true })
  | _ => none

/-- Precisions from here on are refused. -/
def precisionLimit : Nat := 2147483647

def applyFloat (spec : Spec) (x : Binary64) : Except Fault (List Char) :=
  match form spec.kind spec.precision with
  | none => .error .badValue
  | some (f, style) =>
    if spec.precision.any (precisionLimit < ·) then .error .badValue
    else
      let x := if spec.kind == some '%' then x.mul (.ofInt 100) else x
      let s := layOut x f { style with keepPoint := spec.alternate }
      let isZero := s.all fun c => c == '0' || c == '.' || !Text.isAsciiDigit c
      let negative := x.isNegative && !(spec.plainZero && x.isFinite && isZero)
      let rest := s.dropWhile Text.isAsciiDigit ++ (if spec.kind == some '%' then ['%'] else [])
      .ok (spec.applyParts ⟨negative, [], s.takeWhile Text.isAsciiDigit, rest⟩)

def baseDigits (base n : Nat) : List Char := Nat.toDigits base n

/-- An integer by a specification; kinds for fractions take it as a floating point number. -/
def applyInt (spec : Spec) (n : Int) : Except Fault (List Char) :=
  let whole (base : Nat) (mark : String) (capital : Bool) : Except Fault (List Char) :=
    if spec.precision.isSome || spec.plainZero then .error .badValue
    else
      let ds := baseDigits base n.natAbs
      let ds := if capital then ds.map Char.toUpper else ds
      .ok (spec.applyParts ⟨n < 0, if spec.alternate then mark.toList else [], ds, []⟩)
  match spec.kind with
  | none | some 'd' | some 'n' =>
    if spec.precision.isSome || spec.plainZero then .error .badValue
    else do
      let s ← integerText n.natAbs
      return spec.applyParts ⟨n < 0, [], s.toList, []⟩
  | some 'b' => whole 2 "0b" false
  | some 'o' => whole 8 "0o" false
  | some 'x' => whole 16 "0x" false
  | some 'X' => whole 16 "0X" true
  | some 'c' =>
    if spec.precision.isSome || spec.plainZero || spec.sign.isSome || spec.alternate then .error .badValue
    else if n < 0 || 0x10FFFF < n then .error .tooLarge
    else .ok (spec.applyParts ⟨false, [], [Char.ofNat n.toNat], []⟩)
  | _ =>
    if (form spec.kind spec.precision).isNone then .error .badValue
    else
      let x := Binary64.ofInt n
      if x.isInfinite then .error .tooLarge else spec.applyFloat x

end Spec

namespace Value

/-- The text of a value by a format specification. The empty one gives the plain text. -/
def format (v : Value) (spec : String) : Except Fault String := do
  if spec.isEmpty then v.plainText
  else
    let read (numeric : Bool) : Except Fault Spec :=
      match Spec.ofText? numeric spec.toList with
      | some s => .ok s
      | Option.none => .error .badValue
    match v with
    | text s => return String.ofList (← (← read false).applyText s.toList)
    | int n => return String.ofList (← (← read true).applyInt n)
    | bool b => return String.ofList (← (← read true).applyInt (if b then 1 else 0))
    | float x => return String.ofList (← (← read true).applyFloat x)
    | instant i => return String.ofList (i.patterned spec.toList)
    | complex .. => throw .badValue
    | _ => throw .wrongType

end Value
end Conformance
