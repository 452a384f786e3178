import Conformance.Value.Number
import Conformance.Value.Same
import Conformance.Value.Spec

/-!
# Substitution into texts

A text with directives such as `%d` and the values to put in their places: a tuple of values, one value, or
a mapping for directives with a name. Byte strings are texts of their octets here.
-/

namespace Conformance.Substitute

open Decimal

structure Directive where
  left : Bool := false
  sign : Option Char := none
  alternate : Bool := false
  zero : Bool := false
  width : Nat := 0
  precision : Option Nat := none

/-- The values that are left: those of a tuple, or one value that may be used once. -/
structure Supply where
  mapping : Option Value
  /-- What is left to use. -/
  values : List Value

def next (s : Supply) : Except Fault (Value × Supply) :=
  match s.values with
  | v :: rest => .ok (v, { s with values := rest })
  | [] => .error .wrongType

/-- The flags of a directive in any order. -/
def flags (d : Directive) : List Char → Directive × List Char
  | '-' :: r => flags { d with left := true } r
  | '+' :: r => flags { d with sign := some '+' } r
  | ' ' :: r => flags { d with sign := d.sign.or (some ' ') } r
  | '#' :: r => flags { d with alternate := true } r
  | '0' :: r => flags { d with zero := true } r
  | r => (d, r)

/-- Numbers in directives are refused from here on. -/
def limit : Nat := 2147483647

/-- A number in a directive: digits, or a star that takes the next value. -/
def number (s : List Char) (supply : Supply) : Except Fault (Option Int × List Char × Supply) :=
  match s with
  | '*' :: r => do
    let (v, supply) ← next supply
    match v.integer? with
    | some n => if limit < n.natAbs then .error .tooLarge else return (some n, r, supply)
    | none => .error .wrongType
  | _ =>
    let ds := s.takeWhile Text.isAsciiDigit
    if ds.isEmpty then .ok (none, s, supply)
    else if limit < ofDigits ds then .error .badValue
    else .ok (some (ofDigits ds), s.dropWhile Text.isAsciiDigit, supply)

def padText (d : Directive) (s : List Char) : List Char :=
  let s := match d.precision with
    | some n => s.take n
    | none => s
  let fill := List.replicate (d.width - s.length) ' '
  if d.left then s ++ fill else fill ++ s

/-- A number in the width of a directive; zeros stand after the sign and the mark of the base. -/
def padNumber (d : Directive) (negative : Bool) (mark digits : List Char) : List Char :=
  let sign := if negative then ['-'] else d.sign.toList
  let missing := d.width - (sign.length + mark.length + digits.length)
  if d.left then sign ++ mark ++ digits ++ List.replicate missing ' '
  else if d.zero then sign ++ mark ++ List.replicate missing '0' ++ digits
  else List.replicate missing ' ' ++ sign ++ mark ++ digits

/-- An integer in a base; the precision is the least number of digits. -/
def integer (d : Directive) (kind : Char) (v : Value) : Except Fault (List Char) := do
  let n ← if kind = 'd' then v.whole else v.index
  let digits ← match kind with
    | 'o' => pure (Nat.toDigits 8 n.natAbs)
    | 'x' => pure (Nat.toDigits 16 n.natAbs)
    | 'X' => pure ((Nat.toDigits 16 n.natAbs).map Char.toUpper)
    | _ => pure (← integerText n.natAbs).toList
  let mark := if d.alternate && kind != 'd' then ['0', kind] else []
  return padNumber d (n < 0) mark (List.replicate (d.precision.getD 0 - digits.length) '0' ++ digits)

def fraction (d : Directive) (kind : Char) (v : Value) : Except Fault (List Char) := do
  let x ← v.real
  match Spec.form (some kind) (some (d.precision.getD 6)) with
  | none => throw .badValue
  | some (form, style) =>
    return padNumber d x.isNegative [] (layOut x form { style with keepPoint := d.alternate })

def ofOctets (b : List UInt8) : List Char := b.map fun x => Char.ofNat x.toNat

def character (octets : Bool) (v : Value) : Except Fault (List Char) :=
  match v with
  | .text s => if !octets && s.length = 1 then .ok s.toList else .error .wrongType
  | .bytes b => if octets && b.length = 1 then .ok (ofOctets b) else .error .wrongType
  | _ =>
    match v.integer? with
    | some n =>
      if n < 0 || (if octets then 0xFF else 0x10FFFF) < n then .error .tooLarge
      else .ok [Char.ofNat n.toNat]
    | none => .error .wrongType

def convert (octets : Bool) (d : Directive) (kind : Char) (v : Value) : Except Fault (List Char) :=
  match kind with
  | 's' | 'b' =>
    if octets then
      match v with
      | .bytes b => .ok (padText d (ofOctets b))
      | _ => .error .wrongType
    else if kind = 'b' then .error .badValue
    else return padText d (← v.plainText).toList
  | 'r' => return padText d (← if octets then v.asciiDisplay else v.display).toList
  | 'a' => return padText d (← v.asciiDisplay).toList
  | 'd' | 'i' | 'u' => integer d 'd' v
  | 'o' | 'x' | 'X' => integer d kind v
  | 'e' | 'E' | 'f' | 'F' | 'g' | 'G' => fraction d kind v
  | 'c' => return padText { d with precision := none } (← character octets v)
  | _ => .error .badValue

/-- The name in parentheses after an opening one, where parentheses may nest. -/
def name (depth : Nat) : List Char → Option (List Char × List Char)
  | [] => none
  | ')' :: r => if depth = 0 then some ([], r) else (name (depth - 1) r).map fun (a, b) => (')' :: a, b)
  | '(' :: r => (name (depth + 1) r).map fun (a, b) => ('(' :: a, b)
  | c :: r => (name depth r).map fun (a, b) => (c :: a, b)

/-- The supply for a directive with a name: the value that the mapping has for it. -/
def named (octets : Bool) (key : List Char) (s : Supply) : Except Fault Supply :=
  match s.mapping with
  | none => .error .wrongType
  | some m =>
    let key := if octets then Value.bytes (key.map fun c => UInt8.ofNat c.toNat)
      else Value.text (String.ofList key)
    match m with
    | .dict es | .entries _ _ es =>
      match Value.lookup? es key with
      | some v => .ok { s with values := [v] }
      | none => .error .missingKey
    | _ => .error .wrongType

/-- A directive after its percent sign: what it gives, what follows it, and what is left. -/
def directive (octets : Bool) (s : List Char) (supply : Supply) :
    Except Fault (List Char × List Char × Supply) := do
  let (s, supply) ← match s with
    | '(' :: r =>
      match name 0 r with
      | none => if supply.mapping.isNone then throw .wrongType else throw .badValue
      | some (key, r) => pure (r, ← named octets key supply)
    | _ => pure (s, supply)
  let (d, s) := flags {} s
  let (width, s, supply) ← number s supply
  let d := match width with
    | none => d
    | some n => if n < 0 then { d with left := true, width := n.natAbs } else { d with width := n.toNat }
  let (d, s, supply) ← match s with
    | '.' :: r => do
      let (n, r, supply) ← number r supply
      pure ({ d with precision := some (n.getD 0).toNat }, r, supply)
    | _ => pure (d, s, supply)
  let s := match s with
    | c :: r => if c = 'h' || c = 'l' || c = 'L' then r else s
    | [] => s
  match s with
  | [] => throw .badValue
  | '%' :: r => return (['%'], r, supply)
  | kind :: r =>
    let (v, supply) ← next supply
    return (← convert octets d kind v, r, supply)

/-- Goes through a text and puts values into the places of its directives. The fuel bounds the number of
directives. -/
def run (octets : Bool) : (fuel : Nat) → List Char → Supply → Except Fault (List Char)
  | 0, _, _ => .error .badValue
  | fuel + 1, s, supply => do
    let plain := s.takeWhile (· != '%')
    match s.dropWhile (· != '%') with
    | [] =>
      if !supply.values.isEmpty && supply.mapping.isNone then throw .wrongType
      return plain
    | _ :: rest =>
      let (given, rest, supply) ← directive octets rest supply
      return plain ++ given ++ (← run octets fuel rest supply)

def supplyOf (octets : Bool) (v : Value) : Supply :=
  match v with
  | .tuple xs => ⟨none, xs⟩
  | .dict _ | .list _ | .elements .. | .entries .. => ⟨some v, [v]⟩
  | .bytes _ => ⟨if octets then none else some v, [v]⟩
  | _ => ⟨none, [v]⟩

/-- The text with the values in place. -/
def substitute (octets : Bool) (s : List Char) (v : Value) : Except Fault (List Char) :=
  run octets (s.length + 1) s (supplyOf octets v)

end Conformance.Substitute
