import Conformance.Text.Search
import Conformance.Value.Arithmetic

/-!
# Members of collections

Subscripts, slices and membership.
-/

namespace Conformance.Value

/-! ## Places -/

/-- The place that an index names in a sequence of `size` members; negative ones count from the end. -/
def place? (size : Nat) (i : Int) : Option Nat :=
  let j := if i < 0 then i + size else i
  if 0 ≤ j ∧ j < size then some j.toNat else Option.none

/-- A bound of a slice as a place from `low` to `high`. -/
def clampBound (size : Nat) (low high : Int) (i : Int) : Int :=
  if i < 0 then max (i + size) low else min i high

/-- A part of a slice: an integer, or nothing. -/
def sliceBound : Value → Except Fault (Option Int)
  | none => .ok Option.none
  | v => do return some (← v.index)

/-- The places of a slice in a sequence of `size` members. -/
def slicePlaces (size : Nat) (start stop step : Value) : Except Fault (List Nat) := do
  let stride := (← sliceBound step).getD 1
  if stride = 0 then throw .badValue
  let low : Int := if stride < 0 then -1 else 0
  let high : Int := if stride < 0 then (size : Int) - 1 else size
  let first : Int := match ← sliceBound start with
    | some i => clampBound size low high i
    | Option.none => if stride < 0 then high else low
  let last : Int := match ← sliceBound stop with
    | some i => clampBound size low high i
    | Option.none => if stride < 0 then low else high
  let distance : Int := if stride < 0 then first - last else last - first
  let count : Nat := if distance ≤ 0 then 0 else ((distance - 1) / (stride.natAbs : Int) + 1).toNat
  return (List.range count).map fun (i : Nat) => (first + i * stride).toNat

def pick {α : Type} (xs : List α) (places : List Nat) : List α :=
  let a := xs.toArray
  places.filterMap (a[·]?)

def member {α : Type} (xs : List α) (i : Value) : Except Fault α := do
  match (place? xs.length (← i.index)).bind (xs[·]?) with
  | some x => return x
  | Option.none => throw .badIndex

def isKeyOf (k : KeyKind) : Value → Bool
  | bool _ => k != .text
  | int _ => k != .text
  | text _ => k == .text
  | _ => false

def subscript (v i : Value) : Except Fault Value :=
  match v, i with
  | text s, slice a b c => do
    return text (String.ofList (pick s.toList (← slicePlaces s.length a b c)))
  | bytes s, slice a b c => do return bytes (pick s (← slicePlaces s.length a b c))
  | list xs, slice a b c | elements _ xs, slice a b c => do
    return list (pick xs (← slicePlaces xs.length a b c))
  | tuple xs, slice a b c => do return tuple (pick xs (← slicePlaces xs.length a b c))
  | text s, i => do return text (String.singleton (← member s.toList i))
  | bytes s, i => do return int (← member s i).toNat
  | list xs, i | tuple xs, i | elements _ xs, i => member xs i
  | dict es, i =>
    if !i.hashable then .error .wrongType
    else
      match lookup? es i with
      | some x => .ok x
      | Option.none => .error .missingKey
  | entries k missing es, i =>
    if isKeyOf k i then .ok ((lookup? es i).getD missing) else .error .wrongType
  | _, _ => .error .wrongType

/-! ## Membership -/

/-- Whether a set or the keys of a mapping hold a value. A set is looked for by its members. -/
def amongKeys (x : Value) (xs : List Value) : Except Fault Bool :=
  match x with
  | set _ _ => .ok (isIn x xs)
  | _ => if x.hashable then .ok (isIn x xs) else .error .wrongType

/-- Whether a collection holds a value; for texts and byte strings, whether it is a part. -/
def contains (c x : Value) : Except Fault Bool :=
  match c with
  | text s =>
    match x with
    | text t => .ok (Text.occursIn t.toList s.toList)
    | _ => .error .wrongType
  | bytes s =>
    match x with
    | bytes t => .ok (Text.occursIn t s)
    | _ => do
      let n ← x.index
      if n < 0 || 255 < n then throw .badValue
      return s.any fun b => (b.toNat : Int) == n
  | list xs | tuple xs | elements _ xs => .ok (isIn x xs)
  | set _ xs => amongKeys x xs
  | dict es => if x.hashable then .ok (isIn x (es.map (·.1))) else .error .wrongType
  | entries k _ es => if isKeyOf k x then .ok (isIn x (es.map (·.1))) else .error .wrongType
  | view _ .keys es => if x.hashable then .ok (isIn x (es.map (·.1))) else .error .wrongType
  | view _ .values es => .ok (isIn x (es.map (·.2)))
  | view _ .items es =>
    match x with
    | tuple [k, v] => if k.hashable then .ok ((lookup? es k).any v.same) else .error .wrongType
    | _ => .ok false
  | _ => .error .wrongType

end Conformance.Value
