import Conformance.Text.Case
import Conformance.Text.Search
import Conformance.Value.Sequence

/-!
# Methods

The methods that expressions may call on texts, byte strings, lists and mappings.
-/

namespace Conformance.Value

open Text

structure Arguments where
  positional : List Value := []
  named : List (String × Value) := []

namespace Arguments

/-- The arguments for parameters in order; those that are not given are `none`. At least `required` are
given by position, and names are only allowed for the parameters that are listed. -/
def bind (a : Arguments) (required limit : Nat) (names : List (Nat × String)) :
    Except Fault (List (Option Value)) := do
  let given := a.positional.length
  if limit < given then throw .wrongType
  for (name, _) in a.named do
    match names.find? (·.2 == name) with
    | some (i, _) => if i < given then throw .wrongType
    | Option.none => throw .wrongType
  let named (i : Nat) : Option Value := (names.lookup i).bind (a.named.lookup ·)
  let all := (List.range limit).map fun i => (a.positional[i]?).or (named i)
  if (all.take required).any (·.isNone) then throw .wrongType
  return all

/-- Arguments by position only, from `least` to `most` of them. -/
def plain (a : Arguments) (least most : Nat) : Except Fault (List Value) :=
  if a.named.isEmpty && least ≤ a.positional.length && a.positional.length ≤ most then .ok a.positional
  else .error .wrongType

end Arguments

/-! ## Searching texts -/

/-- The bounds of a search in a sequence of `size` members: the first place, and the place after the last. -/
def searchBounds (size : Nat) (bounds : List Value) : Except Fault (Int × Int) := do
  let start : Int := (← sliceBound (bounds[0]?.getD none)).getD 0
  let stop : Int := (← sliceBound (bounds[1]?.getD none)).getD size
  let stop : Int := if (size : Int) < stop then size else if stop < 0 then max (stop + size) 0 else stop
  let start := if start < 0 then max (start + size) 0 else start
  return (start, stop)

/-- The part of a sequence between bounds; `none` when it is shorter than what is looked for. -/
def searched {α : Type} (xs : List α) (bounds : Int × Int) (least : Nat) : Option (List α) :=
  if bounds.2 - bounds.1 < least then Option.none
  else some ((xs.take bounds.2.toNat).drop bounds.1.toNat)

variable {α : Type} [BEq α]

/-- The first place of a part between bounds, or -1. -/
def findPart (part xs : List α) (bounds : Int × Int) : Int :=
  match (searched xs bounds part.length).bind (Text.place? part) with
  | some i => i + bounds.1
  | Option.none => -1

def countPart (part xs : List α) (bounds : Int × Int) : Nat :=
  match searched xs bounds part.length with
  | some s => occurrences part s
  | Option.none => 0

def startsWithPart (part xs : List α) (bounds : Int × Int) : Bool :=
  (searched xs bounds part.length).any (part.isPrefixOf ·)

def endsWithPart (part xs : List α) (bounds : Int × Int) : Bool :=
  (searched xs bounds part.length).any (part.isSuffixOf ·)

/-- Whether a test holds for one of several parts, each read by `read`. -/
def anyPart (read : Value → Except Fault (List α)) (test : List α → Bool) : List Value → Except Fault Bool
  | [] => .ok false
  | v :: vs => do if test (← read v) then return true else anyPart read test vs

def oneOrAny (read : Value → Except Fault (List α)) (test : List α → Bool) (v : Value) :
    Except Fault Bool :=
  match v with
  | tuple vs => anyPart read test vs
  | _ => do return test (← read v)

/-- The pieces between separators, which are runs of blanks unless one is given. -/
def splitParts (blank : α → Bool) (read : Value → Except Fault (List α)) (xs : List α)
    (args : List (Option Value)) : Except Fault (List (List α)) := do
  let limit ← match args[1]?.join with
    | some v => v.index
    | Option.none => pure (-1)
  if indexLimit ≤ limit.natAbs then throw .tooLarge
  let limit := if limit < 0 then xs.length else limit.toNat
  match args[0]?.join with
  | Option.none | some none => return wordsUpTo blank limit xs
  | some sep =>
    let sep ← read sep
    if sep.isEmpty then throw .badValue
    return cutAt sep limit xs

/-- A sequence without certain members at its ends, blanks unless they are given. -/
def stripEnds (blank : α → Bool) (read : Value → Except Fault (List α)) (xs : List α) (args : List Value) :
    Except Fault (List α) :=
  match args with
  | [] | [none] => .ok (trim blank xs)
  | v :: _ => do
    let chars ← read v
    return trim chars.contains xs

/-! ## Methods by type -/

def characters : Value → Except Fault (List Char)
  | text s => .ok s.toList
  | _ => .error .wrongType

def octets : Value → Except Fault (List UInt8)
  | bytes b => .ok b
  | _ => .error .wrongType

def octetsOrNumber (v : Value) : Except Fault (List UInt8) :=
  match v with
  | bytes b => .ok b
  | _ => do
    let n ← v.index
    if n < 0 || 255 < n then throw .badValue
    return [UInt8.ofNat n.toNat]

def joinTexts (sep : String) (v : Value) : Except Fault Value := do
  match v.members? with
  | Option.none => throw .wrongType
  | some xs =>
    let parts ← xs.mapM characters
    return text (sep.intercalate (parts.map String.ofList))

def textMethod (s : String) (name : String) (a : Arguments) : Except Fault Value := do
  let xs := s.toList
  match name with
  | "count" | "find" | "startswith" | "endswith" =>
    match ← a.plain 1 3 with
    | part :: bounds =>
      match name with
      | "count" =>
        let part ← characters part
        return int (countPart part xs (← searchBounds xs.length bounds))
      | "find" =>
        let part ← characters part
        return int (findPart part xs (← searchBounds xs.length bounds))
      | "startswith" =>
        let bounds ← searchBounds xs.length bounds
        return bool (← oneOrAny characters (startsWithPart · xs bounds) part)
      | _ =>
        let bounds ← searchBounds xs.length bounds
        return bool (← oneOrAny characters (endsWithPart · xs bounds) part)
    | [] => throw .wrongType
  | "isascii" => do
    discard (a.plain 0 0)
    return bool (xs.all (·.toNat < 128))
  | "lower" => do
    discard (a.plain 0 0)
    return text (String.ofList (lower xs))
  | "upper" => do
    discard (a.plain 0 0)
    return text (String.ofList (upper xs))
  | "strip" => do return text (String.ofList (← stripEnds isBlank characters xs (← a.plain 0 1)))
  | "split" => do
    let parts ← splitParts isBlank characters xs (← a.bind 0 2 [(0, "sep"), (1, "maxsplit")])
    return list (parts.map fun p => text (String.ofList p))
  | "join" => do
    match ← a.plain 1 1 with
    | [v] => joinTexts s v
    | _ => throw .wrongType
  | _ => throw .wrongType

def bytesMethod (s : List UInt8) (name : String) (a : Arguments) : Except Fault Value := do
  match name with
  | "count" | "find" | "startswith" | "endswith" =>
    match ← a.plain 1 3 with
    | part :: bounds =>
      match name with
      | "count" =>
        let part ← octetsOrNumber part
        return int (countPart part s (← searchBounds s.length bounds))
      | "find" =>
        let part ← octetsOrNumber part
        return int (findPart part s (← searchBounds s.length bounds))
      | "startswith" =>
        let bounds ← searchBounds s.length bounds
        return bool (← oneOrAny octets (startsWithPart · s bounds) part)
      | _ =>
        let bounds ← searchBounds s.length bounds
        return bool (← oneOrAny octets (endsWithPart · s bounds) part)
    | [] => throw .wrongType
  | "isascii" => do
    discard (a.plain 0 0)
    return bool (s.all (· < 128))
  | "lower" => do
    discard (a.plain 0 0)
    return bytes (s.map lowerByte)
  | "upper" => do
    discard (a.plain 0 0)
    return bytes (s.map upperByte)
  | "strip" => do return bytes (← stripEnds isBlankByte octets s (← a.plain 0 1))
  | "split" => do
    let parts ← splitParts isBlankByte octets s (← a.bind 0 2 [(0, "sep"), (1, "maxsplit")])
    return list (parts.map bytes)
  | _ => throw .wrongType

def listMethod (xs : List Value) (name : String) (a : Arguments) : Except Fault Value := do
  match name with
  | "count" =>
    match ← a.plain 1 1 with
    | [x] => return int (xs.countP (·.same x))
    | _ => throw .wrongType
  | "index" =>
    match ← a.plain 1 1 with
    | [x] =>
      match xs.findIdx? (·.same x) with
      | some i => return int i
      | Option.none => throw .badValue
    | _ => throw .wrongType
  | _ => throw .wrongType

/-- The sides of a mapping, and the value at a key or else a default. -/
def mappingMethod (ofField : Bool) (accepts : Value → Bool) (es : List (Value × Value)) (name : String)
    (a : Arguments) : Except Fault Value := do
  match name with
  | "keys" =>
    discard (a.plain 0 0)
    return view ofField .keys es
  | "values" =>
    discard (a.plain 0 0)
    return view ofField .values es
  | "items" =>
    discard (a.plain 0 0)
    return view ofField .items es
  | "get" =>
    match ← a.bind 1 2 (if ofField then [(0, "key"), (1, "default")] else []) with
    | [some key, default] =>
      if !accepts key then throw .wrongType
      return ((lookup? es key).or default).getD none
    | _ => throw .wrongType
  | _ => throw .wrongType

def callMethod (v : Value) (name : String) (a : Arguments) : Except Fault Value :=
  match v with
  | text s => textMethod s name a
  | bytes b => bytesMethod b name a
  | list xs | tuple xs => listMethod xs name a
  | dict es => mappingMethod false hashable es name a
  | entries k _ es => mappingMethod true (isKeyOf k) es name a
  | _ => .error .wrongType

/-- Calls a method of a type: the first argument is the receiver and has that type. -/
def callUnbound (type name : String) (a : Arguments) : Except Fault Value :=
  match a.positional with
  | v :: rest => if v.typeName == type then v.callMethod name { a with positional := rest } else .error .wrongType
  | [] => .error .wrongType

end Conformance.Value
