import Conformance.Address.Mail
import Conformance.Address.Uri
import Conformance.Expr.Scope
import Conformance.Pattern.Reader
import Conformance.Pattern.Search
import Conformance.Text.Utf8
import Conformance.Value.Method
import Conformance.Value.Order
import Conformance.Value.Sorted

/-!
# The library of functions

What the functions that expressions can call do with their arguments, arguments of unsuitable types
included. The checks of formats apply to texts; most of them refuse other values, and some of them are just
not satisfied.
-/

namespace Conformance

def Pattern.Malformed.fault : Pattern.Malformed → Fault
  | syntactic => .badPattern
  | countTooLarge => .tooLarge
  | contradictoryFlags => .badValue

end Conformance

namespace Conformance.Expr.Library

open Conformance.Value (Arguments)
open Address

/-! ## Conversions -/

/-- Octets as the characters of the same numbers, if a numeral may be made of them. -/
def numeralOfBytes? (b : List UInt8) : Option (List Char) :=
  if b.all fun x => x < 128 && !(28 ≤ x && x ≤ 31) then some (b.map fun x => Char.ofNat x.toNat) else none

def toFloat (v : Value) : Except Fault Value :=
  let read (s : Option (List Char)) : Except Fault Value :=
    match s.bind Decimal.readNumber? with
    | some x => .ok (.float x)
    | none => .error .badValue
  match v with
  | .text s => read (some s.toList)
  | .bytes b => read (numeralOfBytes? b)
  | v => do return .float (← v.real)

def readInteger (base : Nat) (s : Option (List Char)) : Except Fault Value :=
  match s.bind (Decimal.readInteger? base) with
  | some n => .ok (.int n)
  | none => .error .badValue

def toInt (v : Value) : Except Fault Value :=
  match v with
  | .text s => readInteger 10 (some s.toList)
  | .bytes b => readInteger 10 (numeralOfBytes? b)
  | v => do return .int (← v.whole)

def toIntOfBase (v base : Value) : Except Fault Value := do
  let base ← base.index
  if base < 0 || base = 1 || 36 < base then throw .badValue
  match v with
  | .text s => readInteger base.toNat (some s.toList)
  | .bytes b => readInteger base.toNat (numeralOfBytes? b)
  | _ => throw .wrongType

def decodeText (b : List UInt8) (code : String) : Except Fault Value :=
  let code := String.ofList (code.toList.map fun c => if c = '_' then '-' else c.toLower)
  let plain := b.map fun x => Char.ofNat x.toNat
  if ["utf-8", "utf8"].contains code then
    match Text.Utf8.decode? b with
    | some s => .ok (.text (String.ofList s))
    | none => .error .undecodable
  else if ["ascii", "us-ascii"].contains code then
    if b.all (· < 128) then .ok (.text (String.ofList plain)) else .error .undecodable
  else if ["latin-1", "latin1", "iso-8859-1"].contains code then .ok (.text (String.ofList plain))
  else .error .unknownCode

def toText (object code errors : Option Value) : Except Fault Value :=
  match object, code, errors with
  | none, _, _ => .ok (.text "")
  | some v, none, none => do return .text (← v.plainText)
  | some (.bytes b), some (.text code), _ => decodeText b code
  | some (.bytes b), none, some (.text _) => decodeText b "utf-8"
  | _, _, _ => .error .wrongType

/-! ## Checks of formats -/

def textCheck (test : List Char → Bool) (v : Value) : Except Fault Bool :=
  match v with
  | .text s => .ok (test s.toList)
  | .bytes _ => .error .wrongType
  | _ => .error .missingAttribute

def checkMail (v : Value) : Except Fault Bool := do
  match v.length? with
  | none => throw .wrongType
  | some n =>
    if 254 < n then return false
    match v with
    | .text s => return isMail s.toList
    | _ => throw .wrongType

def checkHostname (v : Value) : Except Fault Bool := do
  if !v.truth then return false
  match v.length? with
  | none => throw .wrongType
  | some n => if 253 < n then return false else textCheck isHostname v

/-- Whether a version is the wanted one; zero stands for any. -/
def versionFits (wanted : Value) (v : Version) : Bool :=
  wanted.same (.int 0) || wanted.same (.int v.number)

/-- The address that a value is: of a text, an integer or octets. -/
def addressOf? : Value → Option Ip
  | .text s => Ip.ofText? s.toList
  | .bytes b => Ip.ofBytes? b
  | v => v.integer?.bind Ip.ofInt?

def checkIp (v version : Value) : Bool :=
  match addressOf? v with
  | some ip => versionFits version ip.version
  | none => false

/-- Whether a value holds another; a generator is gone through. -/
def holds (c x : Value) : Eval Bool :=
  match c with
  | .generator _ => Eval.findIn (·.same x) c
  | _ => Eval.lift (c.contains x)

def checkNetwork (v version strict : Value) : Eval Bool := do
  if !(← holds v (.text "/")) then return false
  match v with
  | .text s =>
    match Network.ofSlashed? strict.truth s.toList with
    | some n => return versionFits version n.address.version
    | none => return false
  | _ => return false

def checkAddress (v : Value) : Except Fault Bool := do
  if ← checkHostname v then return true else return checkIp v (.int 0)

def checkUuid (v : Value) : Except Fault Bool :=
  match v with
  | .text s => .ok (isUuid s.toList)
  | _ => .error .wrongType

/-- Whether a number is infinite, and its sign the one that a number other than zero has. -/
def checkInfinite (v sign : Value) : Except Fault Bool := do
  if !(← v.real).isInfinite then return false
  if sign.same (.int 0) then return true
  return (← sign.related .gt (.int 0)) == (← v.related .gt (.int 0))

def patternOf (v : Value) : Except Fault Pattern :=
  match v with
  | .pattern p => .ok p
  | .text s => (Pattern.ofText s).mapError (·.fault)
  | .bytes b =>
    match Pattern.ofText (String.ofList (b.map fun x => Char.ofNat x.toNat)) with
    | .ok _ => .error .wrongType
    | .error e => .error e.fault
  | _ => .error .wrongType

/-- Whether a pattern occurs in a text. Octets are taken as UTF-8; others hold no match. -/
def checkMatch (v pattern : Value) : Except Fault Bool := do
  match v with
  | .bytes b =>
    match Text.Utf8.decode? b with
    | some s => return (← patternOf pattern).occursIn s
    | none => return false
  | .text s => return (← patternOf pattern).occursIn s.toList
  | _ =>
    discard (patternOf pattern)
    throw .wrongType

def distinct (seen : List Value) : List Value → Bool
  | [] => true
  | x :: xs => !seen.any (x.same ·) && distinct (x :: seen) xs

/-- The members after the first one that equals an earlier member, if there is one. -/
def afterRepeated? (seen : List Value) : List Value → Option (List Value)
  | [] => none
  | x :: xs => if seen.any (x.same ·) then some xs else afterRepeated? (x :: seen) xs

/-- Whether all members of a collection are distinct. It is gone through up to the first that is repeated. -/
def checkUnique (v : Value) : Eval Bool := do
  let (xs, fault) ← Eval.sourceOf v
  match afterRepeated? [] xs with
  | some rest =>
    Eval.leave v (rest, fault)
    return false
  | none =>
    Eval.leave v ([], none)
    match fault with
    | some f => throw f
    | none => return true

/-- How many members a collection has. -/
def memberCount (m : Message) (f : Field) : Nat :=
  match f.shape with
  | .map _ => (m.entries f.name).length
  | _ => (m.elements f.name).length

/-- Whether a message sets a field, told by what its descriptor says: whether it holds a collection, and whether it has
presence. -/
def isSetField (m : Message) (f : Field) : Bool :=
  if f.isRepeated then 0 < memberCount m f
  else if f.hasPresence then (m.single? f.name).isSome
  else !(f.valueIn m).same f.default

/-- Whether a message sets the field of a name. Octets name a field too, but only its presence can be asked by
them. -/
def isSet (s : Schema) (message name : Value) : Except Fault Bool := do
  match message with
  | .message m =>
    let type := s.messageType m.type
    let field? := match name with
      | .text n => type.field? n
      | .bytes b => (Text.Utf8.decode? b).bind fun n => type.field? (String.ofList n)
      | _ => none
    match field?, name with
    | some f, .bytes _ => if !f.isRepeated && f.hasPresence then return isSetField m f else throw .wrongType
    | some f, _ => return isSetField m f
    | none, _ => throw (.noField (← name.display) m.type)
  | _ => throw .missingAttribute

/-! ## Going through collections -/

/-- How a function that is a value is called with one argument. -/
abbrev KeyCall := Value → Value → Eval Value

/-- The key of a member under a function, or the member itself. -/
def keyOf (callKey : KeyCall) (key : Option Value) (x : Value) : Eval Value :=
  match key with
  | none | some .none => pure x
  | some f => callKey f x

/-- Members with their keys, and the fault of the first key that cannot be had. -/
def keyed (callKey : KeyCall) (key : Option Value) : List Value → Eval (List (Value × Value))
  | [] => return []
  | x :: xs => do
    let k ← keyOf callKey key x
    return (k, x) :: (← keyed callKey key xs)

/-- The first member whose key is related to the keys of all others that come before or after it. -/
def extremeFrom (callKey : KeyCall) (key : Option Value) (r : Relation) :
    Option (Value × Value) → List Value → Eval (Option (Value × Value))
  | best, [] => return best
  | best, x :: xs => do
    let k ← keyOf callKey key x
    match best with
    | none => extremeFrom callKey key r (some (k, x)) xs
    | some (b, _) =>
      if ← Eval.lift (k.related r b) then extremeFrom callKey key r (some (k, x)) xs
      else extremeFrom callKey key r best xs

/-- The greatest or least member of a collection, or of the arguments if there are several. -/
def extreme (callKey : KeyCall) (r : Relation) (a : Arguments) : Eval Value := do
  if a.named.any fun (n, _) => n != "key" && n != "default" then throw .wrongType
  let default := a.named.lookup "default"
  match a.positional with
  | [] => throw .wrongType
  | [v] =>
    let (xs, fault) ← Eval.sourceTaken v
    let best ← extremeFrom callKey (a.named.lookup "key") r none xs
    match fault, best, default with
    | some f, _, _ => throw f
    | none, some (_, x), _ => return x
    | none, none, some d => return d
    | none, none, none => throw .badValue
  | xs =>
    if default.isSome then throw .wrongType
    match ← extremeFrom callKey (a.named.lookup "key") r none xs with
    | some (_, x) => return x
    | none => throw .badValue

/-- The members of a collection in ascending order; equal ones keep their order, also in reverse. -/
def sorted (callKey : KeyCall) (a : Arguments) : Eval Value := do
  match a.positional with
  | [v] =>
    let xs ← Eval.taken v
    if a.named.any fun (n, _) => n != "key" && n != "reverse" then throw .wrongType
    let reverse ← match a.named.lookup "reverse" with
      | none => pure false
      | some r => do
        let n ← Eval.lift r.index
        if 2147483648 ≤ n || n < -2147483648 then throw .tooLarge
        pure (n != 0)
    let ks ← keyed callKey (a.named.lookup "key") xs
    let ks := if reverse then ks.reverse else ks
    let out ← Eval.lift (sortBy (fun x y => x.1.related .lt y.1) ks)
    return .list ((if reverse then out.reverse else out).map (·.2))
  | _ => throw .wrongType

/-! ## Calls -/

def single (a : Arguments) : Except Fault Value := do
  match ← a.plain 1 1 with
  | [v] => return v
  | _ => throw .wrongType

def namedSingle (a : Arguments) (name : String) : Except Fault Value := do
  match ← a.bind 1 1 [(0, name)] with
  | [some v] => return v
  | _ => throw .wrongType

def apply (s : Schema) (callKey : KeyCall) (f : Function) (a : Arguments) : Eval Value := do
  match f with
  | .abs => Eval.lift do (← single a).absolute
  | .all =>
    let v ← Eval.lift (single a)
    return .bool !(← Eval.findIn (fun x => !x.truth) v)
  | .any =>
    let v ← Eval.lift (single a)
    return .bool (← Eval.findIn Value.truth v)
  | .bool =>
    match ← Eval.lift (a.plain 0 1) with
    | [] => return .bool false
    | v :: _ => return .bool v.truth
  | .float =>
    match ← Eval.lift (a.plain 0 1) with
    | [] => return .float .zero
    | v :: _ => Eval.lift (toFloat v)
  | .int =>
    match ← Eval.lift (a.bind 0 2 [(1, "base")]) with
    | [some v, some base] => Eval.lift (toIntOfBase v base)
    | [some v, none] => Eval.lift (toInt v)
    | [none, none] => return .int 0
    | _ => throw .wrongType
  | .len =>
    match (← Eval.lift (single a)).length? with
    | some n => return .int n
    | none => throw .wrongType
  | .max => extreme callKey .gt a
  | .min => extreme callKey .lt a
  | .sorted => sorted callKey a
  | .str =>
    match ← Eval.lift (a.bind 0 3 [(0, "object"), (1, "encoding"), (2, "errors")]) with
    | [object, code, errors] => Eval.lift (toText object code errors)
    | _ => throw .wrongType
  | .has =>
    match ← Eval.lift (a.bind 2 2 [(0, "message"), (1, "name")]) with
    | [some m, some field] => return .bool (← Eval.lift (isSet s m field))
    | _ => throw .wrongType
  | .isAddress => return .bool (← Eval.lift do checkAddress (← namedSingle a "value"))
  | .isEmail => return .bool (← Eval.lift do checkMail (← namedSingle a "value"))
  | .isHostAndPort =>
    match ← Eval.lift (a.bind 1 2 [(0, "value"), (1, "port_required")]) with
    | [some v, required] =>
      return .bool (← Eval.lift (textCheck (isHostAndPort (required.any Value.truth)) v))
    | _ => throw .wrongType
  | .isHostname => return .bool (← Eval.lift do checkHostname (← namedSingle a "value"))
  | .isInf =>
    match ← Eval.lift (a.bind 1 2 [(0, "value"), (1, "sign")]) with
    | [some v, sign] => return .bool (← Eval.lift (checkInfinite v (sign.getD (.int 0))))
    | _ => throw .wrongType
  | .isIp =>
    match ← Eval.lift (a.bind 1 2 [(0, "value"), (1, "version")]) with
    | [some v, version] => return .bool (checkIp v (version.getD (.int 0)))
    | _ => throw .wrongType
  | .isIpPrefix =>
    match ← Eval.lift (a.bind 1 3 [(0, "value"), (1, "version"), (2, "strict")]) with
    | [some v, version, strict] =>
      return .bool (← checkNetwork v (version.getD (.int 0)) (strict.getD (.bool false)))
    | _ => throw .wrongType
  | .isNan => return .bool (← Eval.lift do return (← (← namedSingle a "value").real).isNan)
  | .isUri => return .bool (← Eval.lift do textCheck isUri (← namedSingle a "value"))
  | .isUriRef => return .bool (← Eval.lift do textCheck isUriReference (← namedSingle a "value"))
  | .isUuid => return .bool (← Eval.lift do checkUuid (← namedSingle a "value"))
  | .hasMatch =>
    match ← Eval.lift (a.bind 2 2 [(0, "value"), (1, "pattern")]) with
    | [some v, some p] => return .bool (← Eval.lift (checkMatch v p))
    | _ => throw .wrongType
  | .size =>
    match (← Eval.lift (namedSingle a "value")).length? with
    | some n => return .int n
    | none => throw .wrongType
  | .unique =>
    let v ← Eval.lift (namedSingle a "values")
    return .bool (← checkUnique v)

/-- A method call; a generator among the arguments of a join is gone through first. -/
def applyMethod (v : Value) (method : String) (a : Arguments) : Eval Value := do
  match method, a.positional with
  | "join", [.generator id] =>
    let xs ← Eval.taken (.generator id)
    Eval.lift (v.callMethod method { a with positional := [.list xs] })
  | _, _ => Eval.lift (v.callMethod method a)

/-- Calls a value, with some way to call functions for keys. -/
def callWith (s : Schema) (callKey : KeyCall) (f : Value) (a : Arguments) : Eval Value :=
  match f with
  | .function f => apply s callKey f a
  | .method v m => applyMethod v m a
  | .unbound type m => Eval.lift (Value.callUnbound type m a)
  | _ => throw .wrongType

/-- Calls a value for the key of a member; such calls have no names and so no key function of their own. -/
def callForKey (s : Schema) : KeyCall := fun f x => do
  Eval.record ⟨.key, f⟩
  callWith s (fun _ _ => throw .wrongType) f { positional := [x] }

def call (s : Schema) (f : Value) (a : Arguments) : Eval Value := callWith s (callForKey s) f a

end Conformance.Expr.Library
