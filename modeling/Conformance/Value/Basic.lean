import Conformance.Calendar.Instant
import Conformance.Fault
import Conformance.Message.Basic
import Conformance.Pattern.Basic
import Conformance.Text.Search

/-!
# Values

What expressions compute with: numbers, texts, collections, times, messages and the functions of the
library.
-/

namespace Conformance

inductive Function where
  | abs
  | all
  | any
  | bool
  | float
  | int
  | len
  | max
  | min
  | sorted
  | str
  | has
  | isAddress
  | isEmail
  | isHostAndPort
  | isHostname
  | isInf
  | isIp
  | isIpPrefix
  | isNan
  | isUri
  | isUriRef
  | isUuid
  | hasMatch
  | size
  | unique
  deriving DecidableEq, Repr

namespace Function

def library : List Function :=
  [abs, all, any, bool, float, int, len, max, min, sorted, str, has, isAddress, isEmail, isHostAndPort,
    isHostname, isInf, isIp, isIpPrefix, isNan, isUri, isUriRef, isUuid, hasMatch, size, unique]

def name : Function → String
  | abs => "abs"
  | all => "all"
  | any => "any"
  | bool => "bool"
  | float => "float"
  | int => "int"
  | len => "len"
  | max => "max"
  | min => "min"
  | sorted => "sorted"
  | str => "str"
  | has => "has"
  | isAddress => "is_address"
  | isEmail => "is_email"
  | isHostAndPort => "is_host_and_port"
  | isHostname => "is_hostname"
  | isInf => "is_inf"
  | isIp => "is_ip"
  | isIpPrefix => "is_ip_prefix"
  | isNan => "is_nan"
  | isUri => "is_uri"
  | isUriRef => "is_uri_ref"
  | isUuid => "is_uuid"
  | hasMatch => "matches"
  | size => "size"
  | unique => "unique"

def named? (s : String) : Option Function := library.find? (·.name == s)

def isType : Function → Bool
  | bool | float | int | str => true
  | _ => false

/-- Functions that belong to the language of expressions and not to the formats. -/
def isBasic : Function → Bool
  | abs | all | any | len | max | min | sorted => true
  | _ => false

end Function

inductive Side where
  | keys
  | values
  | items
  deriving DecidableEq, Repr

inductive KeyKind where
  | bool
  | int
  | text
  deriving DecidableEq, Repr

/-- What can be seen of a message type. -/
structure Descriptor where
  fullName : String
  hasOptions : Bool
  deriving DecidableEq, Repr

inductive Value where
  | none
  | ellipsis
  | bool (b : Bool)
  | int (n : Int)
  | float (x : Decimal.Binary64)
  | complex (re im : Decimal.Binary64)
  | text (s : String)
  | bytes (b : List UInt8)
  | list (xs : List Value)
  | tuple (xs : List Value)
  | set (frozen : Bool) (xs : List Value)
  | dict (es : List (Value × Value))
  /-- One side of a mapping; `ofField` says that the mapping is a map field. -/
  | view (ofField : Bool) (side : Side) (es : List (Value × Value))
  | slice (start stop step : Value)
  | instant (i : Calendar.Instant)
  | span (s : Calendar.Span)
  /-- The zone of universal time. -/
  | zone
  | pattern (p : Pattern)
  | message (m : Message)
  | descriptor (d : Descriptor)
  /-- The elements of a repeated field. -/
  | elements (ofMessages : Bool) (xs : List Value)
  /-- The entries of a map field; `missing` is what a key without entry has. -/
  | entries (keys : KeyKind) (missing : Value) (es : List (Value × Value))
  /-- A sequence that can be gone through once, by its number. -/
  | generator (id : Nat)
  | function (f : Function)
  /-- A method of a value, without arguments. -/
  | method (receiver : Value) (name : String)
  /-- A method of a type, whose first argument is the receiver. -/
  | unbound (type : String) (name : String)
  /-- A value of which only the type can be told. -/
  | other (type : String)

namespace Value

instance : Inhabited Value := ⟨.none⟩

/-- The part of a full name after the last point. -/
def shortName (fullName : String) : String :=
  match Text.splitLast '.' fullName.toList with
  | some (_, s) => String.ofList s
  | .none => fullName

def typeName : Value → String
  | none => "NoneType"
  | ellipsis => "ellipsis"
  | bool _ => "bool"
  | int _ => "int"
  | float _ => "float"
  | complex .. => "complex"
  | text _ => "str"
  | bytes _ => "bytes"
  | list _ => "list"
  | tuple _ => "tuple"
  | set frozen _ => if frozen then "frozenset" else "set"
  | dict _ => "dict"
  | view false .keys _ => "dict_keys"
  | view false .values _ => "dict_values"
  | view false .items _ => "dict_items"
  | view true .keys _ => "KeysView"
  | view true .values _ => "ValuesView"
  | view true .items _ => "ItemsView"
  | slice .. => "slice"
  | instant _ => "datetime"
  | span _ => "timedelta"
  | zone => "timezone"
  | pattern _ => "Pattern"
  | message m => shortName m.type
  | descriptor _ => "Descriptor"
  | elements ofMessages _ =>
    if ofMessages then "RepeatedCompositeContainer" else "RepeatedScalarContainer"
  | entries _ missing _ =>
    match missing with
    | message _ => "MessageMapContainer"
    | _ => "ScalarMapContainer"
  | generator _ => "generator"
  | function f =>
    if f.isType then "type" else if f.isBasic then "builtin_function_or_method" else "function"
  | method .. => "builtin_function_or_method"
  | unbound .. => "method_descriptor"
  | other type => type

/-- Whether a value counts as true: zeros and empty collections do not. -/
def truth : Value → Bool
  | none => false
  | bool b => b
  | int n => n != 0
  | float x => !x.isZero
  | complex a b => !(a.isZero && b.isZero)
  | text s => !s.isEmpty
  | bytes b => !b.isEmpty
  | list xs | tuple xs | set _ xs | elements _ xs => !xs.isEmpty
  | dict es | view _ _ es | entries _ _ es => !es.isEmpty
  | span s => s.micros != 0
  | _ => true

def length? : Value → Option Nat
  | text s => some s.length
  | bytes b => some b.length
  | list xs | tuple xs | set _ xs | elements _ xs => some xs.length
  | dict es | view _ _ es | entries _ _ es => some es.length
  | _ => Option.none

/-- The integer that a number without fraction type stands for: integers and truth values. -/
def integer? : Value → Option Int
  | int n => some n
  | bool b => some (if b then 1 else 0)
  | _ => Option.none

def ofDatum : Datum → Value
  | .bool b => bool b
  | .int n => int n
  | .float x => float x
  | .text s => text s
  | .bytes b => bytes b
  | .message m => message m

end Value
end Conformance
