import Conformance.Schema.Known
import Conformance.Value.Basic

/-!
# Attributes

What a name after a point gives: the fields of messages, the parts of numbers and times, and methods.
-/

namespace Conformance

/-- The flags of a pattern as a number; patterns are for all scripts unless they say otherwise. -/
def Pattern.Flags.number (f : Pattern.Flags) : Nat :=
  let bit (b : Bool) (n : Nat) : Nat := if b then n else 0
  bit f.template 1 + bit f.ignoreCase 2 + bit f.multiline 8 + bit f.dotAll 16 + bit (!f.ascii) 32 +
    bit f.verbose 64 + bit f.ascii 256

end Conformance

namespace Conformance.Value

open Calendar

def words (s : String) : List String := (Text.cutAtAll [' '] s.toList).map String.ofList

def methodsOf (type : String) : List String :=
  match type with
  | "str" => words ("capitalize casefold center count encode endswith expandtabs find format format_map " ++
      "index isalnum isalpha isascii isdecimal isdigit isidentifier islower isnumeric isprintable isspace " ++
      "istitle isupper join ljust lower lstrip maketrans partition removeprefix removesuffix replace rfind " ++
      "rindex rjust rpartition rsplit rstrip split splitlines startswith strip swapcase title translate " ++
      "upper zfill")
  | "bytes" => words ("capitalize center count decode endswith expandtabs find fromhex hex index isalnum " ++
      "isalpha isascii isdigit islower isspace istitle isupper join ljust lower lstrip maketrans partition " ++
      "removeprefix removesuffix replace rfind rindex rjust rpartition rsplit rstrip split splitlines " ++
      "startswith strip swapcase title translate upper zfill")
  | "list" => words "append clear copy count extend index insert pop remove reverse sort"
  | "tuple" => words "count index"
  | "dict" => words "clear copy fromkeys get items keys pop popitem setdefault update values"
  | "set" => words ("add clear copy difference difference_update discard intersection intersection_update " ++
      "isdisjoint issubset issuperset pop remove symmetric_difference symmetric_difference_update union " ++
      "update")
  | "frozenset" => words ("copy difference intersection isdisjoint issubset issuperset " ++
      "symmetric_difference union")
  | "int" | "bool" => words "as_integer_ratio bit_count bit_length conjugate from_bytes to_bytes"
  | "float" => words "as_integer_ratio conjugate fromhex hex is_integer"
  | "complex" => words "conjugate"
  | "datetime" => words ("astimezone combine ctime date dst fromisocalendar fromisoformat fromordinal " ++
      "fromtimestamp isocalendar isoformat isoweekday now replace strftime strptime time timestamp " ++
      "timetuple timetz today toordinal tzname utcfromtimestamp utcnow utcoffset utctimetuple weekday")
  | "timedelta" => words "total_seconds"
  | "timezone" => words "dst fromutc tzname utcoffset"
  | "slice" => words "indices"
  | "Descriptor" => words "CopyToProto EnumValueName GetOptions"
  | "Pattern" => words "findall finditer fullmatch match scanner search split sub subn"
  | "generator" => words "close send throw"
  | "dict_keys" | "dict_items" | "KeysView" | "ItemsView" => words "isdisjoint"
  | "RepeatedScalarContainer" => words "MergeFrom append extend insert pop remove reverse sort"
  | "RepeatedCompositeContainer" => words "MergeFrom add append extend insert pop remove reverse sort"
  | "ScalarMapContainer" => words ("GetEntryClass MergeFrom clear get items keys pop popitem setdefault " ++
      "update values")
  | "MessageMapContainer" => words ("GetEntryClass MergeFrom clear get get_or_create items keys pop " ++
      "popitem setdefault update values")
  | _ => []

def messageMethods : List String :=
  ["ByteSize", "Clear", "ClearExtension", "ClearField", "CopyFrom", "DiscardUnknownFields",
    "FindInitializationErrors", "FromString", "HasExtension", "HasField", "IsInitialized", "ListFields",
    "MergeFrom", "MergeFromString", "ParseFromString", "SerializePartialToString", "SerializeToString",
    "SetInParent", "UnknownFields", "WhichOneof", "Extensions"]

/-- The key types of map fields, by scalar. -/
def keyKind : Scalar → KeyKind
  | .bool => .bool
  | .string => .text
  | _ => .int

/-- What a missing key of a map field has. -/
def missingOf : FieldType → Value
  | .scalar s => ofDatum s.zero
  | .enum _ => int 0
  | .message name => message (.unset name)

def fieldValue (f : Field) (m : Message) : Value :=
  match f.shape with
  | .singular => ofDatum (f.valueIn m)
  | .repeated =>
    let ofMessages := match f.type with
      | .message _ => true
      | _ => false
    elements ofMessages ((m.elements f.name).map ofDatum)
  | .map key =>
    entries (keyKind key) (missingOf f.type)
      ((m.entries f.name).map fun (k, v) => (ofDatum k, ofDatum v))

/-- A field of a message, or something that all messages have. -/
def messageAttribute (s : Schema) (m : Message) (name : String) : Except Fault Value :=
  let type := s.messageType m.type
  match type.field? name with
  | some f => .ok (fieldValue f m)
  | Option.none =>
    if name == "DESCRIPTOR" then .ok (descriptor ⟨m.type, type.constraints.isSome⟩)
    else if messageMethods.contains name then .ok (other "builtin_function_or_method")
    else
      match type.fields.find? fun f => f.name.toUpper ++ "_FIELD_NUMBER" == name with
      | some f => .ok (int f.number)
      | Option.none => .error .missingAttribute

/-- What can be told of a message type; of most parts of it only what they are. -/
def descriptorPart? (d : Descriptor) (name : String) : Option Value :=
  match name with
  | "name" => some (text (shortName d.fullName))
  | "full_name" => some (text d.fullName)
  | "has_options" => some (bool d.hasOptions)
  | "is_extendable" => some (bool false)
  | "file" => some (other "FileDescriptor")
  | "fields" | "nested_types" | "extensions" | "enum_types" | "oneofs" => some (other "_GenericSequence")
  | "fields_by_name" | "fields_by_camelcase_name" | "nested_types_by_name" | "extensions_by_name"
  | "enum_types_by_name" | "enum_values_by_name" | "oneofs_by_name" => some (other "_ByNameMap")
  | "fields_by_number" => some (other "_ByNumberMap")
  | _ => Option.none

/-- The attributes that are values and no methods. -/
def part? (v : Value) (name : String) : Option Value :=
  match v, name with
  | int n, "real" | int n, "numerator" => some (int n)
  | int _, "imag" => some (int 0)
  | int _, "denominator" => some (int 1)
  | bool b, "real" | bool b, "numerator" => some (int (if b then 1 else 0))
  | bool _, "imag" => some (int 0)
  | bool _, "denominator" => some (int 1)
  | float x, "real" => some (float x)
  | float _, "imag" => some (float .zero)
  | complex a _, "real" => some (float a)
  | complex _ b, "imag" => some (float b)
  | instant i, "year" => some (int i.date.year)
  | instant i, "month" => some (int i.date.month)
  | instant i, "day" => some (int i.date.day)
  | instant i, "hour" => some (int i.hour)
  | instant i, "minute" => some (int i.minute)
  | instant i, "second" => some (int i.second)
  | instant i, "microsecond" => some (int i.microsecond)
  | instant _, "fold" => some (int 0)
  | instant _, "tzinfo" => some zone
  | instant _, "min" | instant _, "max" => some (other "datetime")
  | instant _, "resolution" => some (span ⟨1⟩)
  | span s, "days" => some (int s.days)
  | span s, "seconds" => some (int s.seconds)
  | span s, "microseconds" => some (int s.microseconds)
  | span _, "min" => some (span ⟨Span.least⟩)
  | span _, "max" => some (span ⟨Span.greatest⟩)
  | span _, "resolution" => some (span ⟨1⟩)
  | zone, "utc" => some zone
  | zone, "min" | zone, "max" => some (other "timezone")
  | slice a _ _, "start" => some a
  | slice _ b _, "stop" => some b
  | slice _ _ c, "step" => some c
  | pattern p, "pattern" => some (text p.source)
  | pattern p, "groups" => some (int p.groups)
  | pattern p, "flags" => some (int p.flags.number)
  | pattern _, "groupindex" => some (other "mappingproxy")
  | view false _ _, "mapping" => some (other "mappingproxy")
  | descriptor d, name => descriptorPart? d name
  | _, _ => Option.none

/-- `v.name`. -/
def attributeOf (s : Schema) (v : Value) (name : String) : Except Fault Value :=
  match v with
  | message m => messageAttribute s m name
  | function f =>
    if f.isType && (methodsOf f.name).contains name then .ok (unbound f.name name)
    else .error .missingAttribute
  | _ =>
    match v.part? name with
    | some x => .ok x
    | Option.none =>
      if (methodsOf v.typeName).contains name then .ok (method v name) else .error .missingAttribute

end Conformance.Value
