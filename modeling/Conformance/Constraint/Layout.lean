import Conformance.Schema.Declaration
import Conformance.Schema.Known
import Conformance.Status.Basic

/-!
# The layout of options

The message types in which schemas declare their constraints, and in which results are told. Every singular
field of them has presence.
-/

namespace Conformance

namespace Layout

def packageName : String := "protoguard.v1"

def fullName (name : String) : String := qualified packageName name

def one (name : String) (number : Nat) (type : String) : FieldDeclaration :=
  { name, number := some number, type }

def many (name : String) (number : Nat) (type : String) : FieldDeclaration :=
  { name, number := some number, type, label := .repeated }

def type (name : String) (fields : List FieldDeclaration) : MessageDeclaration := { name, fields }

/-- The kinds of typed rules with the types of their parameters, in the order of their numbers. -/
def rulesTypes : List (String × Nat × String) := [
  ("float", 1, "FloatRules"),
  ("double", 2, "DoubleRules"),
  ("int32", 3, "Int32Rules"),
  ("int64", 4, "Int64Rules"),
  ("uint32", 5, "UInt32Rules"),
  ("uint64", 6, "UInt64Rules"),
  ("sint32", 7, "SInt32Rules"),
  ("sint64", 8, "SInt64Rules"),
  ("fixed32", 9, "Fixed32Rules"),
  ("fixed64", 10, "Fixed64Rules"),
  ("sfixed32", 11, "SFixed32Rules"),
  ("sfixed64", 12, "SFixed64Rules"),
  ("bool", 13, "BoolRules"),
  ("string", 14, "StringRules"),
  ("bytes", 15, "BytesRules"),
  ("enum", 16, "EnumRules"),
  ("repeated", 18, "RepeatedRules"),
  ("map", 19, "MapRules"),
  ("any", 20, "AnyRules"),
  ("duration", 21, "DurationRules"),
  ("timestamp", 22, "TimestampRules")]

def kinds : List String := rulesTypes.map (·.1)

def typeOneof : String := "type"

def typedField (kind : String) (number : Nat) (rules : String) : FieldDeclaration :=
  { one kind number (fullName rules) with oneof := some typeOneof }

/-! ## Constraints -/

def constraintType : MessageDeclaration :=
  type "Constraint" [one "id" 1 "string", one "message" 2 "string", one "expression" 3 "string"]

def messageType : MessageDeclaration :=
  type "MessageConstraints" [one "disabled" 1 "bool", many "cel" 3 (fullName "Constraint")]

def oneofType : MessageDeclaration := type "OneofConstraints" [one "required" 1 "bool"]

def fieldType : MessageDeclaration where
  name := "FieldConstraints"
  fields := rulesTypes.map (fun (kind, number, rules) => typedField kind number rules) ++
    [many "cel" 23 (fullName "Constraint"), one "skipped" 24 "bool", one "required" 25 "bool",
      one "ignore_empty" 26 "bool"]
  oneofs := [⟨typeOneof, none⟩]

/-! ## Parameters of typed rules -/

/-- Bounds and lists of values of a type, numbered from `first` on. -/
def ordered (first : Nat) (type : String) : List FieldDeclaration :=
  [one "const" first type, one "lt" (first + 1) type, one "lte" (first + 2) type, one "gt" (first + 3) type,
    one "gte" (first + 4) type]

def listed (first : Nat) (type : String) : List FieldDeclaration :=
  [many "in" first type, many "not_in" (first + 1) type]

def wholeRules (kind name : String) : MessageDeclaration :=
  type name (ordered 1 kind ++ listed 6 kind)

def floatingRules (kind name : String) : MessageDeclaration :=
  type name (ordered 1 kind ++ listed 6 kind ++ [one "finite" 8 "bool"])

def stringRules : MessageDeclaration :=
  type "StringRules"
    [one "const" 1 "string", one "min_len" 2 "uint64", one "max_len" 3 "uint64", one "min_bytes" 4 "uint64",
      one "max_bytes" 5 "uint64", one "pattern" 6 "string", one "prefix" 7 "string", one "suffix" 8 "string",
      one "contains" 9 "string", many "in" 10 "string", many "not_in" 11 "string", one "email" 12 "bool",
      one "hostname" 13 "bool", one "ip" 14 "bool", one "ipv4" 15 "bool", one "ipv6" 16 "bool",
      one "uri" 17 "bool", one "uri_ref" 18 "bool", one "len" 19 "uint64", one "len_bytes" 20 "uint64",
      one "address" 21 "bool", one "uuid" 22 "bool", one "not_contains" 23 "string", one "ip_prefix" 26 "bool",
      one "host_and_port" 32 "bool"]

def bytesRules : MessageDeclaration :=
  type "BytesRules"
    [one "const" 1 "bytes", one "min_len" 2 "uint64", one "max_len" 3 "uint64", one "pattern" 4 "string",
      one "prefix" 5 "bytes", one "suffix" 6 "bytes", one "contains" 7 "bytes", many "in" 8 "bytes",
      many "not_in" 9 "bytes", one "ip" 10 "bool", one "ipv4" 11 "bool", one "ipv6" 12 "bool",
      one "len" 13 "uint64"]

def enumRules : MessageDeclaration :=
  type "EnumRules"
    [one "const" 1 "int32", one "defined_only" 2 "bool", many "in" 3 "int32", many "not_in" 4 "int32"]

def repeatedRules : MessageDeclaration :=
  type "RepeatedRules"
    [one "min_items" 1 "uint64", one "max_items" 2 "uint64", one "unique" 3 "bool",
      one "items" 4 (fullName "FieldConstraints")]

def mapRules : MessageDeclaration :=
  type "MapRules"
    [one "min_pairs" 1 "uint64", one "max_pairs" 2 "uint64", one "keys" 4 (fullName "FieldConstraints"),
      one "values" 5 (fullName "FieldConstraints")]

def anyRules : MessageDeclaration := type "AnyRules" (listed 2 "string")

def durationRules : MessageDeclaration :=
  type "DurationRules" (ordered 2 Schema.durationName ++ listed 7 Schema.durationName)

def timestampRules : MessageDeclaration :=
  type "TimestampRules" (ordered 2 Schema.timestampName ++
    [one "lt_now" 7 "bool", one "gt_now" 8 "bool", one "within" 9 Schema.durationName])

/-! ## Results -/

def violationType : MessageDeclaration :=
  type "Violation"
    [one "field_path" 1 "string", one "constraint_id" 2 "string", one "message" 3 "string",
      one "for_key" 4 "bool"]

def violationsType : MessageDeclaration := type "Violations" [many "violations" 1 (fullName "Violation")]

def statusType : EnumType :=
  ⟨"Status", Status.all.map fun s => ("STATUS_" ++ s.name, (s.number : Int))⟩

def resultType : MessageDeclaration :=
  type "Result"
    [one "status" 1 (fullName "Status"), many "violations" 2 (fullName "Violation"), one "error" 3 "string"]

def declaration : SchemaDeclaration where
  package := packageName
  explicitPresence := true
  enums := [statusType]
  messages := [constraintType, messageType, oneofType, fieldType] ++
    ([("float", "FloatRules"), ("double", "DoubleRules")].map fun (k, n) => floatingRules k n) ++
    ((rulesTypes.drop 2).take 10).map (fun (k, _, n) => wholeRules k n) ++
    [type "BoolRules" [one "const" 1 "bool"], stringRules, bytesRules, enumRules, repeatedRules, mapRules,
      anyRules, durationRules, timestampRules, violationType, violationsType, resultType]

def schema : Schema := declaration.schema

def typeNamed (name : String) : MessageType := schema.messageType (fullName name)

/-! ## Extensions -/

/-- An option of the declarations of a schema: its field, and the type of options that it extends. -/
structure Extension where
  field : Field
  extendee : String

def extensions : List Extension :=
  [("message", 51071, "MessageConstraints", "google.protobuf.MessageOptions"),
    ("oneof", 51072, "OneofConstraints", "google.protobuf.OneofOptions"),
    ("field", 51073, "FieldConstraints", "google.protobuf.FieldOptions")].map
    fun (name, number, type, extendee) =>
      ⟨(one name number (fullName type)).field true [] [] number, extendee⟩

end Layout
end Conformance
