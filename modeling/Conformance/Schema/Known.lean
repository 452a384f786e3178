import Conformance.Schema.Basic

/-!
# Known types

The message types that every schema may refer to: times, spans, values of any type, and the wrappers that
give presence to a scalar.
-/

namespace Conformance.Schema

def anyName : String := "google.protobuf.Any"
def durationName : String := "google.protobuf.Duration"
def timestampName : String := "google.protobuf.Timestamp"

def wrappers : List (String × Scalar) := [
  ("google.protobuf.DoubleValue", .double),
  ("google.protobuf.FloatValue", .float),
  ("google.protobuf.Int64Value", .int64),
  ("google.protobuf.UInt64Value", .uint64),
  ("google.protobuf.Int32Value", .int32),
  ("google.protobuf.UInt32Value", .uint32),
  ("google.protobuf.BoolValue", .bool),
  ("google.protobuf.StringValue", .string),
  ("google.protobuf.BytesValue", .bytes)]

def wrapped? (name : String) : Option Scalar := wrappers.lookup name

/-- Types that are validated by rules of their own and never through their fields. -/
def isOpaque (name : String) : Bool :=
  name == anyName || name == durationName || name == timestampName || (wrapped? name).isSome

/-- A singular scalar field without presence or constraints. -/
def plainField (name : String) (number : Nat) (s : Scalar) : Field :=
  ⟨name, number, .scalar s, .singular, none, false, false, s.zero, none, nofun⟩

def plainType (name : String) (fields : List Field) : MessageType := ⟨name, fields, [], none⟩

def knownTypes : List MessageType :=
  [plainType anyName [plainField "type_url" 1 .string, plainField "value" 2 .bytes],
    plainType durationName [plainField "seconds" 1 .int64, plainField "nanos" 2 .int32],
    plainType timestampName [plainField "seconds" 1 .int64, plainField "nanos" 2 .int32]] ++
  wrappers.map fun (name, s) => plainType name [plainField "value" 1 s]

/-- The types that names may refer to: those of the schema come before the known ones. -/
def types (s : Schema) : List MessageType := s.messages ++ knownTypes

def message? (s : Schema) (name : String) : Option MessageType := s.types.find? (·.name == name)

def enum? (s : Schema) (name : String) : Option EnumType := s.enums.find? (·.name == name)

/-- A type by its name; a name that no type has stands for a type without fields. -/
def messageType (s : Schema) (name : String) : MessageType := (s.message? name).getD (.empty name)

end Conformance.Schema
