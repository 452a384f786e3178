import Conformance.Message.Basic
import Conformance.Schema.Constraints

/-!
# Schemas

Message types with their fields and oneofs, and enums. Types are referred to by their full names, so that
they may refer to each other.
-/

namespace Conformance

inductive Scalar where
  | double
  | float
  | int64
  | uint64
  | int32
  | fixed64
  | fixed32
  | bool
  | string
  | bytes
  | uint32
  | sfixed32
  | sfixed64
  | sint32
  | sint64
  deriving DecidableEq, Repr

namespace Scalar

def all : List Scalar :=
  [double, float, int64, uint64, int32, fixed64, fixed32, bool, string, bytes, uint32, sfixed32, sfixed64,
    sint32, sint64]

def name : Scalar → String
  | double => "double"
  | float => "float"
  | int64 => "int64"
  | uint64 => "uint64"
  | int32 => "int32"
  | fixed64 => "fixed64"
  | fixed32 => "fixed32"
  | bool => "bool"
  | string => "string"
  | bytes => "bytes"
  | uint32 => "uint32"
  | sfixed32 => "sfixed32"
  | sfixed64 => "sfixed64"
  | sint32 => "sint32"
  | sint64 => "sint64"

def named? (s : String) : Option Scalar := all.find? (·.name == s)

def isNumeric : Scalar → Bool
  | bool | string | bytes => false
  | _ => true

def zero : Scalar → Datum
  | double | float => .float .zero
  | bool => .bool false
  | string => .text ""
  | bytes => .bytes []
  | _ => .int 0

end Scalar

structure EnumType where
  name : String
  values : List (String × Int)
  deriving DecidableEq, Repr

/-- The type of a single value of a field; enums and messages by full name. -/
inductive FieldType where
  | scalar (s : Scalar)
  | enum (name : String)
  | message (name : String)
  deriving DecidableEq, Repr

def FieldType.isMessage : FieldType → Bool
  | message _ => true
  | _ => false

/-- How many values a field holds. -/
inductive Shape where
  | singular
  | repeated
  /-- A map from a scalar type to the type of the field. -/
  | map (key : Scalar)
  deriving DecidableEq, Repr

structure Field where
  name : String
  number : Nat
  type : FieldType
  shape : Shape
  /-- The oneof the field belongs to. -/
  oneof : Option String
  /-- The field alone makes up its oneof, for the sake of presence. -/
  optional : Bool
  /-- Whether a set field can be told from one that holds its default. -/
  hasPresence : Bool
  /-- The value of the unset field, where it is a single value and no message. -/
  default : Datum
  constraints : Option FieldConstraints
  /-- A single message can be told from none. -/
  presence : ∀ name, type = .message name → shape = .singular → hasPresence = true

structure Oneof where
  name : String
  constraints : Option OneofConstraints

structure MessageType where
  name : String
  fields : List Field
  oneofs : List Oneof
  constraints : Option MessageConstraints

structure Schema where
  messages : List MessageType
  enums : List EnumType

namespace MessageType

def field? (t : MessageType) (name : String) : Option Field := t.fields.find? (·.name == name)

/-- The oneofs that only give presence to a single field. -/
def syntheticOneofs (t : MessageType) : List String :=
  (t.fields.filter (·.optional)).filterMap (·.oneof)

def isSynthetic (t : MessageType) (oneof : String) : Bool := t.syntheticOneofs.contains oneof

/-- The field of a oneof that is set in a message. -/
def chosen? (t : MessageType) (oneof : String) (m : Message) : Option String :=
  ((t.fields.filter (·.oneof == some oneof)).find? fun f => m.isSet f.name).map (·.name)

/-- A type without fields, for names that no type has. -/
def empty (name : String) : MessageType := ⟨name, [], [], none⟩

end MessageType

namespace Field

def isRepeated (f : Field) : Bool := f.shape != .singular

/-- What a singular field holds, its default when it is unset. -/
def valueIn (f : Field) (m : Message) : Datum :=
  match m.single? f.name with
  | some d => d
  | none => f.default

/-- Whether a singular field without presence holds something else than its default. -/
def differsIn (f : Field) (m : Message) : Bool := !(f.valueIn m).same f.default

/-- Whether a message sets a field: collections are set when they have members, fields with presence when
they were given a value, and all others when their value is not the default. -/
def isSetIn (f : Field) (m : Message) : Bool :=
  match f.shape with
  | .repeated => !(m.elements f.name).isEmpty
  | .map _ => !(m.entries f.name).isEmpty
  | .singular => if f.hasPresence then (m.single? f.name).isSome else f.differsIn m

end Field
end Conformance
