import Conformance.Schema.Known

/-!
# Kinds of fields

The closed set of kinds that rules are resolved by: single values, members of oneofs, repeated fields and
maps. A oneof that only gives presence to one field is no group.
-/

namespace Conformance

namespace FieldType

def kindName : FieldType → String
  | scalar s => s.name
  | enum _ => "enum"
  | message name => name

end FieldType

inductive Kind where
  | value (type : FieldType)
  | oneofMember (group : String) (type : FieldType)
  | repeated (element : FieldType)
  | map (key : Scalar) (value : FieldType)
  deriving DecidableEq, Repr

namespace Kind

def name : Kind → String
  | value t => t.kindName
  | oneofMember _ t => t.kindName
  | repeated t => "repeated " ++ t.kindName
  | map k t => "map<" ++ k.name ++ ", " ++ t.kindName ++ ">"

end Kind

def MessageType.kindOf (t : MessageType) (f : Field) : Kind :=
  match f.shape with
  | .map key => .map key f.type
  | .repeated => .repeated f.type
  | .singular =>
    match f.oneof with
    | some o => if t.isSynthetic o then .value f.type else .oneofMember o f.type
    | none => .value f.type

/-- The type that typed rules see: of a wrapper, the scalar that it wraps. -/
def FieldType.unwrapped (t : FieldType) : FieldType :=
  match t with
  | .message name =>
    match Schema.wrapped? name with
    | some s => .scalar s
    | none => t
  | _ => t

end Conformance
