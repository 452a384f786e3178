import Conformance.Decimal.Numeral
import Conformance.Schema.Basic

/-!
# Declarations

Schemas as they are written down: local names inside of a package, types by scalar name or full name, and
numbers and defaults where they are given. A declared schema becomes one with full names, in which every
field knows its presence and its default.
-/

namespace Conformance

/-- How often a field occurs. -/
inductive Label where
  | optional
  | required
  | repeated
  /-- The field is a map with keys of this type. -/
  | map (key : Scalar)
  deriving DecidableEq, Repr

structure FieldDeclaration where
  name : String
  /-- The place among the fields of its type, counted from one, when it is not given. -/
  number : Option Nat := none
  /-- A scalar name, or the full name of an enum or a message; of a map, the type of its values. -/
  type : String
  label : Label := .optional
  /-- The oneof that the field is declared in. -/
  oneof : Option String := none
  /-- The oneof that is made up to give presence to the field alone. -/
  presence : Option String := none
  default : Option String := none
  constraints : Option FieldConstraints := none

/-- A message type with the types that are declared inside of it. -/
structure MessageDeclaration where
  name : String
  fields : List FieldDeclaration
  oneofs : List Oneof := []
  nested : List MessageDeclaration := []
  constraints : Option MessageConstraints := none

structure SchemaDeclaration where
  package : String
  /-- Every singular field has presence, unless it is said otherwise. -/
  explicitPresence : Bool := false
  enums : List EnumType := []
  messages : List MessageDeclaration := []

/-- The declaration that names lead to from the outside in: of each name the first declaration, and for the names after it the
types that are declared inside of it. -/
def declarationAt? : List MessageDeclaration → List String → Option MessageDeclaration
  | _, [] => none
  | ds, name :: names =>
    match ds.find? (·.name == name) with
    | none => none
    | some d => if names.isEmpty then some d else declarationAt? d.nested names

/-- The names of the oneofs that are made up for a type, as they stand in its file. The type is looked up there by its
name and the names of the types around it, given from the inside out. -/
def madeOneofs (file : List MessageDeclaration) (names : List String) : List String :=
  match declarationAt? file names.reverse with
  | none => []
  | some d => d.fields.filterMap (·.presence)

def qualified (scope name : String) : String := if scope.isEmpty then name else scope ++ "." ++ name

/-! ## Defaults -/

/-- The value of up to `count` digits in a base, and what follows them. -/
def leadingDigits (base : Nat) : Nat → Nat → List Char → Nat × List Char
  | 0, n, s => (n, s)
  | _, n, [] => (n, [])
  | count + 1, n, c :: s =>
    match Decimal.digitValues? base [c] with
    | some [v] => leadingDigits base count (n * base + v) s
    | _ => (n, c :: s)

def escapedBytes : Nat → List Char → List UInt8
  | 0, _ | _, [] => []
  | fuel + 1, '\\' :: c :: s =>
    let simple := [('n', 10), ('r', 13), ('t', 9), ('a', 7), ('b', 8), ('f', 12), ('v', 11)]
    match simple.lookup c with
    | some b => b :: escapedBytes fuel s
    | none =>
      if c == 'x' || c == 'X' then
        let (n, rest) := leadingDigits 16 2 0 s
        n.toUInt8 :: escapedBytes fuel rest
      else if '0' ≤ c && c ≤ '7' then
        let (n, rest) := leadingDigits 8 3 0 (c :: s)
        n.toUInt8 :: escapedBytes fuel rest
      else Text.Utf8.encode [c] ++ escapedBytes fuel s
  | fuel + 1, c :: s => Text.Utf8.encode [c] ++ escapedBytes fuel s

/-- The value that the text of a default denotes; the zero of its type when there is none. -/
def Scalar.defaultOf (s : Scalar) (text : Option String) : Datum :=
  match text with
  | none => s.zero
  | some t =>
    match s with
    | double => ((Decimal.readNumber? t.toList).map Datum.float).getD s.zero
    | float => ((Decimal.readNumber? t.toList).map fun x => Datum.float x.toSingle).getD s.zero
    | bool => .bool (t == "true")
    | string => .text t
    | bytes => .bytes (escapedBytes t.length t.toList)
    | _ => ((Decimal.readInteger? 10 t.toList).map Datum.int).getD s.zero

/-- The number of the value that the text of a default names; the first value when there is none. -/
def EnumType.defaultOf (e : EnumType) (text : Option String) : Datum :=
  let number : Option Int := match text with
    | some t => e.values.lookup t
    | none => e.values.head?.map (·.2)
  .int (number.getD 0)

/-! ## Types -/

namespace FieldDeclaration

def isSingular (f : FieldDeclaration) : Bool := f.label == .optional || f.label == .required

def shape (f : FieldDeclaration) : Shape :=
  match f.label with
  | .optional | .required => .singular
  | .repeated => .repeated
  | .map key => .map key

/-- The type that a name stands for among enums; every other name is one of a message. -/
def typeAmong (enums : List EnumType) (f : FieldDeclaration) : FieldType :=
  match Scalar.named? f.type with
  | some s => .scalar s
  | none => if enums.any (·.name == f.type) then .enum f.type else .message f.type

def defaultAmong (enums : List EnumType) (f : FieldDeclaration) : Datum :=
  match f.typeAmong enums with
  | .scalar s => s.defaultOf f.default
  | .enum name => ((enums.find? (·.name == name)).map (·.defaultOf f.default)).getD (.int 0)
  | .message name => .message (.unset name)

/-- Whether the set field can be told from one that holds its default. -/
def hasPresence (explicit : Bool) (enums : List EnumType) (f : FieldDeclaration) : Bool :=
  f.isSingular &&
    (explicit || (f.typeAmong enums).isMessage || f.oneof.isSome || f.presence.isSome)

theorem isSingular_of_shape {f : FieldDeclaration} (h : f.shape = .singular) : f.isSingular = true := by
  cases hl : f.label <;> simp_all [shape, isSingular]

theorem hasPresence_of_message (explicit : Bool) {enums : List EnumType} {f : FieldDeclaration} {name : String}
    (ht : f.typeAmong enums = .message name) (hs : f.shape = .singular) :
    f.hasPresence explicit enums = true := by
  simp [hasPresence, isSingular_of_shape hs, ht, FieldType.isMessage]

/-- The field at a place of a type for which oneofs of some names are made up. -/
def field (explicit : Bool) (enums : List EnumType) (made : List String) (place : Nat) (f : FieldDeclaration) : Field where
  name := f.name
  number := f.number.getD place
  type := f.typeAmong enums
  shape := f.shape
  oneof := f.oneof.or f.presence
  optional := (f.oneof.or f.presence).any made.contains
  hasPresence := f.hasPresence explicit enums
  default := f.defaultAmong enums
  constraints := f.constraints
  presence _ ht hs := hasPresence_of_message explicit ht hs

end FieldDeclaration

def declaredFields (explicit : Bool) (enums : List EnumType) (made : List String) : Nat → List FieldDeclaration → List Field
  | _, [] => []
  | place, f :: fs => f.field explicit enums made place :: declaredFields explicit enums made (place + 1) fs

section
variable (explicit : Bool) (enums : List EnumType) (file : List MessageDeclaration)

/-- The message type of a declaration, without the types inside of it. The names are those of the types around it, from the
inside out. -/
def MessageDeclaration.type (scope : String) (around : List String) (d : MessageDeclaration) : MessageType :=
  let made := d.fields.filterMap fun f => f.presence.map fun o => ⟨o, none⟩
  ⟨qualified scope d.name, declaredFields explicit enums (madeOneofs file (d.name :: around)) 1 d.fields,
    d.oneofs ++ made, d.constraints⟩

mutual

def MessageDeclaration.types (scope : String) (around : List String) : MessageDeclaration → List MessageType
  | ⟨name, fields, oneofs, nested, constraints⟩ =>
    MessageDeclaration.type explicit enums file scope around ⟨name, fields, oneofs, nested, constraints⟩ ::
      declaredTypes (qualified scope name) (name :: around) nested
termination_by structural x => x

def declaredTypes (scope : String) (around : List String) : List MessageDeclaration → List MessageType
  | [] => []
  | d :: ds => d.types scope around ++ declaredTypes scope around ds
termination_by structural x => x

end

end

namespace SchemaDeclaration

def enumTypes (d : SchemaDeclaration) : List EnumType :=
  d.enums.map fun e => { e with name := qualified d.package e.name }

def schema (d : SchemaDeclaration) : Schema :=
  ⟨declaredTypes d.explicitPresence d.enumTypes d.messages d.package [] d.messages, d.enumTypes⟩

end SchemaDeclaration
end Conformance
