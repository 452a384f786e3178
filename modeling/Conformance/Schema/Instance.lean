import Conformance.Schema.Basic

/-!
# Instances

The message that comes of setting fields one after the other. Of the members of a oneof the last one stays
set; a field without presence is set only by something else than its zero; collections are set by members,
and a later entry of a map replaces an earlier one with its key.
-/

namespace Conformance

/-- The zero that a field without presence does not store; a negative zero is none. -/
def Datum.isBlank : Datum → Bool
  | .bool b => !b
  | .int n => n == 0
  | .float x => x.isZero && !x.isNegative
  | .text s => s.isEmpty
  | .bytes b => b.isEmpty
  | .message _ => false

/-- Puts an entry among others that are in the order of their keys. -/
def putEntry (k v : Datum) : List (Datum × Datum) → List (Datum × Datum)
  | [] => [(k, v)]
  | (k₁, v₁) :: es =>
    if k.same k₁ then (k, v) :: es
    else if k.keyLe k₁ then (k, v) :: (k₁, v₁) :: es
    else (k₁, v₁) :: putEntry k v es

namespace Field

/-- A value as the field stores it: the narrower floating point type rounds. -/
def stored (f : Field) (d : Datum) : Datum :=
  match f.type, d with
  | .scalar .float, .float x => .float x.toSingle
  | _, d => d

/-- What a setting makes of the field, if it sets it at all. -/
def filled? (f : Field) : Content → Option Content
  | .single d => if f.hasPresence || !(f.stored d).isBlank then some (.single (f.stored d)) else none
  | .repeated ds => if ds.isEmpty then none else some (.repeated (ds.map f.stored))
  | .entries es =>
    if es.isEmpty then none
    else some (.entries (es.foldl (fun all (k, v) => putEntry k (f.stored v) all) []))

end Field

namespace MessageType

/-- The oneof that a field belongs to, by the name of the field. -/
def oneofOf? (t : MessageType) (field : String) : Option String := (t.field? field).bind (·.oneof)

/-- The settings that last: none that a later one clears. -/
def lasting (t : MessageType) : List (String × Content) → List (String × Content)
  | [] => []
  | (name, c) :: rest =>
    let cleared := rest.any fun (later, _) =>
      later == name || ((t.oneofOf? name).isSome && t.oneofOf? later == t.oneofOf? name)
    if cleared then t.lasting rest else (name, c) :: t.lasting rest

/-- The message with fields set one after the other; its fields are in the order of their declarations. -/
def build (t : MessageType) (settings : List (String × Content)) : Message :=
  let settings := t.lasting settings
  .mk t.name (t.fields.filterMap fun f => do
    let c ← settings.lookup f.name
    return (f.name, ← f.filled? c))

end MessageType
end Conformance
