import Conformance.Expr.Library
import Conformance.Rule.Render

/-!
# Tests of values

The rules with a closed form: what each one asks of a value and its parameter.
-/

namespace Conformance

namespace Rule

/-- A lower bound of a range, which its values may reach or not. -/
inductive Lower where
  | gt
  | gte
  deriving DecidableEq, Repr

inductive Upper where
  | lt
  | lte
  deriving DecidableEq, Repr

inductive Test where
  | const
  | lt
  | lte
  | gt
  | gte
  | isIn
  | notIn
  | finite
  | minLength
  | maxLength
  | length
  | minBytes
  | maxBytes
  | lengthInBytes
  | hasMatch
  | startsWith
  | endsWith
  | contains
  | notContains
  | unique
  | urlIn
  | urlNotIn
  /-- Between two bounds, or outside of them. -/
  | range (lower : Lower) (upper : Upper) (outside : Bool)
  deriving DecidableEq, Repr

namespace Lower

def relation : Lower → Relation
  | gt => .gt
  | gte => .ge

def name : Lower → String
  | gt => "gt"
  | gte => "gte"

def wording : Lower → String
  | gt => "greater than"
  | gte => "greater than or equal to"

end Lower

namespace Upper

def relation : Upper → Relation
  | lt => .lt
  | lte => .le

def name : Upper → String
  | lt => "lt"
  | lte => "lte"

def wording : Upper → String
  | lt => "less than"
  | lte => "less than or equal to"

end Upper

def size (v : Value) : Except Fault Value :=
  match v.length? with
  | some n => .ok (.int n)
  | none => .error .wrongType

def sizeInBytes (v : Value) : Except Fault Value :=
  match v with
  | .text s => .ok (.int (Text.Utf8.size s.toList))
  | _ => .error .missingAttribute

def partTest (method : String) (v part : Value) : Except Fault Bool :=
  match v with
  | .text _ | .bytes _ => do return (← v.callMethod method { positional := [part] }).truth
  | _ => .error .missingAttribute

def typeUrl (v : Value) : Except Fault Value :=
  match v with
  | .message m =>
    if m.type == Schema.anyName then .ok (.ofDatum ((m.single? "type_url").getD (.text "")))
    else .error .missingAttribute
  | _ => .error .missingAttribute

def pair (v : Value) : Except Fault (Value × Value) :=
  match v with
  | .tuple [a, b] => .ok (a, b)
  | _ => .error .wrongType

namespace Test

def holds (t : Test) (v param : Value) : Except Fault Bool := do
  match t with
  | const => return v.same param
  | lt => v.related .lt param
  | lte => v.related .le param
  | gt => v.related .gt param
  | gte => v.related .ge param
  | isIn => param.contains v
  | notIn => return !(← param.contains v)
  | finite => return (← v.real).isFinite
  | minLength => (← size v).related .ge param
  | maxLength => (← size v).related .le param
  | length => return (← size v).same param
  | minBytes => (← sizeInBytes v).related .ge param
  | maxBytes => (← sizeInBytes v).related .le param
  | lengthInBytes => return (← sizeInBytes v).same param
  | hasMatch => Expr.Library.checkMatch v param
  | startsWith => partTest "startswith" v param
  | endsWith => partTest "endswith" v param
  | contains => v.contains param
  | notContains => return !(← v.contains param)
  | unique =>
    match v.members? with
    | some xs => return Expr.Library.distinct [] xs
    | none => throw .wrongType
  | urlIn => param.contains (← typeUrl v)
  | urlNotIn => return !(← param.contains (← typeUrl v))
  | range lower upper outside =>
    let (low, high) ← pair param
    let above ← v.related lower.relation low
    if outside then if above then return true else v.related upper.relation high
    else if above then v.related upper.relation high else return false

end Test
end Rule
end Conformance
