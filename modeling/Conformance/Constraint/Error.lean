import Conformance.Rule.Standard

/-!
# Malformed constraints

What can be wrong with the constraints that a schema declares, and how it is told.
-/

namespace Conformance

open Text

inductive ParameterProblem where
  | badPattern (source : String)
  /-- The flags of a pattern exclude each other. -/
  | contradictoryFlags
  /-- The values of an enum were asked for where there is none. -/
  | noEnum
  deriving DecidableEq, Repr

namespace ParameterProblem

def text : ParameterProblem → String
  | badPattern source => "invalid regular expression " ++ Quoted.text source
  | contradictoryFlags => "ASCII and UNICODE flags are incompatible"
  | noEnum => "defined_only applies to enum values only"

end ParameterProblem

inductive SchemaProblem where
  /-- Rules of another kind on a map field. -/
  | rulesOnMap (kind : String)
  /-- Rules of another kind on a repeated field. -/
  | rulesOnRepeated (kind : String)
  /-- Rules of a kind that the value has not. -/
  | rulesOnValue (kind value : String)
  | requiredElement
  /-- A lower bound above its upper bound. -/
  | crossedBounds (kind lower low upper high : String)
  | parameter (rule : String) (p : ParameterProblem)
  deriving DecidableEq, Repr

structure SchemaError where
  /-- The field, and the part of it, that is malformed. -/
  place : String
  problem : SchemaProblem
  deriving DecidableEq, Repr

namespace SchemaProblem

def text : SchemaProblem → String
  | rulesOnMap kind => kind ++ " rules cannot apply to a map field, use map.keys or map.values"
  | rulesOnRepeated kind => kind ++ " rules cannot apply to a repeated field, use repeated.items"
  | rulesOnValue kind value => kind ++ " rules cannot apply to a " ++ value ++ " value"
  | requiredElement => "required does not apply to collection elements"
  | crossedBounds kind lower low upper high =>
    kind ++ "." ++ lower ++ " (" ++ low ++ ") and " ++ kind ++ "." ++ upper ++ " (" ++ high ++
      ") admit no value"
  | parameter rule p => rule ++ ": " ++ p.text

end SchemaProblem

def SchemaError.message (e : SchemaError) : String := e.place ++ ": " ++ e.problem.text

end Conformance
