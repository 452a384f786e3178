import Conformance.Constraint.Error
import Conformance.Report.Path

/-!
# Failures

Why a message could not be validated: its constraints are malformed or do not compile, it is nested too
deeply, a rule could not be evaluated, or an operation on its values is not possible at all.
-/

namespace Conformance

/-- A message nested too deeply. -/
inductive DepthError where
  /-- A message of a type at a path is beyond the greatest depth that is allowed. -/
  | exceeded (type : String) (path : Path) (limit : Int)
  /-- The depth that is allowed is more than can be walked. -/
  | exhausted (type : String) (limit : Int)
  deriving DecidableEq, Repr

namespace DepthError

def message : DepthError → String
  | exceeded type path limit =>
    type ++ " at " ++ path.text ++ " exceeds the maximum validation depth of " ++ decimalText limit
  | exhausted type limit =>
    type ++ " is nested too deeply to be validated with a maximum depth of " ++ decimalText limit

end DepthError

/-- A rule that could not be evaluated, and where. Without a place the program was run on its own. -/
structure RuntimeError where
  place : Option (Path × String)
  cause : EvaluationError
  deriving DecidableEq, Repr

namespace RuntimeError

/-- At a place the rule is named; a verdict of no use is told by that alone. -/
def message (e : RuntimeError) : String :=
  match e.place with
  | none => e.cause.message
  | some (path, rule) =>
    let path := path.text
    let place := (if path.isEmpty then "message" else path) ++ ": " ++ (if rule.isEmpty then "rule" else rule)
    match e.cause with
    | .faulty .. => place ++ ": " ++ e.cause.message
    | _ => place

end RuntimeError

inductive Failure where
  | schema (e : SchemaError)
  | compilation (e : CompilationError)
  | depth (e : DepthError)
  | runtime (e : RuntimeError)
  | fault (f : Fault)
  deriving DecidableEq, Repr

def Uncompiled.failure : Uncompiled → Failure
  | refused e => .compilation e
  | fault f => .fault f

end Conformance
