import Conformance.Failure
import Conformance.Report.Violation
import Conformance.Schema.Kind

/-!
# Checks

A rule that was resolved and is ready to run against values: a test or a program with its parameter.
-/

namespace Conformance

namespace Rule

/-- Why a parameter was not prepared: it does not suit the rule, or it is no parameter at all. -/
inductive Unprepared where
  | problem (p : ParameterProblem)
  | fault (f : Fault)
  deriving DecidableEq, Repr

def preparePattern (param : Value) : Except Unprepared Value :=
  match param with
  | .pattern _ => .ok param
  | .text s =>
    match Pattern.ofText s with
    | .ok p => .ok (.pattern p)
    | .error .syntactic => .error (.problem (.badPattern s))
    | .error .contradictoryFlags => .error (.problem .contradictoryFlags)
    | .error .countTooLarge => .error (.fault .tooLarge)
  | _ => .error (.fault .wrongType)

def prepareDefined (s : Schema) (type : FieldType) : Except Unprepared Value :=
  match type with
  | .enum name =>
    let numbers := ((s.enum? name).map (·.values.map (·.2))).getD []
    .ok (.set true (numbers.eraseDups.map .int))
  | _ => .error (.problem .noEnum)

/-- The parameter as the test of the rule takes it, for values of a type. -/
def prepare (s : Schema) (type : FieldType) (r : Rule) (param : Value) : Except Unprepared Value :=
  match r.preparation with
  | none => .ok param
  | some .pattern => preparePattern param
  | some .definedValues => prepareDefined s type

end Rule

inductive CheckForm where
  | test (t : Rule.Test) (param : Value)
  | formula (p : Program) (param : Value)
  | custom (p : Program)

structure Check where
  ruleId : String
  message : String
  form : CheckForm

inductive CheckError where
  | fault (f : Fault)
  | evaluation (e : EvaluationError)
  deriving DecidableEq, Repr

namespace Check

def source (c : Check) : Source :=
  match c.form with
  | .custom _ => .custom
  | _ => .standard

def program? (c : Check) : Option Program :=
  match c.form with
  | .test .. => none
  | .formula p _ | .custom p => some p

def param (c : Check) : Value :=
  match c.form with
  | .test _ v | .formula _ v => v
  | .custom _ => .none

def bindings (c : Check) (v now : Value) : List (String × Value) :=
  match c.form with
  | .custom _ => [("this", v), ("now", now)]
  | _ => [("this", v), ("rule", c.param), ("now", now)]

def falseText (c : Check) (p : Program) : String :=
  if c.message.isEmpty then "expression " ++ Text.Quoted.text p.source ++ " evaluated to false" else c.message

/-- Runs the check on a value: nothing if the value satisfies it, and else the text of the violation. -/
def run (s : Schema) (c : Check) (v now : Value) : Except CheckError (Option String) :=
  match c.form with
  | .test t param =>
    match t.holds v param with
    | .ok b => .ok (if b then none else some c.message)
    | .error f => .error (.fault f)
  | .formula p _ | .custom p =>
    match p.evaluate s (c.bindings v now) with
    | .ok (.holds true) | .ok (.complaint "") => .ok none
    | .ok (.complaint t) => .ok (some t)
    | .ok (.holds false) => .ok (some (c.falseText p))
    | .error e => .error (.evaluation e)

end Check
end Conformance
