import Conformance.Failure
import Conformance.Report.Violation
import Conformance.Status.ErrorTypes

/-!
# Outcomes

What a validation gives: the violations that it found, or the error that kept it from looking.
-/

namespace Conformance

structure ErrorReport where
  type : String
  message : String
  /-- The source that did not compile. -/
  source : Option String := none
  deriving DecidableEq, Repr

namespace ErrorReport

def isOwn (e : ErrorReport) : Bool := ErrorTypes.isOwn e.type

/-- The text that is told of the error; those of other origin are told by their type alone. -/
def text (e : ErrorReport) : String := if e.isOwn then e.message else ""

def status (e : ErrorReport) : Status := ErrorTypes.initial.statusOf e.type e.message

end ErrorReport

def Failure.report : Failure → ErrorReport
  | schema e => ⟨"SchemaError", e.message, none⟩
  | compilation e => ⟨"CompilationError", e.message, some e.source⟩
  | depth e => ⟨"RecursionError", e.message, none⟩
  | runtime e => ⟨"RuntimeEvaluationError", e.message, none⟩
  | fault f => ⟨f.kind, "", none⟩

/-- Whether a failure becomes part of an outcome; faults do not. -/
def Failure.isReported : Failure → Bool
  | fault _ => false
  | _ => true

structure Outcome where
  violations : List Violation := []
  error : Option ErrorReport := none
  deriving DecidableEq, Repr

namespace Outcome

def status (o : Outcome) : Status :=
  match o.error with
  | some e => e.status
  | none => if o.violations.isEmpty then .valid else .invalid

def valid (o : Outcome) : Bool := o.error.isNone && o.violations.isEmpty

def invalid (o : Outcome) : Bool := !o.violations.isEmpty

/-- Equality of what was found; errors do not count. -/
def same (a b : Outcome) : Bool := Violation.sameAll a.violations b.violations

def violationsError (o : Outcome) : ErrorReport :=
  let n := o.violations.length
  ⟨"ViolationsError", "message has " ++ toString n ++ " constraint violation" ++ (if n = 1 then "" else "s") ++
    ": " ++ "; ".intercalate (o.violations.map (·.text)), none⟩

/-- The error that an outcome that is not valid stands for. -/
def raised? (o : Outcome) : Option ErrorReport :=
  match o.error with
  | some e => some e
  | none => if o.violations.isEmpty then none else some o.violationsError

end Outcome
end Conformance
