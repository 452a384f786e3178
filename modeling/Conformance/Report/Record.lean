import Conformance.Constraint.Layout
import Conformance.Report.Outcome
import Conformance.Schema.Instance

/-!
# Outcomes as messages

An outcome told in a message of the layout, for those who have no other access to it.
-/

namespace Conformance

def Violation.record (v : Violation) : Message :=
  (Layout.typeNamed "Violation").build
    [("field_path", .single (.text v.path.text)), ("constraint_id", .single (.text v.ruleId)),
      ("message", .single (.text v.message)), ("for_key", .single (.bool v.forKey))]

/-- The record of an outcome; without an error the text of the error is empty. -/
def Outcome.record (o : Outcome) : Message :=
  (Layout.typeNamed "Result").build
    [("status", .single (.int o.status.number)),
      ("violations", .repeated (o.violations.map fun v => .message v.record)),
      ("error", .single (.text ((o.error.map (·.text)).getD "")))]

end Conformance
