import Conformance.Report.Path

/-!
# Violations

A rule that a value does not satisfy, with its place and its text.
-/

namespace Conformance

inductive Source where
  | standard
  | custom
  deriving DecidableEq, Repr

namespace Source

def name : Source → String
  | standard => "standard"
  | custom => "custom"

end Source

structure Violation where
  path : Path
  ruleId : String
  message : String
  source : Source := .standard
  /-- The violation is one of a map key and not of its value. -/
  forKey : Bool := false
  deriving DecidableEq, Repr

namespace Violation

def text (v : Violation) : String :=
  let rule := v.message ++ " [" ++ v.ruleId ++ "]"
  if v.path.isEmpty then rule else v.path.text ++ ": " ++ rule

def same (a b : Violation) : Bool :=
  a.path.same b.path && a.ruleId == b.ruleId && a.message == b.message && a.source == b.source &&
    a.forKey == b.forKey

def sameAll : List Violation → List Violation → Bool
  | [], [] => true
  | a :: as, b :: bs => a.same b && sameAll as bs
  | _, _ => false

end Violation
end Conformance
