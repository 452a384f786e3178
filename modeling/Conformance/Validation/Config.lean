import Conformance.Decimal.Numeral
import Conformance.Report.Path
import Conformance.Text.Case

/-!
# Configuration

Options of a validation, given as values or read from the environment.
-/

namespace Conformance

open Text

inductive ConfigError where
  | negativeDepth (depth : Int)
  | badBoolean (name text : String)
  | badInteger (name text : String)
  deriving DecidableEq, Repr

namespace ConfigError

def message : ConfigError → String
  | negativeDepth d => "max_depth must not be negative: " ++ decimalText d
  | badBoolean name text => "invalid boolean value for " ++ name ++ ": " ++ Quoted.text text
  | badInteger name text => "invalid integer value for " ++ name ++ ": " ++ Quoted.text text

end ConfigError

/-- The variables of an environment. -/
abbrev Environment := List (String × String)

/-- A value that was given, or else read from a variable of the environment. -/
structure EnvironmentValue where
  /-- The name of the variable of the environment. -/
  envName : String
  option : String
  value : String
  fromEnvironment : Bool
  deriving DecidableEq, Repr

namespace EnvironmentValue

/-- The value that was given, or the one of the variable; a variable that is not there is empty. -/
def of (envName option : String) (given : Option String) (e : Environment) : EnvironmentValue :=
  match given with
  | some v => ⟨envName, option, v, false⟩
  | none => ⟨envName, option, (e.lookup envName).getD "", true⟩

def name (v : EnvironmentValue) : String := if v.fromEnvironment then v.envName else v.option

def trimmed (v : EnvironmentValue) : List Char := trim isBlank v.value.toList

def trueWords : List String := ["1", "true", "yes", "on"]
def falseWords : List String := ["", "0", "false", "no", "off"]

/-- The truth value that the text denotes in any case of letters, or nothing when it is blank. -/
def bool? (v : EnvironmentValue) : Except ConfigError (Option Bool) :=
  let s := String.ofList (lower v.trimmed)
  if s.isEmpty then .ok none
  else if trueWords.contains s then .ok (some true)
  else if falseWords.contains s then .ok (some false)
  else .error (.badBoolean v.name v.value)

def int? (v : EnvironmentValue) : Except ConfigError (Option Int) :=
  if v.trimmed.isEmpty then .ok none
  else
    match Decimal.readInteger? 10 v.trimmed with
    | some n => .ok (some n)
    | none => .error (.badInteger v.name v.value)

end EnvironmentValue

structure Config where
  /-- A validation stops at the first violation. -/
  failFast : Bool := false
  /-- The number of levels of messages below the validated one. -/
  maxDepth : Nat := 32
  deriving DecidableEq, Repr

namespace Config

def defaultDepth : Int := 32

def of (failFast : Bool) (maxDepth : Int) : Except ConfigError Config :=
  if maxDepth < 0 then .error (.negativeDepth maxDepth) else .ok ⟨failFast, maxDepth.toNat⟩

def failFastVariable : String := "PROTOGUARD_FAIL_FAST"
def maxDepthVariable : String := "PROTOGUARD_MAX_DEPTH"

def ofEnvironment (e : Environment) : Except ConfigError Config := do
  let failFast ← (EnvironmentValue.of failFastVariable "fail_fast" none e).bool?
  let maxDepth ← (EnvironmentValue.of maxDepthVariable "max_depth" none e).int?
  of (failFast.getD false) (maxDepth.getD defaultDepth)

end Config
end Conformance
