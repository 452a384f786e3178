import Conformance.Program.Basic
import Conformance.Rule.Test

/-!
# The standard rules

A rule is found by the kind of typed rules and its name there. Rules with a closed form are tests; formats
and times are expressions over the value, the parameter and the present time.
-/

namespace Conformance

namespace Rule

inductive Form where
  | test (t : Test)
  | expression (source : String)
  deriving DecidableEq, Repr

/-- What becomes of a parameter before values are tested against it. -/
inductive Preparation where
  /-- A text becomes a pattern. -/
  | pattern
  /-- The numbers of the values of the enum take its place. -/
  | definedValues
  deriving DecidableEq, Repr

/-- The text of a violation: words before and after the parameter, if it is shown. -/
structure Wording where
  before : String
  after : Option String := none
  deriving DecidableEq, Repr

def parameterMark : String := "\x7brule\x7d"

namespace Wording

def template (w : Wording) : String :=
  match w.after with
  | some s => w.before ++ parameterMark ++ s
  | none => w.before

def fill (w : Wording) (param : String) : String :=
  match w.after with
  | some s => w.before ++ param ++ s
  | none => w.before

end Wording

end Rule

open Rule

structure Rule where
  kind : String
  name : String
  form : Rule.Form
  wording : Wording
  /-- The rule has no parameter; it is active when it is set to true. -/
  flag : Bool := false
  preparation : Option Preparation := none
  deriving DecidableEq, Repr

namespace Rule

def id (r : Rule) : String := r.kind ++ "." ++ r.name

/-- A test with its parameter at the end of the wording. -/
def test (kind name : String) (t : Test) (before : String) (after : String := "") : Rule :=
  { kind, name, form := .test t, wording := ⟨before, some after⟩ }

/-- An expression with its parameter at the end of the wording. -/
def formula (kind name source before : String) (after : String := "") : Rule :=
  { kind, name, form := .expression source, wording := ⟨before, some after⟩ }

def check (kind name source wording : String) : Rule :=
  { kind, name, form := .expression source, wording := ⟨wording, none⟩, flag := true }

/-- The kinds of numbers, in the order of the documentation. -/
def numericKinds : List String :=
  ["float", "double", "int32", "int64", "uint32", "uint64", "sint32", "sint64", "fixed32", "fixed64",
    "sfixed32", "sfixed64"]

def equalWording : String := "value must equal "
def lessWording : String := "value must be less than "
def lessOrEqualWording : String := "value must be less than or equal to "
def greaterWording : String := "value must be greater than "
def greaterOrEqualWording : String := "value must be greater than or equal to "
def inWording : String := "value must be in list "
def notInWording : String := "value must not be in list "

def numericRules (kind : String) : List Rule :=
  [test kind "const" .const equalWording,
    test kind "lt" .lt lessWording,
    test kind "lte" .lte lessOrEqualWording,
    test kind "gt" .gt greaterWording,
    test kind "gte" .gte greaterOrEqualWording,
    test kind "in" .isIn inWording,
    test kind "not_in" .notIn notInWording] ++
  if kind == "float" || kind == "double" then
    [{ kind, name := "finite", form := .test .finite, wording := ⟨"value must be finite", none⟩, flag := true }]
  else []

def tick : String := "\x60"

def stringRules : List Rule :=
  [test "string" "const" .const ("value must equal " ++ tick) tick,
    test "string" "min_len" .minLength "value length must be at least " " characters",
    test "string" "max_len" .maxLength "value length must be at most " " characters",
    test "string" "min_bytes" .minBytes "value length must be at least " " bytes",
    test "string" "max_bytes" .maxBytes "value length must be at most " " bytes",
    { test "string" "pattern" .hasMatch ("value does not match regex pattern " ++ tick) tick with
      preparation := some .pattern },
    test "string" "prefix" .startsWith ("value does not have prefix " ++ tick) tick,
    test "string" "suffix" .endsWith ("value does not have suffix " ++ tick) tick,
    test "string" "contains" .contains ("value does not contain substring " ++ tick) tick,
    test "string" "in" .isIn inWording,
    test "string" "not_in" .notIn notInWording,
    check "string" "email" "is_email(this)" "value must be a valid email address",
    check "string" "hostname" "is_hostname(this)" "value must be a valid hostname",
    check "string" "ip" "is_ip(this)" "value must be a valid IP address",
    check "string" "ipv4" "is_ip(this, 4)" "value must be a valid IPv4 address",
    check "string" "ipv6" "is_ip(this, 6)" "value must be a valid IPv6 address",
    check "string" "uri" "is_uri(this)" "value must be a valid URI",
    check "string" "uri_ref" "is_uri_ref(this)" "value must be a valid URI reference",
    test "string" "len" .length "value length must be " " characters",
    test "string" "len_bytes" .lengthInBytes "value length must be " " bytes",
    check "string" "address" "is_address(this)" "value must be a valid hostname or IP address",
    check "string" "uuid" "is_uuid(this)" "value must be a valid UUID",
    test "string" "not_contains" .notContains ("value contains substring " ++ tick) tick,
    check "string" "ip_prefix" "is_ip_prefix(this)" "value must be a valid IP prefix",
    check "string" "host_and_port" "is_host_and_port(this, True)"
      "value must be a valid host (hostname or IP address) and port pair"]

def bytesRules : List Rule :=
  [test "bytes" "const" .const "value must be ",
    test "bytes" "min_len" .minLength "value length must be at least " " bytes",
    test "bytes" "max_len" .maxLength "value length must be at most " " bytes",
    { test "bytes" "pattern" .hasMatch ("value must match regex pattern " ++ tick) tick with
      preparation := some .pattern },
    test "bytes" "prefix" .startsWith "value does not have prefix ",
    test "bytes" "suffix" .endsWith "value does not have suffix ",
    test "bytes" "contains" .contains "value does not contain ",
    test "bytes" "in" .isIn inWording,
    test "bytes" "not_in" .notIn notInWording,
    check "bytes" "ip" "size(this) in (4, 16)" "value must be a valid IP address",
    check "bytes" "ipv4" "size(this) == 4" "value must be a valid IPv4 address",
    check "bytes" "ipv6" "size(this) == 16" "value must be a valid IPv6 address",
    test "bytes" "len" .length "value length must be " " bytes"]

def enumRules : List Rule :=
  [test "enum" "const" .const equalWording,
    { kind := "enum", name := "defined_only", form := .test .isIn,
      wording := ⟨"value must be one of the defined enum values", none⟩, flag := true,
      preparation := some .definedValues },
    test "enum" "in" .isIn inWording,
    test "enum" "not_in" .notIn notInWording]

def collectionRules : List Rule :=
  [test "bool" "const" .const equalWording,
    test "repeated" "min_items" .minLength "value must contain at least " " item(s)",
    test "repeated" "max_items" .maxLength "value must contain no more than " " item(s)",
    { kind := "repeated", name := "unique", form := .test .unique,
      wording := ⟨"repeated value must contain unique items", none⟩, flag := true },
    test "map" "min_pairs" .minLength "map must be at least " " entries",
    test "map" "max_pairs" .maxLength "map must be at most " " entries",
    { kind := "any", name := "in", form := .test .urlIn,
      wording := ⟨"type URL must be in the allow list", none⟩ },
    { kind := "any", name := "not_in", form := .test .urlNotIn,
      wording := ⟨"type URL must not be in the block list", none⟩ }]

def orderRules (kind : String) : List Rule :=
  [formula kind "const" "this == rule" equalWording,
    formula kind "lt" "this < rule" lessWording,
    formula kind "lte" "this <= rule" lessOrEqualWording,
    formula kind "gt" "this > rule" greaterWording,
    formula kind "gte" "this >= rule" greaterOrEqualWording]

def timeRules : List Rule :=
  orderRules "duration" ++ orderRules "timestamp" ++
  [formula "duration" "in" "this in rule" inWording,
    formula "duration" "not_in" "this not in rule" notInWording,
    check "timestamp" "lt_now" "this < now" "value must be less than now",
    check "timestamp" "gt_now" "this > now" "value must be greater than now",
    formula "timestamp" "within" "abs(this - now) <= rule" "value must be within " " of now"]

def standard : List Rule :=
  numericKinds.flatMap numericRules ++ stringRules ++ bytesRules ++ enumRules ++ collectionRules ++ timeRules

def standard? (kind name : String) : Option Rule := standard.find? fun r => r.kind == kind && r.name == name

/-- Lower and upper bounds of lengths that must not cross, by kind. -/
def lengthBounds (kind : String) : List (String × String) :=
  match kind with
  | "string" => [("min_len", "max_len"), ("min_bytes", "max_bytes")]
  | "bytes" => [("min_len", "max_len")]
  | "repeated" => [("min_items", "max_items")]
  | "map" => [("min_pairs", "max_pairs")]
  | _ => []

/-- Whether a lower and an upper bound of a kind together make up one range. -/
def hasRanges (kind : String) : Bool :=
  numericKinds.contains kind || kind == "duration" || kind == "timestamp"

/-- The variables of standard rules, of custom rules on values, and of custom rules on messages. -/
def standardVariables : List String := ["this", "rule", "now"]
def customVariables : List String := ["this", "now"]

end Rule
end Conformance
