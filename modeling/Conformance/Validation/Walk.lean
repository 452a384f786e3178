import Conformance.Constraint.Compiled
import Conformance.Value.Bound

/-!
# The walk through a message

Fields are visited in declaration order; at each value the standard rules come before the custom ones, and
these before the message inside of it. Required oneofs and the rules of the message as a whole come last.
-/

namespace Conformance

structure WalkContext where
  schema : Schema
  /-- The compiled rules of a type. -/
  rulesOf : String → Except Failure TypeRules
  /-- The walk ends at the first violation. -/
  failFast : Bool
  /-- The number of levels below the first message that may be visited. -/
  maxDepth : Int
  /-- The present time, as expressions see it. -/
  now : Value
  /-- The type of the first message. -/
  root : String

structure WalkState where
  violations : List Violation := []
  /-- The types of the messages below the first one, in the order of the visits. -/
  visited : List String := []

/-- Why a walk ended early. -/
inductive Interrupt where
  | stop
  | failure (f : Failure)
  deriving DecidableEq, Repr

abbrev Walk := ExceptT Interrupt (StateM WalkState)

namespace Walk

/-- The number of levels that can be walked at all. -/
def capacity : Nat := 330

def report (c : WalkContext) (v : Violation) : Walk Unit := do
  modify fun s => { s with violations := s.violations ++ [v] }
  if c.failFast then throw .stop

def lift {α : Type} : Except Fault α → Walk α
  | .ok a => pure a
  | .error f => throw (.failure (.fault f))

def runCheck (c : WalkContext) (v : Value) (path : Path) (forKey : Bool) (check : Check) : Walk Unit :=
  match check.run c.schema v c.now with
  | .ok none => pure ()
  | .ok (some message) => report c ⟨path, check.ruleId, message, check.source, forKey⟩
  | .error (.fault f) => throw (.failure (.fault f))
  | .error (.evaluation e) => throw (.failure (.runtime ⟨some (path, check.ruleId), e⟩))

def runChecks (c : WalkContext) (v : Value) (path : Path) (forKey : Bool) : List Check → Walk Unit
  | [] => pure ()
  | check :: rest => do
    runCheck c v path forKey check
    runChecks c v path forKey rest

end Walk

/-- Whether a value is the zero of its type: an empty text, a message without set fields. -/
def Datum.isZero : Datum → Bool
  | .bool b => !b
  | .int n => n == 0
  | .float x => x.isZero
  | .text s => s.isEmpty
  | .bytes b => b.isEmpty
  | .message m => m.fields.isEmpty

def Datum.unwrapped : Datum → Datum
  | .message m => (m.single? "value").getD (((Schema.wrapped? m.type).map (·.zero)).getD (.message m))
  | d => d

def Key.ofDatum : Datum → Key
  | .bool b => .bool b
  | .int n => .int n
  | .text s => .text s
  | _ => .int 0

namespace Walk

/-- How a walk goes on inside of a message of a type at a place. -/
abbrev Descent := String → Message → Path → Walk Unit

/-- Goes into the message that a value is, if it is to be gone into. -/
def visitInner (descend : Descent) (nested : Option String) (d : Datum) (path : Path) : Walk Unit :=
  match nested, d with
  | some type, .message m => descend type m path
  | _, _ => pure ()

def visitValue (c : WalkContext) (descend : Descent) (r : ValueRules) (d : Datum) (path : Path)
    (forKey : Bool := false) : Walk Unit := do
  if r.ignoreEmpty && d.isZero then return
  if !(r.standard.isEmpty && r.custom.isEmpty) then
    let v ← lift (if r.isWrapper then d.unwrapped else d).bound
    runChecks c v path forKey (r.standard ++ r.custom)
  visitInner descend r.nested d path

def visitItems (c : WalkContext) (descend : Descent) (r : ValueRules) (path : Path) :
    Nat → List Datum → Walk Unit
  | _, [] => pure ()
  | i, d :: ds => do
    visitValue c descend r d (path ++ [.index i])
    visitItems c descend r path (i + 1) ds

/-- Visits the entries of a map, each key before its value. -/
def visitEntries (c : WalkContext) (descend : Descent) (keys values : ValueRules) (path : Path) :
    List (Datum × Datum) → Walk Unit
  | [] => pure ()
  | (k, v) :: es => do
    let place := path ++ [.key (.ofDatum k)]
    visitValue c descend keys k place true
    visitValue c descend values v place
    visitEntries c descend keys values path es

/-- Whether the rules of a field apply. A required field that is not set is a violation; other fields that
are not set are passed over if that can be seen, or if zero values are to be ignored. -/
def isPresent (c : WalkContext) (r : FieldRules) (isSet : Bool) (path : Path) : Walk Bool := do
  if isSet then return true
  if r.required then
    report c { path, ruleId := "required", message := "value is required" }
    return false
  return !(r.hasPresence || r.ignoreEmpty)

/-- Visits what a field of a message holds: a collection as a whole comes before its members. -/
def visitHeld (c : WalkContext) (descend : Descent) (m : Message) (path : Path) (r : FieldRules) :
    Walk Unit :=
  match r.field.shape with
  | .repeated => do
    let ds := m.elements r.field.name
    let whole ← lift (boundAll ds)
    runChecks c (.list whole) path false (r.value.standard ++ r.value.custom)
    match r.items with
    | some items => visitItems c descend items path 0 ds
    | none => pure ()
  | .map _ => do
    let es := m.entries r.field.name
    let whole ← lift (boundEntries es)
    runChecks c (.dict whole) path false (r.value.standard ++ r.value.custom)
    match r.keys, r.values with
    | some keys, some values => visitEntries c descend keys values path (inKeyOrder es)
    | _, _ => pure ()
  | .singular => visitValue c descend r.value (r.field.valueIn m) path

def visitField (c : WalkContext) (descend : Descent) (m : Message) (path : Path) (r : FieldRules) :
    Walk Unit := do
  let path := path ++ [.field r.field.name]
  if ← isPresent c r (r.field.isSetIn m) path then visitHeld c descend m path r

def visitFields (c : WalkContext) (descend : Descent) (m : Message) (path : Path) :
    List FieldRules → Walk Unit
  | [] => pure ()
  | r :: rs => do
    visitField c descend m path r
    visitFields c descend m path rs

/-- Reports the oneofs that are not set. -/
def visitOneofs (c : WalkContext) (type : MessageType) (m : Message) (path : Path) :
    List OneofRule → Walk Unit
  | [] => pure ()
  | o :: os => do
    if o.required && (type.chosen? o.name m).isNone then
      report c { path := path ++ [.field o.name], ruleId := "oneof.required",
                 message := "exactly one field is required in oneof" }
    visitOneofs c type m path os

/-- Visits a message; the fuel is the number of levels that are still allowed, this one included. -/
def visit (c : WalkContext) : (fuel depth : Nat) → TypeRules → Message → Path → Walk Unit
  | 0, _, r, _, path => throw (.failure (.depth (.exceeded r.type path c.maxDepth)))
  | fuel + 1, depth, r, m, path => do
    if capacity < depth then throw (.failure (.depth (.exhausted c.root c.maxDepth)))
    if r.disabled then return
    let descend : Descent := fun type inner path => do
      modify fun s => { s with visited := s.visited ++ [type] }
      match c.rulesOf type with
      | .ok rules => visit c fuel (depth + 1) rules inner path
      | .error f => throw (.failure f)
    visitFields c descend m path r.fields
    visitOneofs c (c.schema.messageType r.type) m path r.oneofs
    runChecks c (.message m) path false r.rules

/-- Walks through a message: the outcome, and what was recorded on the way. -/
def run (c : WalkContext) (r : TypeRules) (m : Message) : Except Interrupt Unit × WalkState :=
  StateT.run (ExceptT.run (visit c (c.maxDepth + 1).toNat 0 r m [])) {}

/-- What a walk comes to: the violations that were recorded, or the failure that ended it. -/
def conclusion : Except Interrupt Unit × WalkState → Except Failure (List Violation)
  | (.ok (), s) | (.error .stop, s) => .ok s.violations
  | (.error (.failure f), _) => .error f

end Walk

/-- The violations in a message, in the order of the walk, or the failure that ended it. -/
def WalkContext.violations (c : WalkContext) (r : TypeRules) (m : Message) :
    Except Failure (List Violation) :=
  Walk.conclusion (Walk.run c r m)

end Conformance
