import Conformance.Constraint.Compiled
import Conformance.Value.Bound

/-!
# Compilation of constraints

From the constraints that a schema declares for a message type to its compiled rules. The first problem that
is met in declaration order ends it. The programs that are asked for on the way are recorded.
-/

namespace Conformance

open Rule

/-- Compilations that may fail, with the programs that were asked for so far. -/
abbrev Compile := ExceptT Failure (StateM (List ProgramKey))

namespace Compile

def program [ProgramSource] (key : ProgramKey) : Compile Program := do
  modify (· ++ [key])
  match ProgramSource.compile key with
  | .ok p => return p
  | .error e => throw e.failure

def refuse {α : Type} (place : String) (p : SchemaProblem) : Compile α := throw (.schema ⟨place, p⟩)

def lift {α : Type} : Except Fault α → Compile α
  | .ok a => pure a
  | .error f => throw (.fault f)

def custom [ProgramSource] (c : CustomRule) : Compile Check := do
  let p ← program ⟨c.expression, customVariables⟩
  return ⟨c.id, c.message, .custom p⟩

/-! ## Standard rules -/

def parameter (c : Content) : Except Fault Value :=
  match c with
  | .single d => d.bound
  | .repeated ds => do return .tuple (← boundAll ds)
  | .entries es => do return .dict (← boundEntries es)

structure Active where
  rule : Rule
  param : Value

/-- The rules that settings activate; flags only when they are set to true. -/
def active (kind : String) : List (String × Content) → Compile (List Active)
  | [] => return []
  | (name, content) :: rest => do
    match standard? kind name with
    | none => active kind rest
    | some rule =>
      let param ← lift (parameter content)
      let more ← active kind rest
      if rule.flag && !param.truth then return more else return ⟨rule, param⟩ :: more

def paramOf? (rules : List Active) (name : String) : Option Value :=
  (rules.find? (·.rule.name == name)).map (·.param)

/-- Refuses bounds of lengths that admit no value. -/
def checkBounds (place kind : String) (rules : List Active) : List (String × String) → Compile Unit
  | [] => return ()
  | (lower, upper) :: rest => do
    match paramOf? rules lower, paramOf? rules upper with
    | some low, some high =>
      if ← lift (low.related .gt high) then
        refuse place (.crossedBounds kind lower (← lift low.render) upper (← lift high.render))
      else checkBounds place kind rules rest
    | _, _ => checkBounds place kind rules rest

def standardCheck [ProgramSource] (s : Schema) (place : String) (type : FieldType) (a : Active) : Compile Check := do
  let message := a.rule.wording.fill (← lift a.param.render)
  match a.rule.form with
  | .test t =>
    match a.rule.prepare s type.unwrapped a.param with
    | .ok param => return ⟨a.rule.id, message, .test t param⟩
    | .error (.problem p) => refuse place (.parameter a.rule.id p)
    | .error (.fault f) => throw (.fault f)
  | .expression source =>
    let p ← program ⟨source, standardVariables⟩
    return ⟨a.rule.id, message, .formula p a.param⟩

end Compile

/-! ## Ranges -/

namespace Rule

/-- The check of a lower and an upper bound together. When the upper one is less than the lower one, values
must lie outside of them. -/
def rangeCheck (kind : String) (lower : Lower) (upper : Upper) (low high : Value) : Except Fault Check := do
  let outside ← high.related .lt low
  let id := kind ++ "." ++ lower.name ++ "_" ++ upper.name ++ (if outside then "_exclusive" else "")
  let message := "value must be " ++ lower.wording ++ " " ++ (← low.render) ++
    (if outside then " or " else " and ") ++ upper.wording ++ " " ++ (← high.render)
  return ⟨id, message, .test (.range lower upper outside) (.tuple [low, high])⟩

end Rule

namespace Compile

def lowerBound? (rules : List Active) : Option (Lower × Value) :=
  ((paramOf? rules "gt").map (.gt, ·)).or ((paramOf? rules "gte").map (.gte, ·))

def upperBound? (rules : List Active) : Option (Upper × Value) :=
  ((paramOf? rules "lt").map (.lt, ·)).or ((paramOf? rules "lte").map (.lte, ·))

/-- The checks of active rules. A range takes the place of its lower bound. -/
def standardChecks [ProgramSource] (s : Schema) (place kind : String) (type : FieldType)
    (range : Option ((Lower × Value) × (Upper × Value))) : List Active → Compile (List Check)
  | [] => return []
  | a :: rest => do
    match range with
    | none =>
      let c ← standardCheck s place type a
      return c :: (← standardChecks s place kind type range rest)
    | some ((lower, low), (upper, high)) =>
      if a.rule.name == lower.name then
        let c ← lift (rangeCheck kind lower upper low high)
        return c :: (← standardChecks s place kind type range rest)
      else if a.rule.name == upper.name then standardChecks s place kind type range rest
      else
        let c ← standardCheck s place type a
        return c :: (← standardChecks s place kind type range rest)

def typedChecks [ProgramSource] (s : Schema) (place : String) (type : FieldType) (t : TypedRules) :
    Compile (List Check) := do
  let rules ← active t.kind t.settings
  checkBounds place t.kind rules (lengthBounds t.kind)
  let range := match lowerBound? rules, upperBound? rules with
    | some l, some u => if hasRanges t.kind then some (l, u) else none
    | _, _ => none
  standardChecks s place t.kind type range rules

/-! ## Fields -/

/-- Whether typed rules apply to a type at all, and if so, whether the type wraps the values they are for. -/
def applies? (kind : String) (type : FieldType) : Option Bool :=
  match type with
  | .scalar s => if s.name == kind then some false else none
  | .enum _ => if kind == "enum" then some false else none
  | .message name =>
    if (Schema.wrapped? name).any (·.name == kind) then some true
    else if [(Schema.anyName, "any"), (Schema.durationName, "duration"),
        (Schema.timestampName, "timestamp")].contains (name, kind) then some false
    else none

/-- The message type to go on with inside of values of a type. -/
def nested? (type : FieldType) (c : FieldConstraints) : Option String :=
  match type with
  | .message name => if Schema.isOpaque name || c.skipped then none else some name
  | _ => none

/-- The checks of the typed rules of a value, and whether they are for what a wrapper wraps. -/
def valueChecks [ProgramSource] (s : Schema) (place : String) (type : FieldType) (c : FieldConstraints) :
    Compile (List Check × Bool) :=
  match c.typed with
  | none => return ([], false)
  | some t =>
    match applies? t.kind type with
    | some isWrapper => do return (← typedChecks s place type t, isWrapper)
    | none => refuse place (.rulesOnValue t.kind type.kindName)

def valueRules [ProgramSource] (s : Schema) (place : String) (type : FieldType) (c : FieldConstraints) :
    Compile ValueRules := do
  let checks ← valueChecks s place type c
  let custom ← c.custom.mapM custom
  return { kind := .value type, standard := checks.1, custom, ignoreEmpty := c.ignoreEmpty,
           nested := nested? type c, isWrapper := checks.2 }

def elementRules [ProgramSource] (s : Schema) (place : String) (type : FieldType) (c : Option FieldConstraints) :
    Compile ValueRules := do
  let c := c.getD {}
  if c.required then refuse place .requiredElement else valueRules s place type c

def wholeChecks [ProgramSource] (s : Schema) (place : String) (type : FieldType) (c : FieldConstraints) :
    Compile (List Check) :=
  match c.typed with
  | none => return []
  | some t => typedChecks s place type t

def collectionRules [ProgramSource] (s : Schema) (place : String) (kind : Kind) (type : FieldType)
    (c : FieldConstraints) : Compile ValueRules := do
  let standard ← wholeChecks s place type c
  let custom ← c.custom.mapM custom
  return { kind, standard, custom }

def onlyOfKind (place kind : String) (problem : String → SchemaProblem) (c : FieldConstraints) :
    Compile Unit :=
  match c.typed with
  | none => return ()
  | some t => if t.kind == kind then return () else refuse place (problem t.kind)

def fieldRules [ProgramSource] (s : Schema) (t : MessageType) (f : Field) : Compile FieldRules := do
  let c := f.constraints.getD {}
  let place := t.name ++ "." ++ f.name
  let kind := t.kindOf f
  match f.shape with
  | .map key =>
    onlyOfKind place "map" .rulesOnMap c
    let whole ← collectionRules s place kind f.type c
    let keys ← elementRules s (place ++ " key") (.scalar key) c.keys
    let values ← elementRules s (place ++ " value") f.type c.values
    return { field := f, kind, value := whole, required := c.required, ignoreEmpty := c.ignoreEmpty,
             keys := some keys, values := some values }
  | .repeated =>
    onlyOfKind place "repeated" .rulesOnRepeated c
    let whole ← collectionRules s place kind f.type c
    let items ← elementRules s (place ++ " item") f.type c.items
    return { field := f, kind, value := whole, required := c.required, ignoreEmpty := c.ignoreEmpty,
             items := some items }
  | .singular =>
    let value ← valueRules s place f.type c
    return { field := f, kind, value, required := c.required, ignoreEmpty := c.ignoreEmpty }

/-- The oneofs that must be set. Those that only give presence to a field are none of them. -/
def oneofRules (t : MessageType) : List OneofRule :=
  (t.oneofs.filter fun o => !t.isSynthetic o.name && o.constraints.any (·.required)).map fun o => ⟨o.name, true⟩

def typeRules [ProgramSource] (s : Schema) (t : MessageType) : Compile TypeRules := do
  if t.constraints.any (·.disabled) then return { type := t.name, disabled := true }
  let rules ← ((t.constraints.map (·.custom)).getD []).mapM custom
  let fields ← t.fields.mapM (fieldRules s t)
  return { type := t.name, fields, oneofs := oneofRules t, rules }

end Compile

/-- What the compilation of a type gives, and the programs that it asked for, in order. -/
structure Compilation where
  outcome : Except Failure TypeRules
  programs : List ProgramKey

def MessageType.compile [ProgramSource] (s : Schema) (t : MessageType) : Compilation :=
  let (outcome, programs) := (Compile.typeRules s t).run.run []
  ⟨outcome, programs⟩

end Conformance
