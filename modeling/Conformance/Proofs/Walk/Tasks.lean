import Conformance.Validation.Walk

/-!
# The tasks of a message

What validation has to do for one message, as a list: the demands that are made on its fields, on their
elements and on the message as a whole, and the messages inside of it, each at its place in the order.
Nothing is checked here and nothing ends early.
-/

namespace Conformance

/-! ## Demands -/

/-- Something that is asked of a message. -/
inductive Demand where
  /-- That a required field is set which is not. -/
  | field (path : Path)
  /-- That a member of a required oneof is set where none is. -/
  | oneof (path : Path)
  /-- That a value satisfies a check. -/
  | check (check : Check) (value : Value) (path : Path) (forKey : Bool)

/-- What is to be done for a message: demands to make, messages inside of it to go into, and values that
cannot be bound. -/
inductive Task where
  | demand (d : Demand)
  | inner (type : String) (m : Message) (path : Path)
  | unbound (f : Fault)

namespace Demand

/-- What a demand comes to: nothing if it is met, and else a violation; a check may give no answer. -/
def result (s : Schema) (now : Value) : Demand → Except Failure (Option Violation)
  | field path => .ok (some { path, ruleId := "required", message := "value is required" })
  | oneof path =>
    .ok (some { path, ruleId := "oneof.required", message := "exactly one field is required in oneof" })
  | check c v path forKey =>
    match c.run s v now with
    | .ok answer => .ok (answer.map fun message => ⟨path, c.ruleId, message, c.source, forKey⟩)
    | .error (.fault f) => .error (.fault f)
    | .error (.evaluation e) => .error (.runtime ⟨some (path, c.ruleId), e⟩)

def violation? (s : Schema) (now : Value) (d : Demand) : Option Violation :=
  match d.result s now with
  | .ok v => v
  | .error _ => none

end Demand

/-- The demands of checks on a value, if it can be bound. -/
def checkTasks (bound : Except Fault Value) (path : Path) (forKey : Bool) (checks : List Check) : List Task :=
  match bound with
  | .ok v => checks.map fun c => .demand (.check c v path forKey)
  | .error f => [.unbound f]

/-- The message inside of a value, if it is one to go into. -/
def innerTasks (nested : Option String) (d : Datum) (path : Path) : List Task :=
  match nested, d with
  | some type, .message m => [.inner type m path]
  | _, _ => []

/-- The tasks of a single value: its standard checks, its custom checks, and the message inside of it. A
zero has none where zeros are ignored. -/
def ValueRules.tasks (r : ValueRules) (d : Datum) (path : Path) (forKey : Bool) : List Task :=
  if r.ignoreEmpty && d.isZero then []
  else
    (if r.standard.isEmpty && r.custom.isEmpty then []
      else checkTasks (if r.isWrapper then d.unwrapped else d).bound path forKey (r.standard ++ r.custom)) ++
    innerTasks r.nested d path

def itemTasks (r : ValueRules) (path : Path) : Nat → List Datum → List Task
  | _, [] => []
  | i, d :: ds => r.tasks d (path ++ [.index i]) false ++ itemTasks r path (i + 1) ds

/-- The tasks of an entry of a map: those of its key come before those of its value. -/
def entryTasks (keys values : ValueRules) (path : Path) (e : Datum × Datum) : List Task :=
  keys.tasks e.1 (path ++ [.key (.ofDatum e.1)]) true ++ values.tasks e.2 (path ++ [.key (.ofDatum e.1)]) false

namespace FieldRules

/-- The tasks of what a field holds: of a collection, the checks of the whole come before its members, and
the entries of a map are in the order of their keys. -/
def heldTasks (r : FieldRules) (m : Message) (path : Path) : List Task :=
  match r.field.shape with
  | .singular => r.value.tasks (r.field.valueIn m) path false
  | .repeated =>
    checkTasks ((boundAll (m.elements r.field.name)).map .list) path false (r.value.standard ++ r.value.custom) ++
    match r.items with
    | some items => itemTasks items path 0 (m.elements r.field.name)
    | none => []
  | .map _ =>
    checkTasks ((boundEntries (m.entries r.field.name)).map .dict) path false
      (r.value.standard ++ r.value.custom) ++
    match r.keys, r.values with
    | some keys, some values => (inKeyOrder (m.entries r.field.name)).flatMap (entryTasks keys values path)
    | _, _ => []

/-- The tasks of a field: if it is not set, only that it is required, or none where that can be seen or
zeros are ignored. -/
def tasks (r : FieldRules) (m : Message) (path : Path) : List Task :=
  let path := path ++ [.field r.field.name]
  if r.field.isSetIn m then r.heldTasks m path
  else if r.required then [.demand (.field path)]
  else if r.hasPresence || r.ignoreEmpty then []
  else r.heldTasks m path

end FieldRules

def OneofRule.tasks (o : OneofRule) (t : MessageType) (m : Message) (path : Path) : List Task :=
  if o.required && (t.chosen? o.name m).isNone then [.demand (.oneof (path ++ [.field o.name]))] else []

/-- The tasks of a message: its fields in the order of their declarations, the oneofs, and the message as a
whole. -/
def TypeRules.tasks (r : TypeRules) (t : MessageType) (m : Message) (path : Path) : List Task :=
  r.fields.flatMap (·.tasks m path) ++ r.oneofs.flatMap (·.tasks t m path) ++
    checkTasks (.ok (.message m)) path false r.rules

/-! ## What is among the tasks -/

section
variable {t : Task} {d : Demand} {r : ValueRules} {datum : Datum} {path : Path} {forKey : Bool}

theorem demand_mem_checkTasks {bound : Except Fault Value} {checks : List Check}
    (h : .demand d ∈ checkTasks bound path forKey checks) : ∃ c ∈ checks, ∃ v, d = .check c v path forKey := by
  cases bound with
  | error f => cases List.mem_singleton.1 h
  | ok v =>
    obtain ⟨c, hc, he⟩ := List.mem_map.1 h
    cases he
    exact ⟨c, hc, v, rfl⟩

/-- Of a value nothing is asked but checks. -/
theorem ValueRules.demand_mem_tasks (h : .demand d ∈ r.tasks datum path forKey) :
    ∃ c ∈ r.standard ++ r.custom, ∃ v, d = .check c v path forKey := by
  unfold ValueRules.tasks at h
  split at h
  · cases h
  · rcases List.mem_append.1 h with h | h
    · split at h
      · cases h
      · exact demand_mem_checkTasks h
    · unfold innerTasks at h
      split at h
      · cases List.mem_singleton.1 h
      · cases h

theorem mem_itemTasks : ∀ {i : Nat} {ds : List Datum},
    t ∈ itemTasks r path i ds ↔ ∃ j d, ds[j]? = some d ∧ t ∈ r.tasks d (path ++ [.index (i + j : Nat)]) false
  | _, [] => by simp [itemTasks]
  | i, d :: ds => by
    rw [itemTasks, List.mem_append, mem_itemTasks]
    constructor
    · rintro (h | ⟨j, e, hj, h⟩)
      · exact ⟨0, d, rfl, h⟩
      · exact ⟨j + 1, e, hj, by rwa [show i + (j + 1) = i + 1 + j by omega]⟩
    · rintro ⟨_ | j, e, hj, h⟩
      · cases hj
        exact .inl h
      · exact .inr ⟨j, e, hj, by rwa [show i + 1 + j = i + (j + 1) by omega]⟩

end

end Conformance
