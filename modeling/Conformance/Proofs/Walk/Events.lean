import Conformance.Proofs.Walk.Tasks

/-!
# The events of a walk

The events of a walk are what its tasks come to: violations, visits of inner messages, and failures. The
list of them is made without walking. `plays_visit` says that a walk plays its events up to the first one
that ends it; so `violations_eq` reads off the list what is found, and how it ends.
-/

namespace Conformance

inductive Event where
  | enter (type : String)
  | violation (v : Violation)
  | failure (f : Failure)

def Demand.events (s : Schema) (now : Value) (d : Demand) : List Event :=
  match d.result s now with
  | .ok none => []
  | .ok (some v) => [.violation v]
  | .error f => [.failure f]

/-- The events of a task; `inside` gives those of inner messages. -/
def Task.events (c : WalkContext) (inside : String → Message → Path → List Event) : Task → List Event
  | demand d => d.events c.schema c.now
  | inner type m path => .enter type :: inside type m path
  | unbound f => [.failure (.fault f)]

/-- The events inside of an inner message of a type, whose rules are looked up first. -/
def Walk.inside (c : WalkContext) (events : TypeRules → Message → Path → List Event) (type : String)
    (m : Message) (path : Path) : List Event :=
  match c.rulesOf type with
  | .ok rules => events rules m path
  | .error f => [.failure f]

/-- The events of a walk through a message, with the levels that are still allowed and those above it. -/
def Walk.events (c : WalkContext) : (fuel depth : Nat) → TypeRules → Message → Path → List Event
  | 0, _, r, _, path => [.failure (.depth (.exceeded r.type path c.maxDepth))]
  | fuel + 1, depth, r, m, path =>
    if capacity < depth then [.failure (.depth (.exhausted c.root c.maxDepth))]
    else if r.disabled then []
    else
      (r.tasks (c.schema.messageType r.type) m path).flatMap
        (Task.events c (inside c (events c fuel (depth + 1))))

namespace Event

/-- Plays events one after the other, up to one that ends the walk: a failure, or a violation where the first
one is enough. -/
def play (failFast : Bool) : List Event → WalkState → Except Interrupt Unit × WalkState
  | [], s => (.ok (), s)
  | enter type :: es, s => play failFast es { s with visited := s.visited ++ [type] }
  | violation v :: es, s =>
    let s := { s with violations := s.violations ++ [v] }
    if failFast then (.error .stop, s) else play failFast es s
  | failure f :: _, s => (.error (.failure f), s)

theorem play_append (failFast : Bool) (es fs : List Event) (s : WalkState) :
    play failFast (es ++ fs) s =
      match play failFast es s with
      | (.ok (), s) => play failFast fs s
      | (.error i, s) => (.error i, s) := by
  induction es generalizing s with
  | nil => rfl
  | cons e es ih =>
    cases e with
    | enter type => exact ih _
    | failure f => rfl
    | violation v =>
      cases failFast
      · exact ih _
      · rfl

/-! ## What is found, and how it ends -/

/-- The violations up to the first failure. -/
def found : List Event → List Violation
  | [] => []
  | enter _ :: es => found es
  | violation v :: es => v :: found es
  | failure _ :: _ => []

/-- The first failure, if there is one. -/
def ending : List Event → Except Failure Unit
  | [] => .ok ()
  | enter _ :: es => ending es
  | violation _ :: es => ending es
  | failure f :: _ => .error f

theorem ending_eq_ok {es : List Event} : ending es = .ok () ↔ ∀ f, .failure f ∉ es := by
  induction es with
  | nil => simp [ending]
  | cons e es ih =>
    cases e with
    | failure f => simpa [ending] using ⟨f, fun h => absurd rfl h⟩
    | _ => simp [ending, ih]

theorem failure_mem_of_ending {es : List Event} {f : Failure} (h : ending es = .error f) : .failure f ∈ es := by
  induction es with
  | nil => cases h
  | cons e es ih =>
    cases e with
    | failure e =>
      cases h
      exact List.mem_cons_self
    | _ => exact List.mem_cons_of_mem _ (ih h)

/-- What validation says of events: all that is found, or the first of it where that is enough; and the
failure that ends it before. -/
def verdict (failFast : Bool) (es : List Event) : Except Failure (List Violation) :=
  match failFast, found es with
  | true, v :: _ => .ok [v]
  | _, vs => (ending es).map fun _ => vs

theorem verdict_full_eq_ok {es : List Event} {vs : List Violation} :
    verdict false es = .ok vs ↔ ending es = .ok () ∧ found es = vs := by
  unfold verdict
  cases ending es <;> simp [Except.map]

theorem verdict_full_eq_error {es : List Event} {f : Failure} :
    verdict false es = .error f ↔ ending es = .error f := by
  unfold verdict
  cases ending es <;> simp [Except.map]

theorem play_full (es : List Event) (s : WalkState) :
    (play false es s).1 = (ending es).mapError .failure ∧
      (play false es s).2.violations = s.violations ++ found es := by
  induction es generalizing s with
  | nil => exact ⟨rfl, (List.append_nil _).symm⟩
  | cons e es ih =>
    cases e with
    | enter type => exact ih _
    | violation v => simpa [play, found, ending] using ih { s with violations := s.violations ++ [v] }
    | failure f => exact ⟨rfl, (List.append_nil _).symm⟩

theorem play_first (es : List Event) (s : WalkState) :
    match found es with
    | [] => (play true es s).1 = (ending es).mapError .failure ∧ (play true es s).2.violations = s.violations
    | v :: _ => (play true es s).1 = .error .stop ∧ (play true es s).2.violations = s.violations ++ [v] := by
  induction es generalizing s with
  | nil => exact ⟨rfl, rfl⟩
  | cons e es ih =>
    cases e with
    | enter type => exact ih _
    | violation v => exact ⟨rfl, rfl⟩
    | failure f => exact ⟨rfl, rfl⟩

end Event

namespace Walk
open Event

/-! ## Walks play their events -/

def Plays (c : WalkContext) (x : Walk Unit) (es : List Event) : Prop :=
  ∀ s, StateT.run (ExceptT.run x) s = play c.failFast es s

section
variable {c : WalkContext}

theorem plays_pure : Plays c (pure ()) [] := fun _ => rfl

theorem plays_throw (f : Failure) (es : List Event) : Plays c (throw (.failure f)) (.failure f :: es) :=
  fun _ => rfl

theorem plays_report (v : Violation) : Plays c (report c v) [.violation v] := by
  intro s
  cases h : c.failFast <;> simp only [report, play, h] <;> rfl

theorem plays_bind {x : Walk Unit} {y : Unit → Walk Unit} {es fs : List Event} (hx : Plays c x es)
    (hy : Plays c (y ()) fs) : Plays c (x >>= y) (es ++ fs) := by
  intro s
  rw [play_append, ← hx s, ExceptT.run_bind, StateT.run_bind]
  generalize StateT.run (ExceptT.run x) s = p
  obtain ⟨(i | u), s⟩ := p
  · rfl
  · exact hy s

theorem plays_runCheck (v : Value) (path : Path) (forKey : Bool) (check : Check) :
    Plays c (runCheck c v path forKey check) ((Demand.check check v path forKey).events c.schema c.now) := by
  cases h : check.run c.schema v c.now with
  | error e =>
    cases e <;> simp only [runCheck, Demand.events, Demand.result, h] <;> exact plays_throw _ _
  | ok answer =>
    cases answer <;> simp only [runCheck, Demand.events, Demand.result, h, Option.map_none, Option.map_some]
    · exact plays_pure
    · exact plays_report _

variable {descend : Descent} {inside : String → Message → Path → List Event}

theorem plays_runChecks (v : Value) (path : Path) (forKey : Bool) : ∀ checks : List Check,
    Plays c (runChecks c v path forKey checks)
      ((checkTasks (.ok v) path forKey checks).flatMap (Task.events c inside))
  | [] => plays_pure
  | check :: checks => plays_bind (plays_runCheck v path forKey check) (plays_runChecks v path forKey checks)

/-- Checks on a value that has to be bound first. -/
theorem plays_bound {α : Type} (x : Except Fault α) (make : α → Value) (path : Path) (forKey : Bool)
    (checks : List Check) {rest : α → Walk Unit} {es : List Event} (hr : ∀ a, Plays c (rest a) es) :
    Plays c (lift x >>= fun a => runChecks c (make a) path forKey checks >>= fun _ => rest a)
      ((checkTasks (x.map make) path forKey checks).flatMap (Task.events c inside) ++ es) := by
  cases x with
  | error f => exact plays_throw _ _
  | ok a => exact plays_bind (plays_runChecks (make a) path forKey checks) (hr a)

variable (hd : ∀ type m path, Plays c (descend type m path) (.enter type :: inside type m path))
include hd

theorem plays_visitInner (nested : Option String) (d : Datum) (path : Path) :
    Plays c (visitInner descend nested d path) ((innerTasks nested d path).flatMap (Task.events c inside)) := by
  unfold visitInner innerTasks
  split
  · simpa [Task.events] using hd _ _ _
  · simpa using plays_pure

theorem plays_visitValue (r : ValueRules) (d : Datum) (path : Path) (forKey : Bool) :
    Plays c (visitValue c descend r d path forKey) ((r.tasks d path forKey).flatMap (Task.events c inside)) := by
  have hi := plays_visitInner hd r.nested d path
  unfold visitValue ValueRules.tasks
  cases r.ignoreEmpty && d.isZero
  · cases r.standard.isEmpty && r.custom.isEmpty
    · rw [show (if r.isWrapper then d.unwrapped else d).bound =
          (if r.isWrapper then d.unwrapped else d).bound.map id by rw [Except.map_id]; rfl]
      simpa using plays_bound _ id path forKey (r.standard ++ r.custom) fun _ => hi
    · exact hi
  · exact plays_pure

theorem plays_visitItems (r : ValueRules) (path : Path) : ∀ (i : Nat) (ds : List Datum),
    Plays c (visitItems c descend r path i ds) ((itemTasks r path i ds).flatMap (Task.events c inside))
  | _, [] => plays_pure
  | i, d :: ds => by
    rw [itemTasks, List.flatMap_append]
    exact plays_bind (plays_visitValue hd r d _ false) (plays_visitItems r path (i + 1) ds)

theorem plays_visitEntries (keys values : ValueRules) (path : Path) : ∀ es : List (Datum × Datum),
    Plays c (visitEntries c descend keys values path es)
      ((es.flatMap (entryTasks keys values path)).flatMap (Task.events c inside))
  | [] => plays_pure
  | (k, v) :: es => by
    rw [List.flatMap_cons, entryTasks, List.flatMap_append, List.flatMap_append, List.append_assoc]
    exact plays_bind (plays_visitValue hd keys k _ true)
      (plays_bind (plays_visitValue hd values v _ false) (plays_visitEntries keys values path es))

theorem plays_visitHeld (r : FieldRules) (m : Message) (path : Path) :
    Plays c (visitHeld c descend m path r) ((r.heldTasks m path).flatMap (Task.events c inside)) := by
  unfold visitHeld FieldRules.heldTasks
  cases r.field.shape with
  | singular => exact plays_visitValue hd r.value _ path false
  | repeated =>
    simp only [List.flatMap_append]
    refine plays_bound _ .list path false _ fun _ => ?_
    cases r.items with
    | none => exact plays_pure
    | some items => exact plays_visitItems hd items path 0 _
  | map _ =>
    simp only [List.flatMap_append]
    refine plays_bound _ .dict path false _ fun _ => ?_
    cases r.keys with
    | none => exact plays_pure
    | some keys =>
      cases r.values with
      | none => exact plays_pure
      | some values => exact plays_visitEntries hd keys values path _

theorem plays_visitField (r : FieldRules) (m : Message) (path : Path) :
    Plays c (visitField c descend m path r) ((r.tasks m path).flatMap (Task.events c inside)) := by
  have hv := plays_visitHeld hd r m (path ++ [.field r.field.name])
  unfold visitField isPresent FieldRules.tasks
  cases r.field.isSetIn m
  · cases r.required
    · cases r.hasPresence || r.ignoreEmpty
      · exact hv
      · exact plays_pure
    · simp only [Bool.false_eq_true, if_false, if_true, bind_assoc, pure_bind]
      exact plays_bind (plays_report _) plays_pure
  · exact hv

theorem plays_visitFields (m : Message) (path : Path) : ∀ rs : List FieldRules,
    Plays c (visitFields c descend m path rs) ((rs.flatMap (·.tasks m path)).flatMap (Task.events c inside))
  | [] => plays_pure
  | r :: rs => by
    rw [List.flatMap_cons, List.flatMap_append]
    exact plays_bind (plays_visitField hd r m path) (plays_visitFields m path rs)

omit hd in
theorem plays_visitOneofs (t : MessageType) (m : Message) (path : Path) : ∀ os : List OneofRule,
    Plays c (visitOneofs c t m path os) ((os.flatMap (·.tasks t m path)).flatMap (Task.events c inside))
  | [] => plays_pure
  | o :: os => by
    have ho := plays_visitOneofs t m path os
    rw [List.flatMap_cons, List.flatMap_append, visitOneofs, OneofRule.tasks]
    cases o.required && (t.chosen? o.name m).isNone
    · exact ho
    · exact plays_bind (plays_report _) ho

end

/-- A walk through a message plays the events of the walk. -/
theorem plays_visit (c : WalkContext) : ∀ (fuel depth : Nat) (r : TypeRules) (m : Message) (path : Path),
    Plays c (visit c fuel depth r m path) (events c fuel depth r m path)
  | 0, _, _, _, _ => plays_throw _ _
  | fuel + 1, depth, r, m, path => by
    unfold visit events
    by_cases hc : capacity < depth
    · simp only [hc, if_true]
      exact plays_throw _ _
    · simp only [hc, if_false]
      cases r.disabled
      · simp only [TypeRules.tasks, List.flatMap_append, List.append_assoc]
        have hd : ∀ type inner path, Plays c (do
            modify fun s => { s with visited := s.visited ++ [type] }
            match c.rulesOf type with
            | .ok rules => visit c fuel (depth + 1) rules inner path
            | .error f => throw (.failure f))
            (.enter type :: inside c (events c fuel (depth + 1)) type inner path) := by
          intro type inner path
          have he : Plays c (modify fun s => { s with visited := s.visited ++ [type] }) [.enter type] := fun _ => rfl
          refine plays_bind he ?_
          cases c.rulesOf type with
          | error f => exact plays_throw _ _
          | ok rules => exact plays_visit c fuel (depth + 1) rules inner path
        exact plays_bind (plays_visitFields hd m path r.fields)
          (plays_bind (plays_visitOneofs _ m path r.oneofs) (plays_runChecks _ path false r.rules))
      · exact plays_pure

end Walk

def WalkContext.events (c : WalkContext) (r : TypeRules) (m : Message) : List Event :=
  Walk.events c (c.maxDepth + 1).toNat 0 r m []

theorem Walk.run_eq (c : WalkContext) (r : TypeRules) (m : Message) :
    Walk.run c r m = Event.play c.failFast (c.events r m) {} :=
  plays_visit c _ 0 r m [] {}

theorem WalkContext.violations_eq (c : WalkContext) (r : TypeRules) (m : Message) :
    c.violations r m = Event.verdict c.failFast (c.events r m) := by
  unfold violations
  rw [Walk.run_eq]
  generalize c.events r m = es
  cases c.failFast with
  | false =>
    obtain ⟨hend, hfound⟩ := Event.play_full es {}
    generalize Event.play false es {} = p at hend hfound
    obtain ⟨e, s⟩ := p
    unfold Event.verdict
    cases he : Event.ending es with
    | ok u =>
      rw [he] at hend
      cases hend
      exact congrArg Except.ok hfound
    | error f =>
      rw [he] at hend
      cases hend
      rfl
  | true =>
    have hplay := Event.play_first es {}
    generalize Event.play true es {} = p at hplay
    obtain ⟨e, s⟩ := p
    unfold Event.verdict
    cases hf : Event.found es with
    | cons v vs =>
      rw [hf] at hplay
      cases hplay.1
      exact congrArg Except.ok hplay.2
    | nil =>
      rw [hf] at hplay
      cases he : Event.ending es with
      | ok u =>
        rw [he] at hplay
        cases hplay.1
        exact congrArg Except.ok hplay.2
      | error f =>
        rw [he] at hplay
        cases hplay.1
        rfl

end Conformance
