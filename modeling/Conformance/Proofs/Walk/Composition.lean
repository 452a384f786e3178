import Conformance.Proofs.Validation.History
import Conformance.Proofs.Walk.Inner
import Conformance.Proofs.Walk.Enumeration

/-!
# Messages inside of messages

What a walk finds in a message depends on the place of the message only in that all paths begin with that place. This
is said of the tasks of a message first, then of the events that they come to, and so of walks and evaluations. Errors
keep their type; their texts tell of the place and of the limit that there is from the outermost message on.
-/

namespace Conformance

def Violation.within (p : Path) (v : Violation) : Violation := { v with path := p ++ v.path }

def Demand.within (p : Path) : Demand → Demand
  | field path => field (p ++ path)
  | oneof path => oneof (p ++ path)
  | check c v path forKey => check c v (p ++ path) forKey

def Task.within (p : Path) : Task → Task
  | demand d => demand (d.within p)
  | inner type m path => inner type m (p ++ path)
  | unbound f => unbound f

/-! ## Tasks -/

section
variable (p : Path)

theorem checkTasks_within (bound : Except Fault Value) (path : Path) (forKey : Bool) (checks : List Check) :
    checkTasks bound (p ++ path) forKey checks = (checkTasks bound path forKey checks).map (Task.within p) := by
  cases bound <;> simp [checkTasks, Task.within, Demand.within]

theorem innerTasks_within (nested : Option String) (d : Datum) (path : Path) :
    innerTasks nested d (p ++ path) = (innerTasks nested d path).map (Task.within p) := by
  unfold innerTasks
  split <;> simp [Task.within]

theorem ValueRules.tasks_within (r : ValueRules) (d : Datum) (path : Path) (forKey : Bool) :
    r.tasks d (p ++ path) forKey = (r.tasks d path forKey).map (Task.within p) := by
  unfold ValueRules.tasks
  split
  · rfl
  · rw [List.map_append, innerTasks_within]
    split
    · rfl
    · rw [checkTasks_within]

theorem itemTasks_within (r : ValueRules) (path : Path) (i : Nat) (ds : List Datum) :
    itemTasks r (p ++ path) i ds = (itemTasks r path i ds).map (Task.within p) := by
  induction ds generalizing i with
  | nil => rfl
  | cons d ds ih => rw [itemTasks, itemTasks, List.map_append, ih, List.append_assoc, ValueRules.tasks_within]

theorem entryTasks_within (keys values : ValueRules) (path : Path) (e : Datum × Datum) :
    entryTasks keys values (p ++ path) e = (entryTasks keys values path e).map (Task.within p) := by
  simp only [entryTasks, List.map_append, List.append_assoc, ValueRules.tasks_within]

theorem FieldRules.heldTasks_within (r : FieldRules) (m : Message) (path : Path) :
    r.heldTasks m (p ++ path) = (r.heldTasks m path).map (Task.within p) := by
  unfold heldTasks
  cases r.field.shape with
  | singular => exact ValueRules.tasks_within p _ _ _ _
  | «repeated» =>
    simp only [List.map_append, checkTasks_within]
    cases r.items with
    | none => rfl
    | some items => simp only [itemTasks_within]
  | map _ =>
    simp only [List.map_append, checkTasks_within]
    cases r.keys with
    | none => rfl
    | some keys =>
      cases r.values with
      | none => rfl
      | some values =>
        simp only [List.map_flatMap]
        rw [funext (entryTasks_within p keys values path)]

theorem FieldRules.tasks_within (r : FieldRules) (m : Message) (path : Path) :
    r.tasks m (p ++ path) = (r.tasks m path).map (Task.within p) := by
  simp only [FieldRules.tasks, List.append_assoc, heldTasks_within]
  split
  · rfl
  · split
    · rfl
    · split <;> rfl

theorem OneofRule.tasks_within (o : OneofRule) (t : MessageType) (m : Message) (path : Path) :
    o.tasks t m (p ++ path) = (o.tasks t m path).map (Task.within p) := by
  unfold OneofRule.tasks
  split <;> simp [Task.within, Demand.within]

/-- A message has the same tasks wherever it is. -/
theorem TypeRules.tasks_within (r : TypeRules) (t : MessageType) (m : Message) (path : Path) :
    r.tasks t m (p ++ path) = (r.tasks t m path).map (Task.within p) := by
  simp only [TypeRules.tasks, List.map_append, List.map_flatMap, checkTasks_within, FieldRules.tasks_within,
    OneofRule.tasks_within]

end

/-! ## Events -/

namespace Event

/-- Events in a message that is inside of another, and those in the message on its own. If they are cut, then the
former may end because they are too deep for the stack. -/
inductive Mirrors (p : Path) (cut : Prop) : List Event → List Event → Prop
  | nil : Mirrors p cut [] []
  | enter (type : String) {es es' : List Event} : Mirrors p cut es es' →
    Mirrors p cut (enter type :: es) (enter type :: es')
  | violation (v : Violation) {es es' : List Event} : Mirrors p cut es es' →
    Mirrors p cut (violation (v.within p) :: es) (violation v :: es')
  | failure {f g : Failure} {es es' : List Event} : f.report.type = g.report.type →
    Mirrors p cut (failure f :: es) (failure g :: es')
  | exhausted {type : String} {limit : Int} {es es' : List Event} : cut →
    Mirrors p cut (failure (.depth (.exhausted type limit)) :: es) es'

namespace Mirrors

variable {p : Path} {cut : Prop} {es es' fs fs' : List Event}

theorem append (h : Mirrors p cut es es') (hf : Mirrors p cut fs fs') : Mirrors p cut (es ++ fs) (es' ++ fs') := by
  induction h with
  | nil => exact hf
  | enter type _ ih => exact .enter type ih
  | violation v _ ih => exact .violation v ih
  | failure ht => exact .failure ht
  | exhausted hc => exact .exhausted hc

theorem flatMap {α β : Type} {f : β → List Event} {g : α → List Event} {place : α → β}
    (h : ∀ a, Mirrors p cut (f (place a)) (g a)) (as : List α) :
    Mirrors p cut ((as.map place).flatMap f) (as.flatMap g) := by
  induction as with
  | nil => exact .nil
  | cons a as ih => exact append (h a) ih

/-- Without a failure there is the same to be found. -/
theorem found_eq (h : Mirrors p cut es es') (hf : ∀ f, .failure f ∉ es) :
    (∀ f, .failure f ∉ es') ∧ found es = (found es').map (Violation.within p) := by
  induction h with
  | nil => simp [found]
  | enter type _ ih => simpa [found] using ih fun f hm => hf f (List.mem_cons_of_mem _ hm)
  | violation v _ ih => simpa [found] using ih fun f hm => hf f (List.mem_cons_of_mem _ hm)
  | failure _ => exact absurd List.mem_cons_self (hf _)
  | exhausted _ => exact absurd List.mem_cons_self (hf _)

end Mirrors
end Event

/-- The context of a walk, as it is for a message so many levels further in that is validated on its own. -/
def WalkContext.alone (c : WalkContext) (k : Nat) (type : String) : WalkContext :=
  { c with maxDepth := c.maxDepth - k, root := type }

theorem Demand.mirrors (p : Path) (cut : Prop) (s : Schema) (now : Value) (d : Demand) :
    Event.Mirrors p cut ((d.within p).events s now) (d.events s now) := by
  cases d with
  | field path => exact .violation ⟨path, _, _, _, _⟩ .nil
  | oneof path => exact .violation ⟨path, _, _, _, _⟩ .nil
  | check c v path forKey =>
    simp only [within, events, result]
    cases c.run s v now with
    | ok answer =>
      cases answer with
      | none => exact .nil
      | some message => exact .violation ⟨path, _, _, _, _⟩ .nil
    | error e => cases e <;> exact .failure rfl

namespace Walk
open Event

/-- The events in a message are those in the message on its own. Further down the stack they may end earlier. -/
theorem mirrors_events (c : WalkContext) (p : Path) (k more : Nat) (type : String) : ∀ (fuel level : Nat)
    (r : TypeRules) (m : Message) (path : Path),
    Mirrors p (0 < more) (events c fuel (level + more) r m (p ++ path)) (events (c.alone k type) fuel level r m path)
  | 0, _, _, _, _ => .failure rfl
  | fuel + 1, level, r, m, path => by
    unfold events
    -- Both have the same fuel, but the one that is further down reaches the end of the stack first.
    by_cases hcap : capacity < level
    · have hcap' : capacity < level + more := by omega
      rw [if_pos hcap, if_pos hcap']
      exact .failure rfl
    by_cases hcap' : capacity < level + more
    · rw [if_pos hcap']
      exact .exhausted (by omega)
    rw [if_neg hcap, if_neg hcap']
    by_cases hd : r.disabled = true
    · rw [if_pos hd, if_pos hd]
      exact .nil
    rw [if_neg hd, if_neg hd, TypeRules.tasks_within]
    apply Mirrors.flatMap
    intro t
    cases t with
    | demand d => exact Demand.mirrors p _ c.schema c.now d
    | unbound f => exact .failure rfl
    | inner name inner place =>
      apply Mirrors.enter
      unfold inside
      rw [show (c.alone k type).rulesOf = c.rulesOf from rfl]
      cases c.rulesOf name with
      | error f => exact .failure rfl
      | ok rules =>
        have ih := mirrors_events c p k more type fuel (level + 1) rules inner place
        rwa [Nat.add_right_comm] at ih

/-! ## Walks -/

/-- Two walks end alike: both go through, or both stop at a violation, or both fail with errors of one type. -/
inductive EndAlike : Except Interrupt Unit → Except Interrupt Unit → Prop
  | through : EndAlike (.ok ()) (.ok ())
  | stopped : EndAlike (.error .stop) (.error .stop)
  | failed {f g : Failure} : f.report.type = g.report.type →
    EndAlike (.error (.failure f)) (.error (.failure g))

end Walk

theorem Event.Mirrors.play {p : Path} {cut : Prop} {es es' : List Event} (h : Mirrors p cut es es')
    (failFast : Bool) (s : WalkState) :
    ∀ t u : WalkState, t.violations = s.violations ++ u.violations.map (·.within p) →
    (cut ∧ ∃ type limit, (play failFast es t).1 = .error (.failure (.depth (.exhausted type limit)))) ∨
      Walk.EndAlike (play failFast es t).1 (play failFast es' u).1 ∧
        (play failFast es t).2.violations = s.violations ++ (play failFast es' u).2.violations.map (·.within p) := by
  induction h with
  | nil => exact fun t u hv => .inr ⟨.through, hv⟩
  | enter type _ ih => exact fun t u hv => ih _ _ hv
  | failure ht => exact fun t u hv => .inr ⟨.failed ht, hv⟩
  | exhausted hc => exact fun t u hv => .inl ⟨hc, _, _, rfl⟩
  | violation v _ ih =>
    intro t u hv
    have hmore : t.violations ++ [v.within p] = s.violations ++ (u.violations ++ [v]).map (·.within p) := by
      rw [hv, List.map_append, List.append_assoc, List.map_cons, List.map_nil]
    cases failFast with
    | true => exact .inr ⟨.stopped, hmore⟩
    | false => exact ih _ _ hmore

namespace Walk

end Walk

/-! ## Evaluations -/

/-- The violations of a task, where those of a message on its own are given. -/
def Task.violations (s : Schema) (now : Value) (found : Message → List Violation) : Task → List Violation
  | demand d => (d.violation? s now).toList
  | inner _ m path => (found m).map (·.within path)
  | unbound _ => []

theorem Demand.violations_eq {s : Schema} {now : Value} {d : Demand} (h : ∀ f, .failure f ∉ d.events s now) :
    Event.found (d.events s now) = (d.violation? s now).toList := by
  rw [Event.found_eq h, (Demand.events_eq h).1]
  cases hv : d.violation? s now <;> simp [hv]

namespace Walk

section
variable {c : WalkContext} (hc : ∀ type, c.rulesOf type = .ok (c.schema.rules type))
include hc

end
end Walk

namespace Workspace

theorem Faithful.resolves_of_ok {s : Schema} {w : Workspace} (h : w.Faithful s) {resolver : Nat} {maxDepth : Int}
    {failFast : Bool} {now : Value} {m : Message} {vs : List Violation}
    (hok : ((evaluate resolver maxDepth failFast now m).run w).1 = .ok vs) : s.Resolves m.type := by
  have hg := h.resolveIn_gives resolver m.type
  rw [evaluate_run] at hok
  generalize (resolveIn resolver m.type).run w = resolved at hg hok
  obtain ⟨⟨f | rules, identity⟩, w'⟩ := resolved
  · cases hok
  · exact hg.2

end Workspace
end Conformance
