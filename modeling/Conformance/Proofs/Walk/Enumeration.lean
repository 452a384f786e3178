import Mathlib.Data.List.Basic
import Conformance.Proofs.Validation.History
import Conformance.Proofs.Walk.Events
import Conformance.Proofs.Walk.Inner

/-!
# What evaluation finds

The demands on a message and on all messages inside of it, listed from the schema without any walk. When
evaluation to the end gives violations at all, it gives those of the demands that are not met, in this order.
-/

namespace Conformance

/-- The demands on a message of a type: those on its fields one by one, those on an inner message at the place
of the message, those of the oneofs and those on the message as a whole. -/
def Schema.demands (s : Schema) (type : String) (m : Message) (path : Path) : List Demand :=
  ((s.rules type).tasks (s.messageType type) m path).attach.flatMap fun
    | ⟨.demand d, _⟩ => [d]
    | ⟨.inner name inner place, _⟩ => s.demands name inner place
    | ⟨.unbound _, _⟩ => []
termination_by sizeOf m
decreasing_by
  obtain ⟨-, f, -, _, hf, -⟩ := MessageType.inner_mem_tasks.1 ‹_›
  exact hf.sizeOf_lt

namespace Task

def demands (s : Schema) : Task → List Demand
  | demand d => [d]
  | inner name m path => s.demands name m path
  | unbound _ => []

end Task

theorem Schema.demands_eq (s : Schema) (type : String) (m : Message) (path : Path) :
    s.demands type m path =
      ((s.rules type).tasks (s.messageType type) m path).flatMap (Task.demands s) := by
  rw [demands, List.flatMap_subtype fun t _ => ?_, List.unattach_attach]
  cases t <;> rfl

/-! ## Events without failures -/

namespace Event

def violation? : Event → Option Violation
  | violation v => some v
  | _ => none

theorem found_eq {es : List Event} (h : ∀ f, .failure f ∉ es) : found es = es.filterMap violation? := by
  induction es with
  | nil => rfl
  | cons e es ih =>
    have hes := ih fun f hf => h f (List.mem_cons_of_mem _ hf)
    cases e with
    | enter type => exact hes
    | violation v => exact congrArg (v :: ·) hes
    | failure f => exact absurd List.mem_cons_self (h f)

end Event

theorem Demand.events_eq {s : Schema} {now : Value} {d : Demand} (h : ∀ f, .failure f ∉ d.events s now) :
    (d.events s now).filterMap Event.violation? = [d].filterMap (·.violation? s now) ∧
      ∃ v, d.result s now = .ok v := by
  unfold Demand.events Demand.violation? at *
  cases hr : d.result s now with
  | error f => simp [hr] at h
  | ok v => cases v <;> simp [hr, Event.violation?]

/-- In a walk that does not fail every demand is answered, and the violations are those of the demands that
are not met. -/
theorem Walk.events_eq (c : WalkContext)
    (hc : ∀ type, c.schema.Gives type (c.rulesOf type)) :
    ∀ (fuel depth : Nat) (type : String) (m : Message) (path : Path),
      (∀ f, .failure f ∉ events c fuel depth (c.schema.rules type) m path) →
        (events c fuel depth (c.schema.rules type) m path).filterMap Event.violation? =
          (c.schema.demands type m path).filterMap (·.violation? c.schema c.now) ∧
        ∀ d ∈ c.schema.demands type m path, ∃ v, d.result c.schema c.now = .ok v
  | 0, _, _, _, _, h => absurd List.mem_cons_self (h _)
  | fuel + 1, depth, type, m, path, h => by
    rw [Schema.demands_eq]
    rw [events_succ] at h
    rw [events_succ]
    split at h
    · exact absurd List.mem_cons_self (h _)
    · next hcap =>
      rw [if_neg hcap]
      -- What holds of the walk holds of each task; inner messages are those of the induction.
      have htask : ∀ t ∈ (c.schema.rules type).tasks (c.schema.messageType type) m path,
          (t.events c (inside c (events c fuel (depth + 1)))).filterMap Event.violation? =
            (t.demands c.schema).filterMap (·.violation? c.schema c.now) ∧
          ∀ d ∈ t.demands c.schema, ∃ v, d.result c.schema c.now = .ok v := by
        intro t ht
        have hf : ∀ f, .failure f ∉ t.events c (inside c (events c fuel (depth + 1))) :=
          fun f hf => h f (List.mem_flatMap.2 ⟨t, ht, hf⟩)
        cases t with
        | demand d => simpa [Task.events, Task.demands] using Demand.events_eq hf
        | unbound f => exact absurd List.mem_cons_self (hf _)
        | inner name inner place =>
          cases hr : c.rulesOf name with
          | error f => simp [Task.events, inside, hr] at hf
          | ok rules =>
            obtain rfl := (hc name).rules_eq hr
            simp only [Task.events, inside, hr, List.mem_cons, reduceCtorEq, false_or] at hf
            simp only [Task.events, Task.demands, inside, hr]
            rw [List.filterMap_cons_none rfl]
            exact events_eq c hc fuel (depth + 1) name inner place hf
      constructor
      · rw [List.filterMap_flatMap, List.filterMap_flatMap]
        exact List.flatMap_congr fun t ht => (htask t ht).1
      · intro d hm
        obtain ⟨t, ht, hdt⟩ := List.mem_flatMap.1 hm
        exact (htask t ht).2 d hdt

namespace Workspace

end Workspace
end Conformance
