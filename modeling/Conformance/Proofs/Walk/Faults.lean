import Conformance.Proofs.Walk.Events
import Conformance.Proofs.Resolver.Faithful

/-!
# Where faults come from

A walk meets a fault only where the constraints of a type do not compile for one, where a time or a span cannot
be bound, or where a test has one. Programs have none: their faults are errors of their evaluation.
-/

namespace Conformance

open Calendar

/-- What can fault in validation under a schema. -/
inductive Schema.Faults (s : Schema) : Fault → Prop
  | constraints {f : Fault} : s.Fails (.fault f) → Faults s f
  | instant {m : Message} : m.type = Schema.timestampName →
      Instant.ofParts? (m.integer "seconds") (m.integer "nanos") = none → Faults s .badValue
  | span {m : Message} : m.type = Schema.durationName →
      Span.ofParts? (m.integer "seconds") (m.integer "nanos") = none → Faults s .tooLarge
  | test {t : Rule.Test} {v param : Value} {f : Fault} : t.holds v param = .error f → Faults s f

variable {s : Schema} {f : Fault}

/-! ## Values that cannot be bound -/

theorem faults_of_message {m : Message} (h : m.bound = .error f) : s.Faults f := by
  unfold Message.bound at h
  split at h
  · next ht =>
    split at h
    · cases h
    · next hi =>
      cases h
      exact .instant (by simpa using ht) hi
  · split at h
    · next ht =>
      split at h
      · cases h
      · next hi =>
        cases h
        exact .span (by simpa using ht) hi
    · cases h

theorem faults_of_bound {d : Datum} (h : d.bound = .error f) : s.Faults f := by
  cases d with
  | message m => exact faults_of_message h
  | _ => cases h

theorem bind_eq_error {ε α β : Type} {e : ε} {x : Except ε α} {f : α → Except ε β} (h : x >>= f = .error e) :
    x = .error e ∨ ∃ a, x = .ok a ∧ f a = .error e := by
  cases x with
  | error _ =>
    cases h
    exact .inl rfl
  | ok a => exact .inr ⟨a, rfl, h⟩

theorem map_eq_error {ε α β : Type} {e : ε} {x : Except ε α} {f : α → β} (h : x.map f = .error e) :
    x = .error e := by
  cases x with
  | error _ =>
    cases h
    rfl
  | ok a => cases h

theorem mem_of_boundAll : ∀ {ds : List Datum}, boundAll ds = .error f → ∃ d ∈ ds, d.bound = .error f
  | d :: ds, h => by
    unfold boundAll at h
    obtain hd | ⟨v, -, h⟩ := bind_eq_error h
    · exact ⟨d, List.mem_cons_self, hd⟩
    · obtain hds | ⟨vs, -, h⟩ := bind_eq_error h
      · obtain ⟨e, he, hf⟩ := mem_of_boundAll hds
        exact ⟨e, List.mem_cons_of_mem _ he, hf⟩
      · cases h

theorem mem_of_boundEntries : ∀ {es : List (Datum × Datum)}, boundEntries es = .error f →
    ∃ e ∈ es, e.2.bound = .error f
  | (k, d) :: es, h => by
    unfold boundEntries at h
    obtain hd | ⟨v, -, h⟩ := bind_eq_error h
    · exact ⟨(k, d), List.mem_cons_self, hd⟩
    · obtain hes | ⟨vs, -, h⟩ := bind_eq_error h
      · obtain ⟨e, he, hf⟩ := mem_of_boundEntries hes
        exact ⟨e, List.mem_cons_of_mem _ he, hf⟩
      · cases h

/-! ## Tasks -/

section
variable {path : Path}

theorem bound_of_unbound_mem {bound : Except Fault Value} {forKey : Bool} {checks : List Check}
    (h : .unbound f ∈ checkTasks bound path forKey checks) : bound = .error f := by
  cases bound with
  | ok v => simp [checkTasks] at h
  | error g => simpa [checkTasks, eq_comm] using h

theorem not_unbound_innerTasks {nested : Option String} {d : Datum} : .unbound f ∉ innerTasks nested d path := by
  unfold innerTasks
  split <;> simp

theorem faults_of_value {r : ValueRules} {d : Datum} {forKey : Bool} (h : .unbound f ∈ r.tasks d path forKey) :
    s.Faults f := by
  unfold ValueRules.tasks at h
  split at h
  · cases h
  · rcases List.mem_append.1 h with h | h
    · split at h
      · cases h
      · exact faults_of_bound (bound_of_unbound_mem h)
    · exact absurd h not_unbound_innerTasks

theorem faults_of_items {r : ValueRules} : ∀ {i : Nat} {ds : List Datum}, .unbound f ∈ itemTasks r path i ds →
    s.Faults f
  | _, _ :: _, h => by
    rcases List.mem_append.1 h with h | h
    · exact faults_of_value h
    · exact faults_of_items h

theorem faults_of_held {r : FieldRules} {m : Message} (h : .unbound f ∈ r.heldTasks m path) : s.Faults f := by
  unfold FieldRules.heldTasks at h
  split at h
  · exact faults_of_value h
  · rcases List.mem_append.1 h with h | h
    · obtain ⟨d, -, hd⟩ := mem_of_boundAll (map_eq_error (bound_of_unbound_mem h))
      exact faults_of_bound hd
    · split at h
      · exact faults_of_items h
      · cases h
  · rcases List.mem_append.1 h with h | h
    · obtain ⟨e, -, he⟩ := mem_of_boundEntries (map_eq_error (bound_of_unbound_mem h))
      exact faults_of_bound he
    · split at h
      · obtain ⟨e, -, h⟩ := List.mem_flatMap.1 h
        exact (List.mem_append.1 h).elim faults_of_value faults_of_value
      · cases h

theorem faults_of_field {r : FieldRules} {m : Message} (h : .unbound f ∈ r.tasks m path) : s.Faults f := by
  unfold FieldRules.tasks at h
  dsimp only at h
  split at h
  · exact faults_of_held h
  · split at h
    · simp at h
    · split at h
      · cases h
      · exact faults_of_held h

theorem faults_of_tasks {r : TypeRules} {t : MessageType} {m : Message} (h : .unbound f ∈ r.tasks t m path) :
    s.Faults f := by
  unfold TypeRules.tasks at h
  rcases List.mem_append.1 h with h | h
  · rcases List.mem_append.1 h with h | h
    · obtain ⟨r, -, h⟩ := List.mem_flatMap.1 h
      exact faults_of_field h
    · obtain ⟨o, -, h⟩ := List.mem_flatMap.1 h
      unfold OneofRule.tasks at h
      split at h <;> simp at h
  · cases bound_of_unbound_mem h

end

/-! ## Events -/

theorem faults_of_check {c : Check} {v now : Value} (h : c.run s v now = .error (.fault f)) : s.Faults f := by
  unfold Check.run at h
  split at h
  · split at h
    · cases h
    · next ht =>
      cases h
      exact .test ht
  · split at h <;> cases h
  · split at h <;> cases h

theorem faults_of_demand {now : Value} {d : Demand} (h : .failure (.fault f) ∈ d.events s now) : s.Faults f := by
  unfold Demand.events at h
  cases d with
  | field path => simp [Demand.result] at h
  | oneof path => simp [Demand.result] at h
  | check c v path forKey =>
    cases hr : c.run s v now with
    | ok answer => cases answer <;> simp [Demand.result, hr] at h
    | error e =>
      cases e with
      | evaluation e => simp [Demand.result, hr] at h
      | fault g =>
        simp only [Demand.result, hr, List.mem_singleton, Event.failure.injEq, Failure.fault.injEq] at h
        exact faults_of_check (h ▸ hr)

theorem faults_of_events {c : WalkContext} (hc : ∀ type, c.schema.Gives type (c.rulesOf type)) :
    ∀ {fuel depth : Nat} {r : TypeRules} {m : Message} {path : Path},
      .failure (.fault f) ∈ Walk.events c fuel depth r m path → c.schema.Faults f
  | 0, _, _, _, _, h => by cases List.mem_singleton.1 h
  | fuel + 1, depth, r, m, path, h => by
    unfold Walk.events at h
    split at h
    · cases List.mem_singleton.1 h
    · split at h
      · cases h
      · obtain ⟨t, ht, h⟩ := List.mem_flatMap.1 h
        cases t with
        | demand d => exact faults_of_demand h
        | unbound g =>
          cases List.mem_singleton.1 h
          exact faults_of_tasks ht
        | inner name inner place =>
          have hin := (List.mem_cons.1 h).resolve_left fun he => by cases he
          unfold Walk.inside at hin
          have hg := hc name
          cases hr : c.rulesOf name with
          | error g =>
            rw [hr] at hin hg
            cases List.mem_singleton.1 hin
            exact .constraints (Schema.FailsBelow.fails hg)
          | ok rules =>
            rw [hr] at hin
            exact faults_of_events hc hin

end Conformance
