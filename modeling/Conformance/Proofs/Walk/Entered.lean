import Conformance.Proofs.Walk.Events
import Conformance.Proofs.Walk.Inner

/-!
# Walks through messages of types that resolve

A walk only enters messages of types below the type of its message. When that one resolves, all rules that the
walk asks for are there, and they are the declared ones; so it never ends because a type was refused.
-/

namespace Conformance

variable {s : Schema}

/-! ## Inner messages are of types that the rules depend on -/

theorem Field.Holds.mem_dependencies {f : Field} {m inner : Message} {name : String} {place : Path}
    (h : f.Holds m name inner place) (t : MessageType) : name ∈ (f.rules s t).dependencies := by
  unfold FieldRules.dependencies Field.rules
  cases h with
  | single hs _ he =>
    have hn := nested?_eq_some.2 ⟨he.type_eq, he.transparent, he.kept⟩
    simp [hs, FieldConstraints.forValue, hn]
  | item hs _ he =>
    have hn := nested?_eq_some.2 ⟨he.type_eq, he.transparent, he.kept⟩
    simp [hs, FieldConstraints.forValue, hn]
  | entry hs _ he =>
    have hn := nested?_eq_some.2 ⟨he.type_eq, he.transparent, he.kept⟩
    simp [hs, FieldConstraints.forValue, hn]

theorem MessageType.mem_dependencies_of_inner {t u : MessageType} {m inner : Message} {name : String}
    {path place : Path} (h : .inner name inner place ∈ (t.rules s).tasks u m path) :
    name ∈ (t.rules s).dependencies := by
  obtain ⟨hd, f, hf, _, hh, -⟩ := MessageType.inner_mem_tasks.1 h
  have hfields : (t.rules s).fields = t.fields.map (·.rules s t) := by simp [MessageType.rules, hd]
  refine List.mem_flatMap.2 ⟨f.rules s t, ?_, hh.mem_dependencies t⟩
  rw [hfields]
  exact List.mem_map_of_mem hf

theorem Schema.Resolves.inner {type name : String} {u : MessageType} {m inner : Message} {path place : Path}
    (hr : s.Resolves type) (h : .inner name inner place ∈ (s.rules type).tasks u m path) : s.Depends type name :=
  hr.depends (MessageType.mem_dependencies_of_inner h)

/-! ## Events -/

/-- Demands come to violations, and to failures that are no refusals. -/
theorem Demand.mem_events {now : Value} {d : Demand} {e : Event} (h : e ∈ d.events s now) :
    (∃ v, e = .violation v) ∨ ∃ f, e = .failure f ∧ f.isRefusal = false := by
  unfold Demand.events at h
  cases hres : d.result s now with
  | ok answer =>
    rw [hres] at h
    cases answer with
    | none => cases h
    | some v => exact .inl ⟨v, List.mem_singleton.1 h⟩
  | error f =>
    rw [hres] at h
    refine .inr ⟨f, List.mem_singleton.1 h, ?_⟩
    cases d with
    | field path => cases hres
    | oneof path => cases hres
    | check c v path forKey =>
      simp only [Demand.result] at hres
      split at hres <;> cases hres <;> rfl

/-- A walk that is given the declared rules of every type. -/
abbrev WalkContext.declared (c : WalkContext) : WalkContext :=
  { c with rulesOf := fun type => .ok (c.schema.rules type) }

namespace Walk

/-- A level of a walk by declared rules, where types that are disabled have no tasks. -/
theorem events_succ (c : WalkContext) (fuel depth : Nat) (type : String) (m : Message) (path : Path) :
    events c (fuel + 1) depth (c.schema.rules type) m path =
      if capacity < depth then [.failure (.depth (.exhausted c.root c.maxDepth))]
      else ((c.schema.rules type).tasks (c.schema.messageType type) m path).flatMap
        (Task.events c (inside c (events c fuel (depth + 1)))) := by
  unfold events
  rw [Schema.rules_type]
  cases hd : (c.schema.rules type).disabled with
  | false => rfl
  | true =>
    have hnone : (c.schema.rules type).tasks (c.schema.messageType type) m path = [] := MessageType.tasks_of_disabled hd
    rw [hnone]
    rfl

variable {c : WalkContext}

/-- Whatever gives the rules for a walk: where the type of the message resolves, they are the declared ones. -/
theorem events_declared (hc : ∀ type, c.schema.Gives type (c.rulesOf type)) :
    ∀ (fuel depth : Nat) (type : String) (m : Message) (path : Path), c.schema.Resolves type →
      events c fuel depth (c.schema.rules type) m path = events c.declared fuel depth (c.schema.rules type) m path
  | 0, _, _, _, _, _ => rfl
  | fuel + 1, depth, type, m, path, hr => by
    rw [events_succ, events_succ c.declared]
    split
    · rfl
    · rw [List.flatMap_def, List.flatMap_def]
      congr 1
      apply List.map_congr_left
      intro t ht
      cases t with
      | demand d => rfl
      | unbound f => rfl
      | inner name inner place =>
        have hn := hr.below (.single (hr.inner ht))
        have hrules := (hc name).eq_of_resolves hn
        have ih := events_declared hc fuel (depth + 1) name inner place hn
        simp only [Task.events, inside, hrules, ih]

theorem below_of_enter : ∀ {fuel depth : Nat} {type name : String} {m : Message} {path : Path},
    c.schema.Resolves type →
      .enter name ∈ events c.declared fuel depth (c.schema.rules type) m path → c.schema.Below type name
  | 0, _, _, _, _, _, _, h => by
    cases List.mem_singleton.1 h
  | fuel + 1, depth, type, name, m, path, hr, h => by
    rw [events_succ c.declared] at h
    split at h
    · cases List.mem_singleton.1 h
    · obtain ⟨t, ht, h⟩ := List.mem_flatMap.1 h
      cases t with
      | demand d => obtain ⟨v, hv⟩ | ⟨f, hf, -⟩ := Demand.mem_events h <;> contradiction
      | unbound f => cases List.mem_singleton.1 h
      | inner n inner place =>
        have hd := hr.inner ht
        rcases List.mem_cons.1 h with h | h
        · cases h
          exact .single hd
        · exact .step hd (below_of_enter (hr.below (.single hd)) h)

end Walk

/-- Whatever gives the rules: a message of a type that resolves is found to have the same violations. -/
theorem WalkContext.violations_declared {c : WalkContext} (hc : ∀ type, c.schema.Gives type (c.rulesOf type))
    {type : String} {m : Message} (hr : c.schema.Resolves type) :
    c.violations (c.schema.rules type) m = c.declared.violations (c.schema.rules type) m := by
  rw [violations_eq, violations_eq]
  exact congrArg _ (Walk.events_declared hc _ 0 type m [] hr)

theorem Event.mem_visited_play {failFast : Bool} {name : String} {es : List Event} {st : WalkState}
    (h : name ∈ (play failFast es st).2.visited) : name ∈ st.visited ∨ .enter name ∈ es := by
  induction es generalizing st with
  | nil => exact .inl h
  | cons e es ih =>
    cases e with
    | failure f => exact .inl h
    | enter type =>
      rcases ih h with h | h
      · rcases List.mem_append.1 h with h | h
        · exact .inl h
        · cases List.mem_singleton.1 h
          exact .inr List.mem_cons_self
      · exact .inr (List.mem_cons_of_mem _ h)
    | violation v =>
      cases failFast with
      | true => exact .inl h
      | false => exact (ih h).imp_right (List.mem_cons_of_mem _)

/-- The types of the messages that a walk visits are below the type of its message. -/
theorem Walk.below_of_visited {c : WalkContext} (hc : ∀ type, c.schema.Gives type (c.rulesOf type))
    {type name : String} {m : Message} (hr : c.schema.Resolves type)
    (h : name ∈ (run c (c.schema.rules type) m).2.visited) : c.schema.Below type name := by
  rw [run_eq, WalkContext.events, events_declared hc _ 0 type m [] hr] at h
  rcases Event.mem_visited_play h with h | h
  · cases h
  · exact below_of_enter hr h

end Conformance
