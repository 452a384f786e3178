import Conformance.Proofs.Constraint.Accepted
import Conformance.Proofs.Validation.Check
import Conformance.Proofs.Validation.Paths
import Conformance.Proofs.Walk.Depth

/-!
# Validation without constraints

Where no constraints are declared, validation finds nothing. It may fail all the same: repeated fields and maps are bound
as a whole before it is known that there is nothing to check, and there are times and spans that cannot be bound.
-/

namespace Conformance

/-- Nothing is declared about messages of the type, their oneofs and their fields. -/
def MessageType.Unconstrained (t : MessageType) : Prop :=
  t.constraints = none ∧ (∀ f ∈ t.fields, f.constraints = none) ∧ ∀ o ∈ t.oneofs, o.constraints = none

/-- No type that validation of a type may get to has constraints. -/
def Schema.Unconstrained (s : Schema) (type : String) : Prop :=
  ∀ name, s.Below type name → (s.messageType name).Unconstrained

/-- A value is an element of a repeated field, or the value of an entry of a map. -/
inductive Field.Collects (f : Field) (m : Message) : Datum → Prop
  | item {d : Datum} : f.shape = .repeated → d ∈ m.elements f.name → Collects f m d
  | entry {key : Scalar} {k d : Datum} : f.shape = .map key → (k, d) ∈ m.entries f.name → Collects f m d

/-- A value is in a collection of a message of a type, or of a message that validation gets to inside of it. -/
inductive Schema.Gathers (s : Schema) : String → Message → Datum → Prop
  | own {type : String} {m : Message} {f : Field} {d : Datum} : f ∈ (s.messageType type).fields → f.Collects m d →
    Gathers s type m d
  | inside {type name : String} {m inner : Message} {f : Field} {place : Path} {d : Datum} :
    f ∈ (s.messageType type).fields → f.Holds m name inner place → Gathers s name inner d → Gathers s type m d

/-! ## Types without constraints -/

section
variable {s : Schema} {t : MessageType} {f : Field} {type : String}

theorem Field.wellFormed_of_unconstrained (h : f.constraints = none) : f.WellFormed := by
  have hnone (type : FieldType) : ({} : FieldConstraints).WellFormedFor type :=
    ⟨fun _ ht => (by cases ht), fun _ hr => (by cases hr)⟩
  have hwhole (kind : String) : ({} : FieldConstraints).WellFormedWhole kind :=
    ⟨fun _ ht => (by cases ht), fun _ hr => (by cases hr)⟩
  have hwithin (type : FieldType) : ({} : FieldConstraints).WellFormedWithin type := ⟨rfl, hnone type⟩
  unfold Field.WellFormed
  rw [h]
  dsimp only [Option.getD_none]
  split
  · exact hnone _
  · exact ⟨hwhole _, hwithin _⟩
  · exact ⟨hwhole _, hwithin _, hwithin _⟩

namespace MessageType.Unconstrained

theorem compiles (h : t.Unconstrained) (s : Schema) : ∃ r, (t.compile s).outcome = .ok r := by
  have hdeclared : t.Declared := by
    intro f hf c hc
    rw [h.2.1 f hf] at hc
    cases hc
  have htime : t.InTime := by
    intro f hf c hc
    rw [h.2.1 f hf] at hc
    cases hc
  refine (Compile.typeRules_ok_iff hdeclared htime).2 (.inr ⟨fun c hc => ?_, fun f hf => ?_⟩)
  · rw [h.1] at hc
    cases hc
  · exact Field.wellFormed_of_unconstrained (h.2.1 f hf)

theorem enabled (h : t.Unconstrained) : t.constraints.any (·.disabled) = false := by
  rw [h.1]
  rfl

end MessageType.Unconstrained

namespace Schema.Unconstrained

theorem resolves (h : s.Unconstrained type) : s.Resolves type := fun name hn => (h name hn).compiles s

theorem inner (h : s.Unconstrained type) {name : String} {m inner : Message} {place : Path}
    (hf : f ∈ (s.messageType type).fields) (hh : f.Holds m name inner place) : s.Unconstrained name := by
  have hmem : name ∈ (s.rules type).dependencies := by
    have htask : .inner name inner place ∈ (s.rules type).tasks (s.messageType type) m [] :=
      MessageType.inner_mem_tasks.2 ⟨(h type (.refl s type)).enabled, f, hf, place, hh, rfl⟩
    exact MessageType.mem_dependencies_of_inner htask
  exact fun n hn => h n (.step (h.resolves.depends hmem) hn)

end Schema.Unconstrained
end

/-! ## Tasks -/

section
variable {s : Schema} {t : MessageType} {f : Field} {m : Message} {path : Path} {task : Task} {fault : Fault}

theorem inner_of_unconstrained {place : String} {type : FieldType} {d : Datum} {forKey : Bool}
    (h : task ∈ (({} : FieldConstraints).forValue s place type).tasks d path forKey) :
    ∃ name inner place, task = .inner name inner place := by
  have hinner : task ∈ innerTasks (Compile.nested? type {}) d path := h
  unfold innerTasks at hinner
  split at hinner
  · exact ⟨_, _, _, List.mem_singleton.1 hinner⟩
  · cases hinner

theorem unbound_of_mem_checkTasks {bound : Except Fault Value} {forKey : Bool}
    (h : task ∈ checkTasks bound path forKey []) : ∃ fault, bound = .error fault ∧ task = .unbound fault := by
  cases bound with
  | ok v => cases h
  | error fault => exact ⟨fault, rfl, List.mem_singleton.1 h⟩

/-- All that is to be done for a field without constraints is to go into its messages. Where its values cannot be bound,
this is met, too. -/
theorem Field.task_of_unconstrained (hf : f.constraints = none) (h : task ∈ (f.rules s t).tasks m path) :
    (∃ name inner place, task = .inner name inner place) ∨
      ∃ d fault, f.Collects m d ∧ d.bound = .error fault ∧ task = .unbound fault := by
  have hheld : task ∈ (f.rules s t).heldTasks m (path ++ [.field f.name]) := by
    unfold FieldRules.tasks at h
    rw [f.rules_field, f.rules_required, hf] at h
    dsimp only at h
    split at h
    · exact h
    · split at h
      · contradiction
      · split at h
        · cases h
        · exact h
  unfold Field.rules FieldRules.heldTasks at hheld
  simp only [hf, Option.getD_none] at hheld
  cases hs : f.shape with
  | singular =>
    simp only [hs] at hheld
    exact .inl (inner_of_unconstrained hheld)
  | «repeated» =>
    simp only [hs] at hheld
    rcases List.mem_append.1 hheld with hheld | hheld
    · obtain ⟨fault, hbound, rfl⟩ := unbound_of_mem_checkTasks hheld
      obtain ⟨d, hd, hfault⟩ := mem_of_boundAll (map_eq_error hbound)
      exact .inr ⟨d, fault, .item hs hd, hfault, rfl⟩
    · obtain ⟨j, d, -, hinner⟩ := mem_itemTasks.1 hheld
      exact .inl (inner_of_unconstrained hinner)
  | map key =>
    simp only [hs] at hheld
    rcases List.mem_append.1 hheld with hheld | hheld
    · obtain ⟨fault, hbound, rfl⟩ := unbound_of_mem_checkTasks hheld
      obtain ⟨⟨k, d⟩, hd, hfault⟩ := mem_of_boundEntries (map_eq_error hbound)
      exact .inr ⟨d, fault, .entry hs hd, hfault, rfl⟩
    · obtain ⟨e, -, hentry⟩ := List.mem_flatMap.1 hheld
      rcases List.mem_append.1 hentry with hinner | hinner
      · exact .inl (inner_of_unconstrained hinner)
      · exact .inl (inner_of_unconstrained hinner)

theorem MessageType.task_of_unconstrained (ht : t.Unconstrained) {u : MessageType}
    (h : task ∈ (t.rules s).tasks u m path) :
    (∃ name inner place, task = .inner name inner place) ∨
      ∃ f ∈ t.fields, ∃ d fault, f.Collects m d ∧ d.bound = .error fault ∧ task = .unbound fault := by
  have honeofs : Compile.oneofRules t = [] := by
    unfold Compile.oneofRules
    rw [List.map_eq_nil_iff, List.filter_eq_nil_iff]
    intro o ho
    simp [ht.2.2 o ho]
  have hrules : t.rules s = { type := t.name, fields := t.fields.map (·.rules s t) } := by
    unfold MessageType.rules
    rw [if_neg (by simp [ht.enabled]), honeofs, ht.1]
    rfl
  have hfields : task ∈ (t.fields.map (·.rules s t)).flatMap (·.tasks m path) := by
    rw [hrules] at h
    simpa [TypeRules.tasks, checkTasks] using h
  obtain ⟨r, hr, h⟩ := List.mem_flatMap.1 hfields
  obtain ⟨f, hf, rfl⟩ := List.mem_map.1 hr
  obtain hinner | hunbound := Field.task_of_unconstrained (ht.2.1 f hf) h
  · exact .inl hinner
  · exact .inr ⟨f, hf, hunbound⟩

/-- What a collection cannot bind is met, whatever is declared about it. -/
theorem Field.Collects.unbound {d : Datum} (h : f.Collects m d) (hd : d.bound = .error fault) :
    ∃ fault, .unbound fault ∈ (f.rules s t).tasks m path := by
  have hset : f.isSetIn m = true := by
    unfold Field.isSetIn
    cases h with
    | item hs hm => simp [hs, List.ne_nil_of_mem hm]
    | entry hs hm => simp [hs, List.ne_nil_of_mem hm]
  unfold FieldRules.tasks
  rw [f.rules_field, if_pos hset]
  unfold FieldRules.heldTasks
  rw [f.rules_field]
  cases h with
  | item hs hm =>
    simp only [hs]
    cases hall : boundAll (m.elements f.name) with
    | error fault => exact ⟨fault, List.mem_append_left _ List.mem_cons_self⟩
    | ok vs =>
      obtain ⟨v, hv⟩ := boundAll_ok_iff.1 ⟨vs, hall⟩ _ hm
      cases hv.symm.trans hd
  | entry hs hm =>
    simp only [hs]
    cases hall : boundEntries (m.entries f.name) with
    | error fault => exact ⟨fault, List.mem_append_left _ List.mem_cons_self⟩
    | ok vs =>
      obtain ⟨v, hv⟩ := boundEntries_ok_iff.1 ⟨vs, hall⟩ _ hm
      cases hv.symm.trans hd

end

/-! ## Events -/

namespace Walk

variable {c : WalkContext} {type : String} {m : Message}

/-- A walk without constraints enters messages, and it may meet that it cannot bind what is in a collection. -/
theorem event_of_unconstrained (hc : ∀ type, c.rulesOf type = .ok (c.schema.rules type)) {e : Event} :
    ∀ {fuel depth : Nat} {type : String} {m : Message} {path : Path}, c.schema.Unconstrained type →
      (∀ n, c.schema.Reaches type m n → n < fuel ∧ depth + n ≤ capacity) →
      e ∈ events c fuel depth (c.schema.rules type) m path →
        (∃ name, e = .enter name) ∨ ∃ d fault, c.schema.Gathers type m d ∧ d.bound = .error fault ∧
          e = .failure (.fault fault)
  | 0, _, _, _, _, _, hn, _ => absurd (hn 0 .here).1 (Nat.not_lt_zero 0)
  | fuel + 1, depth, type, m, path, hs, hn, he => by
    have hplain := hs type (.refl _ type)
    have hcap : ¬capacity < depth := Nat.not_lt.2 (hn 0 .here).2
    rw [events_succ, if_neg hcap] at he
    obtain ⟨task, htask, he⟩ := List.mem_flatMap.1 he
    obtain ⟨name, inner, place, rfl⟩ | ⟨f, hf, d, fault, hd, hbound, rfl⟩ := MessageType.task_of_unconstrained hplain htask
    · obtain ⟨-, f, hf, p, hh, rfl⟩ := MessageType.inner_mem_tasks.1 htask
      simp only [Task.events, inside, hc name, List.mem_cons] at he
      rcases he with rfl | he
      · exact .inl ⟨name, rfl⟩
      · have hinner (n : Nat) (hr : c.schema.Reaches name inner n) : n < fuel ∧ depth + 1 + n ≤ capacity := by
          have hlevels := hn (n + 1) (.inside hplain.enabled hf hh hr)
          omega
        obtain henter | ⟨d, fault, hd, hfailure⟩ := event_of_unconstrained hc (hs.inner hf hh) hinner he
        · exact .inl henter
        · exact .inr ⟨d, fault, .inside hf hh hd, hfailure⟩
    · obtain rfl := List.mem_singleton.1 he
      exact .inr ⟨d, fault, .own hf hd, hbound, rfl⟩

/-- What cannot be bound in a collection is met. -/
theorem failure_of_gathers (hc : ∀ type, c.rulesOf type = .ok (c.schema.rules type)) {d : Datum} {fault : Fault}
    (hd : c.schema.Gathers type m d) (hbound : d.bound = .error fault) : ∀ {fuel depth : Nat} {path : Path},
      c.schema.Unconstrained type → (∀ n, c.schema.Reaches type m n → n < fuel ∧ depth + n ≤ capacity) →
        ∃ f, .failure f ∈ events c fuel depth (c.schema.rules type) m path := by
  -- A task that fails makes the walk fail; each of the two ways to gather a value gives one.
  have hfails {type : String} {m : Message} {fuel depth : Nat} {path : Path} {f : Failure} {task : Task}
      (hn : ∀ n, c.schema.Reaches type m n → n < fuel + 1 ∧ depth + n ≤ capacity)
      (htask : task ∈ (c.schema.rules type).tasks (c.schema.messageType type) m path)
      (hf : .failure f ∈ task.events c (inside c (events c fuel (depth + 1)))) :
      .failure f ∈ events c (fuel + 1) depth (c.schema.rules type) m path :=
    (failure_mem_events (Nat.not_lt.2 (hn 0 .here).2)).2 ⟨task, htask, hf⟩
  induction hd with
  | @own type m f d hf hd =>
    intro fuel depth path hs hn
    obtain ⟨fuel, rfl⟩ : ∃ k, fuel = k + 1 := Nat.exists_eq_succ_of_ne_zero (Nat.ne_zero_of_lt (hn 0 .here).1)
    obtain ⟨g, hg⟩ : ∃ g, .unbound g ∈ (f.rules c.schema (c.schema.messageType type)).tasks m path := hd.unbound hbound
    have htask : .unbound g ∈ (c.schema.rules type).tasks (c.schema.messageType type) m path := by
      have hfields : (c.schema.rules type).fields =
          (c.schema.messageType type).fields.map (·.rules c.schema (c.schema.messageType type)) := by
        simp [Schema.rules, MessageType.rules, (hs type (.refl _ type)).enabled]
      unfold TypeRules.tasks
      rw [hfields]
      refine List.mem_append_left _ (List.mem_append_left _ ?_)
      exact List.mem_flatMap.2 ⟨_, List.mem_map_of_mem hf, hg⟩
    exact ⟨_, hfails hn htask List.mem_cons_self⟩
  | @inside type name m inner f place d hf hh hd ih =>
    intro fuel depth path hs hn
    obtain ⟨fuel, rfl⟩ : ∃ k, fuel = k + 1 := Nat.exists_eq_succ_of_ne_zero (Nat.ne_zero_of_lt (hn 0 .here).1)
    have hplain := hs type (.refl _ type)
    have hinner (n : Nat) (hr : c.schema.Reaches name inner n) : n < fuel ∧ depth + 1 + n ≤ capacity := by
      have hlevels := hn (n + 1) (.inside hplain.enabled hf hh hr)
      omega
    obtain ⟨g, hg⟩ : ∃ g, .failure g ∈ events c fuel (depth + 1) (c.schema.rules name) inner (path ++ place) :=
      ih hbound (hs.inner hf hh) hinner
    have htask : .inner name inner (path ++ place) ∈ (c.schema.rules type).tasks (c.schema.messageType type) m path :=
      MessageType.inner_mem_tasks.2 ⟨hplain.enabled, f, hf, place, hh, rfl⟩
    refine ⟨g, hfails hn htask ?_⟩
    simp only [Task.events, inside, hc name]
    exact List.mem_cons_of_mem _ hg

end Walk

/-- Where there are no violations, all that is said of events is how they end. -/
theorem Event.verdict_of_found_nil {failFast : Bool} {es : List Event} (h : found es = []) :
    verdict failFast es = (ending es).map fun _ => [] := by
  unfold verdict
  rw [h]
  cases failFast <;> rfl

/-! ## Validation -/

namespace Workspace

/-- A message of a type without constraints, and without any at the types that validation gets to, is valid, unless a time
or span in a collection cannot be bound: validation then fails with its fault. It does not matter what other fields hold. -/
theorem validate_unconstrained (s : Schema) (config : Config) (history : List Operation) (v : Validator)
    (failFast : Option Bool) (now : Value) (m : Message) (hs : s.Unconstrained m.type)
    (hdepth : ∀ n : Nat, s.Reaches m.type m n → (n : Int) ≤ v.config.maxDepth ∧ n ≤ Walk.capacity) :
    let validated := ((validate v failFast now m).run (after s config history)).1
    (validated = .ok { violations := [] } ∧ ∀ d, s.Gathers m.type m d → ∃ value, d.bound = .ok value) ∨
      ∃ d fault, s.Gathers m.type m d ∧ d.bound = .error fault ∧ validated = .error ⟨.fault fault, none⟩ := by
  intro validated
  let c : WalkContext := { schema := s, rulesOf := fun type => .ok (s.rules type),
                           failFast := failFast.getD v.config.failFast, maxDepth := v.config.maxDepth, now, root := m.type }
  have hevaluate := (faithful_after s config history).evaluate_of_resolves (m := m) v.resolver hs.resolves
    v.config.maxDepth (failFast.getD v.config.failFast) now
  have hvalidated : validated =
      ((c.violations (s.rules m.type) m).mapError (⟨·, none⟩)).map fun vs => { violations := vs } := by
    rw [show validated = _ from validate_run _ v failFast now m, hevaluate]
  have hlevels (n : Nat) (hn : s.Reaches m.type m n) : n < (c.maxDepth + 1).toNat ∧ 0 + n ≤ Walk.capacity := by
    have hboth := hdepth n hn
    refine ⟨?_, by omega⟩
    have hle : (n : Int) ≤ c.maxDepth := hboth.1
    omega
  have hevent {e : Event} (he : e ∈ c.events (s.rules m.type) m) :=
    Walk.event_of_unconstrained (c := c) (fun _ => rfl) hs hlevels he
  have hfound : Event.found (c.events (s.rules m.type) m) = [] := by
    refine List.eq_nil_iff_forall_not_mem.2 fun w hw => ?_
    obtain ⟨_, henter⟩ | ⟨_, _, _, _, hfailure⟩ := hevent (Event.violation_mem_of_found hw)
    · cases henter
    · cases hfailure
  rw [WalkContext.violations_eq, Event.verdict_of_found_nil hfound] at hvalidated
  cases hend : Event.ending (c.events (s.rules m.type) m) with
  | ok u =>
    rw [hend] at hvalidated
    refine .inl ⟨hvalidated, fun d hd => ?_⟩
    cases hbound : d.bound with
    | ok value => exact ⟨value, rfl⟩
    | error fault =>
      obtain ⟨f, hf⟩ := Walk.failure_of_gathers (c := c) (fun _ => rfl) hd hbound hs hlevels
      exact absurd hf (Event.ending_eq_ok.1 hend f)
  | error f =>
    rw [hend] at hvalidated
    obtain ⟨_, henter⟩ | ⟨d, fault, hd, hbound, hfault⟩ := hevent (Event.failure_mem_of_ending hend)
    · cases henter
    · cases hfault
      exact .inr ⟨d, fault, hd, hbound, hvalidated⟩

end Workspace

/-! ## A map of spans -/

namespace Sample

/-- Spans by number, without any rules. -/
def spans : MessageType :=
  { name := "Spans"
    fields := [
      { name := "durations", number := 1, type := .message Schema.durationName, shape := .map .int32, oneof := none,
        optional := false, hasPresence := false, default := .message (.unset Schema.durationName),
        constraints := none, presence := nofun }]
    oneofs := []
    constraints := none }

def spansSchema : Schema := ⟨[spans], []⟩

def spanOf (seconds : Int) : Message :=
  .mk "Spans" [("durations", .entries [(.int 1, .message (.mk Schema.durationName [("seconds", .single (.int seconds))]))])]

theorem spans_unconstrained : spansSchema.Unconstrained "Spans" := by
  have hclosed : ∀ n ∈ ["Spans"], ∀ d ∈ (spansSchema.rules n).dependencies, d ∈ ["Spans"] := by decide +kernel
  intro name hname
  obtain rfl := List.mem_singleton.1 (Schema.mem_of_below hclosed List.mem_cons_self hname)
  exact ⟨rfl, fun f hf => by rw [List.mem_singleton.1 hf], fun o ho => by cases ho⟩

theorem spans_holds_nothing {seconds : Int} {f : Field} {name : String} {inner : Message} {place : Path}
    (hf : f ∈ (spansSchema.messageType "Spans").fields) : ¬f.Holds (spanOf seconds) name inner place := by
  intro hh
  obtain rfl := List.mem_singleton.1 hf
  cases hh with
  | single hs => cases hs
  | item hs => cases hs
  | entry _ _ he =>
    have htype := he.type_eq
    cases htype
    have hopaque := he.transparent
    cases hopaque

theorem spans_reaches {seconds : Int} {n : Nat} (h : spansSchema.Reaches "Spans" (spanOf seconds) n) : n = 0 := by
  cases h with
  | here => rfl
  | inside _ hf hh _ => exact absurd hh (spans_holds_nothing hf)

theorem spans_gathers {seconds : Int} {d : Datum} (h : spansSchema.Gathers "Spans" (spanOf seconds) d) :
    d = .message (.mk Schema.durationName [("seconds", .single (.int seconds))]) := by
  cases h with
  | own hf hd =>
    obtain rfl := List.mem_singleton.1 hf
    cases hd with
    | item hs => cases hs
    | entry _ hm =>
      cases List.mem_singleton.1 hm
      rfl
  | inside hf hh => exact absurd hh (spans_holds_nothing hf)

end Sample

namespace Workspace

theorem validate_unconstrained_of_span : Sample.spansSchema.Unconstrained "Spans" ∧
    (∀ n : Nat, Sample.spansSchema.Reaches "Spans" (Sample.spanOf 1) n → (n : Int) ≤ 32 ∧ n ≤ Walk.capacity) ∧
    ((validate (start Sample.spansSchema {}).current none .none (Sample.spanOf 1)).run
      (after Sample.spansSchema {} [])).1 = .ok { violations := [] } := by
  have hdepth (n : Nat) (hn : Sample.spansSchema.Reaches "Spans" (Sample.spanOf 1) n) :
      (n : Int) ≤ 32 ∧ n ≤ Walk.capacity := by
    rw [Sample.spans_reaches hn]
    decide
  refine ⟨Sample.spans_unconstrained, hdepth, ?_⟩
  obtain ⟨hvalid, -⟩ | ⟨d, fault, hd, hbound, -⟩ := validate_unconstrained Sample.spansSchema {} []
    (start Sample.spansSchema {}).current none .none (Sample.spanOf 1) Sample.spans_unconstrained hdepth
  · exact hvalid
  · rw [Sample.spans_gathers hd] at hbound
    cases hbound

/-- A span of more than three million years is none that can be bound. -/
theorem validate_longSpan : Sample.spansSchema.Unconstrained "Spans" ∧
    ((validate (start Sample.spansSchema {}).current none .none (Sample.spanOf 1000000000000000)).run
      (after Sample.spansSchema {} [])).1 = .error ⟨.fault .tooLarge, none⟩ := by
  refine ⟨Sample.spans_unconstrained, ?_⟩
  rw [validate_run, (faithful_after _ _ _).evaluate_of_resolves _ Sample.spans_unconstrained.resolves]
  rfl

end Workspace
end Conformance
