import Conformance.Proofs.Walk.Enumeration
import Conformance.Proofs.Walk.Placed

/-!
# Demands that a field is set

A demand on a message is one on a message that validation goes into, at the path on which it gets there
(`Schema.mem_demands`), and a path leads to one message only. So each violation that says that a value is required is
about one field of one message: the rules require it and it is not set (`Schema.Visits.required_iff`).
-/

namespace Conformance

variable {s : Schema} {type name last : String} {m inner : Message} {f : Field} {path way : Path} {d : Demand}
  {now : Value} {v : Violation}

/-! ## Messages that are visited -/

/-- Validation of a message of a type gets to a message of another type, on a path from the one to the other. Messages of
disabled types are gotten to but not gone into. -/
inductive Schema.Visits (s : Schema) : String → Message → String → Message → Path → Prop
  | here {type : String} {m : Message} : Visits s type m type m []
  | inside {type name last : String} {m next inner : Message} {f : Field} {way path : Path} :
    (s.messageType type).constraints.any (·.disabled) = false → f ∈ (s.messageType type).fields →
      f.Holds m name next way → Visits s name next last inner path → Visits s type m last inner (way ++ path)

namespace Schema.Visits

/-- The path on which a message is gotten to leads to the place of that message. -/
theorem leads (hs : s.Named) (h : s.Visits type m last inner path) {p : Place} (hm : m.Keyed)
    (hp : p.message? = some (type, m)) :
    ∃ q, path.foldlM (Place.step s) p = some q ∧ q.message? = some (last, inner) := by
  induction h generalizing p with
  | here => exact ⟨p, rfl, hp⟩
  | @inside type name last m next inner f way path _ hf hholds _ ih =>
    have hkeyed : m.isKeyed = true := (Message.everywhere_iff.1 hm).1
    obtain ⟨q, hq, hqm⟩ := hholds.leads ((hs.messageType type).fields f hf).2 hkeyed hp
    obtain ⟨r, hr, hrm⟩ := ih (hholds.everywhere hm) hqm
    refine ⟨r, ?_, hrm⟩
    rw [List.foldlM_append, hq]
    exact hr

theorem unique (hs : s.Named) (hm : m.Keyed) {other : String} {also : Message}
    (h : s.Visits type m last inner path) (h' : s.Visits type m other also path) : other = last ∧ also = inner := by
  obtain ⟨p, hp, hpm⟩ := h.leads hs hm (p := .message type m) rfl
  obtain ⟨q, hq, hqm⟩ := h'.leads hs hm (p := .message type m) rfl
  cases hp.symm.trans hq
  cases hpm.symm.trans hqm
  exact ⟨rfl, rfl⟩

theorem keyed (h : s.Visits type m last inner path) (hm : m.Keyed) : inner.Keyed := by
  induction h with
  | here => exact hm
  | inside _ _ hholds _ ih => exact ih (hholds.everywhere hm)

theorem type_eq (hs : s.Named) (h : s.Visits type m last inner path) (hm : m.Conforms s) (htype : m.type = type) :
    inner.type = last := by
  induction h with
  | here => exact htype
  | @inside type name last m next inner f way path _ hf hholds _ ih =>
    subst htype
    have hfield := ((hs.messageType m.type).fields f hf).2
    exact ih (hholds.everywhere hm) (hholds.type_eq hfield hm)

end Schema.Visits

/-- The demands on a message are those on the messages that are gotten to, each from its path on. -/
theorem Schema.mem_demands {d : Demand} (type : String) (m : Message) (path : Path) :
    d ∈ s.demands type m path ↔ ∃ last inner way, s.Visits type m last inner way ∧
      .demand d ∈ (s.rules last).tasks (s.messageType last) inner (path ++ way) := by
  rw [Schema.demands_eq, List.mem_flatMap]
  constructor
  · rintro ⟨t, ht, hd⟩
    cases t with
    | demand e =>
      obtain rfl := List.mem_singleton.1 hd
      exact ⟨type, m, [], .here, by rwa [List.append_nil]⟩
    | unbound f => cases hd
    | inner name next place =>
      obtain ⟨hdisabled, f, hf, step, hholds, rfl⟩ := MessageType.inner_mem_tasks.1 ht
      have hlt := hholds.sizeOf_lt
      obtain ⟨last, inner, way, hvisits, hd⟩ := (Schema.mem_demands name next (path ++ step)).1 hd
      exact ⟨last, inner, step ++ way, .inside hdisabled hf hholds hvisits, by rwa [← List.append_assoc]⟩
  · rintro ⟨last, inner, way, hvisits, hd⟩
    cases hvisits with
    | here => exact ⟨.demand d, by rwa [List.append_nil] at hd, List.mem_singleton_self d⟩
    | @inside _ name _ _ next _ f step way hdisabled hf hholds hvisits =>
      have hlt := hholds.sizeOf_lt
      rw [← List.append_assoc] at hd
      refine ⟨.inner name next (path ++ step), ?_, ?_⟩
      · exact MessageType.inner_mem_tasks.2 ⟨hdisabled, f, hf, step, hholds, rfl⟩
      · exact (Schema.mem_demands name next (path ++ step)).2 ⟨last, inner, way, hvisits, hd⟩
termination_by sizeOf m

/-! ## Required fields of one message -/

/-- Rules have a field as a required one. -/
def TypeRules.Requires (r : TypeRules) (f : Field) : Prop := ∃ g ∈ r.fields, g.field = f ∧ g.required = true

/-- The rules of a type require what its fields declare, those of disabled types nothing. -/
theorem MessageType.requires_iff {t : MessageType} (hf : f ∈ t.fields) :
    (t.rules s).Requires f ↔ t.constraints.any (·.disabled) = false ∧ (f.constraints.getD {}).required = true := by
  unfold TypeRules.Requires MessageType.rules
  cases t.constraints.any (·.disabled) with
  | true => simp
  | false =>
    simp only [Bool.false_eq_true, if_false, true_and]
    constructor
    · rintro ⟨g, hg, rfl, hrequired⟩
      obtain ⟨f, -, rfl⟩ := List.mem_map.1 hg
      rwa [f.rules_required, ← f.rules_field s t] at hrequired
    · intro hrequired
      exact ⟨f.rules s t, List.mem_map_of_mem hf, f.rules_field s t, by rwa [f.rules_required]⟩

theorem Field.isMissing_of_required {t : MessageType} (hm : m.isKeyed = true)
    (hd : .demand d ∈ (f.rules s t).tasks m path) (hv : d.IsViolated s now v) (hr : v.IsRequired) :
    f.IsMissing m ∧ v.path = path ++ [.field f.name] := by
  have hheld (hd : .demand d ∈ (f.rules s t).heldTasks m (path ++ [.field f.name])) : False :=
    (Field.isViolated_held hm hd hv).1 hr
  simp only [FieldRules.tasks, f.rules_field, f.rules_required] at hd
  split at hd
  · exact (hheld hd).elim
  · next hset =>
    split at hd
    · next hrequired =>
      cases List.mem_singleton.1 hd
      cases hv
      exact ⟨⟨hrequired, by simpa using hset⟩, rfl⟩
    · split at hd
      · cases hd
      · exact (hheld hd).elim

theorem OneofRule.not_isRequired {o : OneofRule} {t : MessageType} (hd : .demand d ∈ o.tasks t m path)
    (hv : d.IsViolated s now v) : ¬v.IsRequired := by
  unfold OneofRule.tasks at hd
  split at hd
  · cases List.mem_singleton.1 hd
    cases hv
    simp [Violation.IsRequired]
  · cases hd

theorem MessageType.isMissing_of_required {t u : MessageType} (hm : m.isKeyed = true)
    (hd : .demand d ∈ (t.rules s).tasks u m path) (hv : d.IsViolated s now v) (hr : v.IsRequired) :
    ∃ f ∈ t.fields, (t.rules s).Requires f ∧ f.isSetIn m = false ∧ v.path = path ++ [.field f.name] := by
  cases hdisabled : t.constraints.any (·.disabled) with
  | true =>
    rw [MessageType.tasks_of_disabled (by rwa [MessageType.rules_disabled])] at hd
    cases hd
  | false =>
    rw [MessageType.rules, if_neg (by simp [hdisabled])] at hd
    rcases List.mem_append.1 hd with hd | hd
    · rcases List.mem_append.1 hd with hd | hd
      · obtain ⟨r, hfield, hd⟩ := List.mem_flatMap.1 hd
        obtain ⟨f, hf, rfl⟩ := List.mem_map.1 hfield
        obtain ⟨⟨hrequired, hunset⟩, hpath⟩ := Field.isMissing_of_required hm hd hv hr
        exact ⟨f, hf, (MessageType.requires_iff hf).2 ⟨hdisabled, hrequired⟩, hunset, hpath⟩
      · obtain ⟨o, -, hd⟩ := List.mem_flatMap.1 hd
        exact absurd hr (OneofRule.not_isRequired hd hv)
    · -- The rules on the message as a whole are custom ones.
      obtain ⟨-, -, c, hc, -, hsource⟩ := isViolated_checks (demand_mem_checkTasks hd) hv
      obtain ⟨rule, -, hcheck⟩ := List.mem_filterMap.1 hc
      obtain ⟨program, -, rfl⟩ := CustomRule.check?_eq_some hcheck
      cases hr.2.symm.trans hsource

theorem TypeRules.demand_of_required {r : TypeRules} {u : MessageType} (hrequired : r.Requires f)
    (hunset : f.isSetIn m = false) : .demand (.field (path ++ [.field f.name])) ∈ r.tasks u m path := by
  obtain ⟨g, hg, rfl, hrequired⟩ := hrequired
  have hfield : Task.demand (.field (path ++ [.field g.field.name])) ∈ g.tasks m path := by
    simp [FieldRules.tasks, hunset, hrequired]
  exact List.mem_append_left _ (List.mem_append_left _ (List.mem_flatMap.2 ⟨g, hg, hfield⟩))

/-! ## Required fields anywhere -/

/-- At a field of a message that is gotten to it is said that a value is required exactly if the rules of the type require
the field and the message does not set it. -/
theorem Schema.Visits.required_iff (hs : s.Named) (hm : m.Keyed) (h : s.Visits type m last inner path)
    (hf : f ∈ (s.messageType last).fields) (now : Value) :
    (∃ d ∈ s.demands type m [], ∃ v, d.IsViolated s now v ∧ v.path = path ++ [.field f.name] ∧ v.IsRequired) ↔
      (s.rules last).Requires f ∧ f.isSetIn inner = false := by
  constructor
  · rintro ⟨d, hd, v, hv, hpath, hr⟩
    obtain ⟨other, also, way, h', hd⟩ := (Schema.mem_demands type m []).1 hd
    have hkeyed : also.isKeyed = true := (Message.everywhere_iff.1 (h'.keyed hm)).1
    obtain ⟨g, hg, hrequired, hunset, hplace⟩ := MessageType.isMissing_of_required hkeyed hd hv hr
    -- The path tells the message and the field.
    obtain ⟨rfl, hname⟩ := List.append_inj' (hpath.symm.trans hplace) rfl
    obtain ⟨rfl, rfl⟩ := h.unique hs hm h'
    have hnamed := (hs.messageType other).fields
    have hfg : f.name = g.name := by simpa using hname
    obtain rfl : f = g := Option.some.inj ((hnamed f hf).2.symm.trans (hfg ▸ (hnamed g hg).2))
    exact ⟨hrequired, hunset⟩
  · rintro ⟨hrequired, hunset⟩
    refine ⟨.field (path ++ [.field f.name]), ?_, _, rfl, rfl, rfl, rfl⟩
    exact (Schema.mem_demands type m []).2 ⟨last, inner, path, h, TypeRules.demand_of_required hrequired hunset⟩

/-! ## Walks -/

/-- Each violation that a walk gets to is one of a demand that is not met. -/
theorem Walk.isViolated_of_event {c : WalkContext} (hc : ∀ type, c.schema.Gives type (c.rulesOf type)) :
    ∀ {fuel depth : Nat} {type : String} {m : Message} {path : Path},
      .violation v ∈ events c fuel depth (c.schema.rules type) m path →
        ∃ d ∈ c.schema.demands type m path, d.IsViolated c.schema c.now v
  | 0, _, _, _, _, h => by cases List.mem_singleton.1 h
  | fuel + 1, depth, type, m, path, h => by
    rw [events_succ] at h
    rw [Schema.demands_eq]
    split at h
    · cases List.mem_singleton.1 h
    · obtain ⟨t, ht, h⟩ := List.mem_flatMap.1 h
      cases t with
      | unbound f => cases List.mem_singleton.1 h
      | demand d => exact ⟨d, List.mem_flatMap.2 ⟨_, ht, List.mem_singleton_self d⟩, Demand.isViolated_of_event h⟩
      | inner name inner place =>
        have h := (List.mem_cons.1 h).resolve_left fun he => by cases he
        unfold inside at h
        split at h
        · next rules hr =>
          obtain rfl := (hc name).rules_eq hr
          obtain ⟨d, hd, hv⟩ := isViolated_of_event hc h
          exact ⟨d, List.mem_flatMap.2 ⟨_, ht, hd⟩, hv⟩
        · cases List.mem_singleton.1 h

end Conformance
