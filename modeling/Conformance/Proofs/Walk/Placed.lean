import Conformance.Proofs.Constraint.Typed
import Conformance.Proofs.Report.Places
import Conformance.Proofs.Walk.Entered

/-!
# Places of violations

Each violation that a walk finds has the path to a place of the message, and is one that such a place may have. This is
said of the tasks of one message, seen from the place where the message is, and carried through the walk from the outer
message to the inner ones.
-/

namespace Conformance

/-! ## Rules by their names -/

def Violation.IsRequired (v : Violation) : Prop := v.ruleId = "required" ∧ v.source = .standard

/-- Checks that are not taken for the demand that a field is set. -/
def Check.IsTold (c : Check) : Prop := c.source = .standard → c.ruleId ≠ "required"

theorem Check.isTold_of_dot {c : Check} (h : '.' ∈ c.ruleId.toList) : c.IsTold := by
  rintro - he
  rw [he] at h
  revert h
  decide

namespace Compile

theorem isTold_of_typedChecks {s : Schema} {place : String} {type : FieldType} {t : TypedRules} {cs : List Check}
    (h : (typedChecks s place type t).outcome = .ok cs) {c : Check} (hc : c ∈ cs) : c.IsTold := by
  have hchecks := (TypedRules.typedChecks_eq_ok.1 h).2.2
  apply Check.isTold_of_dot
  rcases standardChecks_mem hchecks hc with ⟨a, -, ha⟩ | ⟨lower, low, upper, high, -, hr⟩
  · have hid : '.' ∈ a.rule.id.toList := by simp [Rule.id, String.toList_append]
    obtain ⟨text, -, ⟨_, _, _, _, rfl⟩ | ⟨_, _, _, _, rfl⟩⟩ := standardCheck_eq_ok.1 ha <;> exact hid
  · obtain ⟨name, message, outside, -, rfl⟩ := rangeCheck_eq_ok hr
    simp [String.toList_append]

end Compile

theorem FieldConstraints.isTold {c : FieldConstraints} {s : Schema} {place : String} {type : FieldType} {check : Check}
    (h : check ∈ c.standard s place type ++ c.custom.filterMap (·.check?)) : check.IsTold := by
  rcases List.mem_append.1 h with h | h
  · obtain ⟨t, cs, -, hcs, hc⟩ := mem_standard h
    exact Compile.isTold_of_typedChecks hcs hc
  · obtain ⟨r, -, hr⟩ := List.mem_filterMap.1 h
    obtain ⟨p, -, rfl⟩ := CustomRule.check?_eq_some hr
    intro hs
    cases hs

/-! ## What a place may have -/

/-- The identifiers of the rules on messages of a type as a whole. -/
def MessageType.ruleIds (t : MessageType) : List String := ((t.constraints.map (·.custom)).getD []).map (·.id)

def Field.IsMissing (f : Field) (m : Message) : Prop := (f.constraints.getD {}).required = true ∧ f.isSetIn m = false

/-- The violations that there may be at a place. -/
def Place.Admits (s : Schema) (v : Violation) : Place → Prop
  | message type _ => v.source = .custom ∧ v.ruleId ∈ (s.messageType type).ruleIds ∧ v.forKey = false
  | field f m => (v.IsRequired ↔ f.IsMissing m) ∧ v.forKey = false
  | item _ _ => ¬v.IsRequired ∧ v.forKey = false
  | entry _ _ _ => ¬v.IsRequired
  | oneof t o m => v.ruleId = "oneof.required" ∧ v.source = .standard ∧ v.forKey = false ∧
      ∀ f ∈ t.fields, f.oneof = some o.name → m.isSet f.name = false

/-- The violation has the path to a place, from another place and its path on, and may be there. -/
def Violation.IsBelow (s : Schema) (p : Place) (path : Path) (v : Violation) : Prop :=
  ∃ rest q, v.path = path ++ rest ∧ rest.foldlM (Place.step s) p = some q ∧ q.Admits s v

def Demand.IsViolated (s : Schema) (now : Value) (d : Demand) (v : Violation) : Prop := d.result s now = .ok (some v)

section
variable {s : Schema} {now : Value} {v : Violation}

theorem Demand.isViolated_check {c : Check} {value : Value} {path : Path} {forKey : Bool}
    (h : (Demand.check c value path forKey).IsViolated s now v) :
    v.path = path ∧ v.ruleId = c.ruleId ∧ v.source = c.source ∧ v.forKey = forKey := by
  simp only [IsViolated, result] at h
  cases hr : c.run s value now with
  | error e =>
    rw [hr] at h
    cases e <;> cases h
  | ok answer =>
    rw [hr] at h
    cases answer with
    | none => cases h
    | some message =>
      cases h
      exact ⟨rfl, rfl, rfl, rfl⟩

theorem isViolated_checks {path : Path} {forKey : Bool} {checks : List Check} {d : Demand}
    (hd : ∃ c ∈ checks, ∃ value, d = .check c value path forKey) (hv : d.IsViolated s now v) :
    v.path = path ∧ v.forKey = forKey ∧ ∃ c ∈ checks, v.ruleId = c.ruleId ∧ v.source = c.source := by
  obtain ⟨c, hc, value, rfl⟩ := hd
  obtain ⟨hpath, hid, hsource, hkey⟩ := Demand.isViolated_check hv
  exact ⟨hpath, hkey, c, hc, hid, hsource⟩

theorem not_isRequired_of_told {checks : List Check} (ht : ∀ c ∈ checks, c.IsTold)
    (h : ∃ c ∈ checks, v.ruleId = c.ruleId ∧ v.source = c.source) : ¬v.IsRequired := by
  obtain ⟨c, hc, hid, hsource⟩ := h
  rintro ⟨hr, hs⟩
  exact ht c hc (hsource.symm.trans hs) (hid.symm.trans hr)

theorem isViolated_valueTasks {c : FieldConstraints} {place : String} {type : FieldType} {datum : Datum} {path : Path}
    {forKey : Bool} {d : Demand} (hd : .demand d ∈ (c.forValue s place type).tasks datum path forKey)
    (hv : d.IsViolated s now v) : v.path = path ∧ v.forKey = forKey ∧ ¬v.IsRequired := by
  obtain ⟨hpath, hkey, hc⟩ := isViolated_checks (ValueRules.demand_mem_tasks hd) hv
  exact ⟨hpath, hkey, not_isRequired_of_told (fun _ => FieldConstraints.isTold) hc⟩

theorem isViolated_wholeTasks {c : FieldConstraints} {place : String} {kind : Kind} {type : FieldType}
    {bound : Except Fault Value} {path : Path} {d : Demand}
    (hd : .demand d ∈ checkTasks bound path false
      ((c.forWhole s place kind type).standard ++ (c.forWhole s place kind type).custom))
    (hv : d.IsViolated s now v) : v.path = path ∧ v.forKey = false ∧ ¬v.IsRequired := by
  obtain ⟨hpath, hkey, hc⟩ := isViolated_checks (demand_mem_checkTasks hd) hv
  exact ⟨hpath, hkey, not_isRequired_of_told (fun _ => FieldConstraints.isTold) hc⟩

/-! ## Fields -/

variable {t : MessageType} {f : Field} {m : Message} {path : Path} {p : Place} {d : Demand}

/-- What is said of a value that a field holds is at the field or right below it, and never that a value is required. -/
theorem Field.isViolated_held (hm : m.isKeyed = true) (hd : .demand d ∈ (f.rules s t).heldTasks m path)
    (hv : d.IsViolated s now v) :
    ¬v.IsRequired ∧ (v.path = path ∧ v.forKey = false ∨
      ∃ e q, v.path = path ++ [e] ∧ (Place.field f m).step s e = some q ∧ q.Admits s v) := by
  unfold Field.rules FieldRules.heldTasks at hd
  cases hs : f.shape with
  | singular =>
    simp only [hs] at hd
    obtain ⟨hpath, hkey, hr⟩ := isViolated_valueTasks hd hv
    exact ⟨hr, .inl ⟨hpath, hkey⟩⟩
  | «repeated» =>
    simp only [hs] at hd
    rcases List.mem_append.1 hd with hd | hd
    · obtain ⟨hpath, hkey, hr⟩ := isViolated_wholeTasks hd hv
      exact ⟨hr, .inl ⟨hpath, hkey⟩⟩
    · obtain ⟨i, datum, hi, hd⟩ := mem_itemTasks.1 hd
      obtain ⟨hpath, hkey, hr⟩ := isViolated_valueTasks hd hv
      rw [Nat.zero_add] at hpath
      exact ⟨hr, .inr ⟨_, _, hpath, Place.itemAt?_eq_some.2 ⟨f, m, i, datum, rfl, rfl, hs, hi, rfl⟩, hr, hkey⟩⟩
  | map key =>
    simp only [hs] at hd
    rcases List.mem_append.1 hd with hd | hd
    · obtain ⟨hpath, hkey, hr⟩ := isViolated_wholeTasks hd hv
      exact ⟨hr, .inl ⟨hpath, hkey⟩⟩
    · obtain ⟨e, he, hd⟩ := List.mem_flatMap.1 hd
      have hentry : (Place.field f m).step s (.key (.ofDatum e.1)) = some (.entry f e.1 e.2) :=
        Place.entryAt?_eq_some.2 ⟨f, m, key, e, rfl, hs,
          find?_entry (m.nodup_entries hm f.name) ((inKeyOrder_perm _).mem_iff.1 he), rfl⟩
      rcases List.mem_append.1 hd with hd | hd
      · obtain ⟨hpath, -, hr⟩ := isViolated_valueTasks hd hv
        exact ⟨hr, .inr ⟨_, _, hpath, hentry, hr⟩⟩
      · obtain ⟨hpath, -, hr⟩ := isViolated_valueTasks hd hv
        exact ⟨hr, .inr ⟨_, _, hpath, hentry, hr⟩⟩

theorem Field.isBelow_held (hp : p.step s (.field f.name) = some (.field f m)) (hm : m.isKeyed = true)
    (hset : ¬f.IsMissing m) (hd : .demand d ∈ (f.rules s t).heldTasks m (path ++ [.field f.name]))
    (hv : d.IsViolated s now v) : v.IsBelow s p path := by
  obtain ⟨hr, ⟨hpath, hkey⟩ | ⟨e, q, hpath, hq, ha⟩⟩ := Field.isViolated_held hm hd hv
  · refine ⟨[.field f.name], .field f m, hpath, ?_, iff_of_false hr hset, hkey⟩
    rw [List.foldlM_cons, hp]
    rfl
  · refine ⟨[.field f.name, e], q, by simpa using hpath, ?_, ha⟩
    rw [List.foldlM_cons, hp]
    exact (congrArg (· >>= pure) hq)

theorem Field.isBelow_tasks (hp : p.step s (.field f.name) = some (.field f m)) (hm : m.isKeyed = true)
    (hd : .demand d ∈ (f.rules s t).tasks m path) (hv : d.IsViolated s now v) : v.IsBelow s p path := by
  simp only [FieldRules.tasks, f.rules_field, f.rules_required] at hd
  split at hd
  · next hset => exact Field.isBelow_held hp hm (fun h => by simp [h.2] at hset) hd hv
  · next hset =>
    split at hd
    · next hrequired =>
      cases List.mem_singleton.1 hd
      cases hv
      refine ⟨[.field f.name], .field f m, rfl, ?_, iff_of_true ⟨rfl, rfl⟩ ⟨hrequired, by simpa using hset⟩, rfl⟩
      rw [List.foldlM_cons, hp]
      rfl
    · next hrequired =>
      split at hd
      · cases hd
      · exact Field.isBelow_held hp hm (fun h => hrequired h.1) hd hv

/-! ## Messages -/

theorem MessageType.isSet_of_chosen {o : String} (h : t.chosen? o m = none) :
    ∀ f ∈ t.fields, f.oneof = some o → m.isSet f.name = false := by
  intro f hf ho
  have hnone := List.find?_eq_none.1 (Option.map_eq_none_iff.1 h) f (List.mem_filter.2 ⟨hf, by simp [ho]⟩)
  simpa using hnone

theorem MessageType.isBelow_oneof (ht : t.Named) {o : OneofRule} (ho : o ∈ Compile.oneofRules t)
    (hp : ∀ name, p.step s (.field name) = Place.member? t m name) (hd : .demand d ∈ o.tasks t m path)
    (hv : d.IsViolated s now v) : v.IsBelow s p path := by
  unfold OneofRule.tasks at hd
  split at hd
  · next hunset =>
    cases List.mem_singleton.1 hd
    cases hv
    obtain ⟨o, hmem, rfl⟩ := List.mem_map.1 ho
    have hmem := List.mem_of_mem_filter hmem
    obtain ⟨o', hname, hplace⟩ := Place.member?_oneof hmem (ht.oneofs o hmem).2 m
    refine ⟨[.field o.name], .oneof t o' m, rfl, ?_, rfl, rfl, rfl, ?_⟩
    · rw [List.foldlM_cons, hp, hplace]
      rfl
    · rw [hname]
      exact MessageType.isSet_of_chosen (by simpa using hunset)
  · cases hd

/-- A rule on a message as a whole may be violated at any place that has a message. -/
theorem Place.admits_of_message {type : String} (hp : p.message? = some (type, m)) (hs : v.source = .custom)
    (hid : v.ruleId ∈ (s.messageType type).ruleIds) (hkey : v.forKey = false) : p.Admits s v := by
  have hr : ¬v.IsRequired := by
    rintro ⟨-, h⟩
    cases hs.symm.trans h
  cases p with
  | message name _ =>
    cases hp
    exact ⟨hs, hid, hkey⟩
  | field f outer =>
    refine ⟨iff_of_false hr ?_, hkey⟩
    rintro ⟨-, hunset⟩
    obtain ⟨hshape, hp⟩ := Option.ite_none_right_eq_some.1 hp
    obtain ⟨datum, hd, hheld⟩ := Option.bind_eq_some_iff.1 hp
    cases ht : f.type with
    | message name =>
      -- A message is set where there is one.
      simp [Field.isSetIn, hshape, f.presence name ht hshape, hd] at hunset
    | _ =>
      rw [ht] at hheld
      cases hheld
  | item _ _ => exact ⟨hr, hkey⟩
  | entry _ _ _ => exact hr
  | oneof _ _ _ => cases hp

theorem MessageType.isBelow_tasks (hs : s.Named) {type : String} (hp : p.message? = some (type, m))
    (hm : m.isKeyed = true) (hd : .demand d ∈ (s.rules type).tasks (s.messageType type) m path)
    (hv : d.IsViolated s now v) : v.IsBelow s p path := by
  have ht := hs.messageType type
  have hstep (name : String) : p.step s (.field name) = Place.member? (s.messageType type) m name := by
    simp only [Place.step, hp, Option.bind_some]
  by_cases hdisabled : (s.rules type).disabled = true
  · have hnone : (s.rules type).tasks (s.messageType type) m path = [] := MessageType.tasks_of_disabled hdisabled
    rw [hnone] at hd
    cases hd
  · rw [Schema.rules, MessageType.rules_disabled] at hdisabled
    rw [Schema.rules, MessageType.rules, if_neg hdisabled] at hd
    rcases List.mem_append.1 hd with hd | hd
    · rcases List.mem_append.1 hd with hd | hd
      · obtain ⟨r, hr, hd⟩ := List.mem_flatMap.1 hd
        obtain ⟨f, hf, rfl⟩ := List.mem_map.1 hr
        have hfield : p.step s (.field f.name) = some (.field f m) := by
          rw [hstep, Place.member?_field (ht.fields f hf).2]
        exact Field.isBelow_tasks hfield hm hd hv
      · obtain ⟨o, ho, hd⟩ := List.mem_flatMap.1 hd
        exact MessageType.isBelow_oneof ht ho hstep hd hv
    · obtain ⟨hpath, hkey, c, hc, hid, hsource⟩ := isViolated_checks (demand_mem_checkTasks hd) hv
      obtain ⟨r, hr, hcheck⟩ := List.mem_filterMap.1 hc
      obtain ⟨program, -, rfl⟩ := CustomRule.check?_eq_some hcheck
      refine ⟨[], p, by simpa using hpath, rfl, ?_⟩
      exact Place.admits_of_message hp hsource (by rw [hid]; exact List.mem_map_of_mem hr) hkey

end

/-! ## Walks -/

theorem Demand.isViolated_of_event {s : Schema} {now : Value} {d : Demand} {v : Violation}
    (h : .violation v ∈ d.events s now) : d.IsViolated s now v := by
  unfold events at h
  split at h
  · cases h
  · next hr =>
    cases List.mem_singleton.1 h
    exact hr
  · cases List.mem_singleton.1 h

/-- What is found in a message that is at some place is found at places from there on. -/
theorem Walk.isBelow_events {c : WalkContext} (hc : ∀ type, c.schema.Gives type (c.rulesOf type))
    (hs : c.schema.Named) {v : Violation} : ∀ {fuel depth : Nat} {type : String} {m : Message} {path : Path} {p : Place},
    p.message? = some (type, m) → m.Keyed → .violation v ∈ events c fuel depth (c.schema.rules type) m path →
      v.IsBelow c.schema p path
  | 0, _, _, _, _, _, _, _, h => by cases List.mem_singleton.1 h
  | fuel + 1, depth, type, m, path, p, hp, hm, h => by
    have hkeyed : m.isKeyed = true := (Message.everywhere_iff.1 hm).1
    rw [events_succ] at h
    split at h
    · cases List.mem_singleton.1 h
    · obtain ⟨t, ht, h⟩ := List.mem_flatMap.1 h
      cases t with
      | unbound f => cases List.mem_singleton.1 h
      | demand d => exact MessageType.isBelow_tasks hs hp hkeyed ht (Demand.isViolated_of_event h)
      | inner name inner place =>
        obtain ⟨-, f, hf, way, hholds, rfl⟩ := MessageType.inner_mem_tasks.1 ht
        obtain ⟨q, hq, hqm⟩ := hholds.leads ((hs.messageType type).fields f hf).2 hkeyed hp
        have h := (List.mem_cons.1 h).resolve_left fun he => by cases he
        unfold inside at h
        split at h
        · next rules hr =>
          obtain rfl := (hc name).rules_eq hr
          obtain ⟨rest, r, hpath, hr, ha⟩ := isBelow_events hc hs hqm (hholds.everywhere hm) h
          refine ⟨way ++ rest, r, by rw [hpath, List.append_assoc], ?_, ha⟩
          rw [List.foldlM_append, hq]
          exact hr
        · cases List.mem_singleton.1 h

end Conformance
