import Conformance.Proofs.Constraint.Relaxed
import Conformance.Proofs.Walk.Enumeration

/-!
# Walks under relaxed constraints

A message has fewer tasks under a schema that relaxes another one, in the same order. If the checks do not ask for the
descriptors of messages, then what is left to be done comes to the same; so a walk makes some of the events of the other
one.
-/

namespace Conformance

/-! ## Parts of lists -/

section
variable {α β : Type}

theorem flatMap_sublist {f' f : α → List β} {as' as : List α} (h : as'.Sublist as)
    (hf : ∀ a ∈ as', (f' a).Sublist (f a)) : (as'.flatMap f').Sublist (as.flatMap f) := by
  induction h with
  | slnil => exact .slnil
  | cons a _ ih => exact (ih hf).trans (List.sublist_append_right (f a) _)
  | cons_cons a _ ih => exact (hf a List.mem_cons_self).append (ih fun b hb => hf b (List.mem_cons_of_mem _ hb))

theorem flatMap_sublist_of_forall₂ {R : α → α → Prop} {f' f : α → List β} {as' as : List α} (h : List.Forall₂ R as' as)
    (hf : ∀ a' a, R a' a → (f' a').Sublist (f a)) : (as'.flatMap f').Sublist (as.flatMap f) := by
  induction h with
  | nil => exact .slnil
  | cons ha _ ih => exact (hf _ _ ha).append ih

end

/-! ## Rules of values -/

/-- The rules of a value are those of another one, but zeros may be passed over, and messages not be gone into. -/
structure ValueRules.Relaxes (r' r : ValueRules) : Prop where
  standard : r'.standard = r.standard
  custom : r'.custom = r.custom
  isWrapper : r'.isWrapper = r.isWrapper
  ignoreEmpty : r.ignoreEmpty = true → r'.ignoreEmpty = true
  nested : r'.nested = r.nested ∨ r'.nested = none

namespace FieldConstraints.Relaxes

variable {c' c : FieldConstraints} {s' s : Schema}

theorem forValue (h : c'.Relaxes c) (hs : s'.bare = s.bare) {place' place : String} (hp : place' = place)
    (type : FieldType) : (c'.forValue s' place' type).Relaxes (c.forValue s place type) where
  standard := by
    subst hp
    exact h.standard hs _ type
  custom := by simp only [FieldConstraints.forValue, h.custom]
  isWrapper := by simp only [FieldConstraints.forValue, h.applies?]
  ignoreEmpty := h.ignoreEmpty
  nested := by
    simp only [FieldConstraints.forValue]
    cases type with
    | message name =>
      simp only [Compile.nested?]
      cases hk : c.skipped with
      | true => simp [h.skipped hk]
      | false => cases c'.skipped <;> simp
    | _ => exact .inl rfl

theorem forWhole (h : c'.Relaxes c) (hs : s'.bare = s.bare) {place' place : String} (hp : place' = place)
    (kind' kind : Kind) (type : FieldType) : (c'.forWhole s' place' kind' type).Relaxes (c.forWhole s place kind type) where
  standard := by
    subst hp
    exact h.standard hs _ type
  custom := by simp only [FieldConstraints.forWhole, h.custom]
  isWrapper := rfl
  ignoreEmpty := id
  nested := .inl rfl

end FieldConstraints.Relaxes

/-- The rules of a field are those of another one, but for what may be passed over in it. -/
structure FieldRules.Relaxes (r' r : FieldRules) : Prop where
  field : r'.field.bare = r.field.bare
  value : r'.value.Relaxes r.value
  required : r'.required = r.required
  ignoreEmpty : r.ignoreEmpty = true → r'.ignoreEmpty = true
  items : Option.Rel ValueRules.Relaxes r'.items r.items
  keys : Option.Rel ValueRules.Relaxes r'.keys r.keys
  values : Option.Rel ValueRules.Relaxes r'.values r.values

theorem Field.Relaxes.rules {f' f : Field} {t' t : MessageType} {s' s : Schema} (h : f'.Relaxes f)
    (ht : t'.name = t.name) (hs : s'.bare = s.bare) : (f'.rules s' t').Relaxes (f.rules s t) := by
  have hfield : (f'.rules s' t').field.bare = (f.rules s t).field.bare := by
    rw [f'.rules_field, f.rules_field, h.bare]
  obtain ⟨c', rfl⟩ : ∃ c', f' = { f with constraints := c' } := ⟨_, h.eq⟩
  have hc := h.constraints
  -- By its components, so that the rules of both fields compute.
  obtain ⟨name, number, type, shape, oneof, optional, hasPresence, default, constraints, presence⟩ := f
  have hplace (what : String) : t'.name ++ "." ++ name ++ what = t.name ++ "." ++ name ++ what := by rw [ht]
  have hown : t'.name ++ "." ++ name = t.name ++ "." ++ name := by rw [ht]
  cases shape with
  | singular => exact ⟨hfield, hc.forValue hs hown _, hc.required, hc.ignoreEmpty, .none, .none, .none⟩
  | «repeated» =>
    exact ⟨hfield, hc.forWhole hs hown _ _ _, hc.required, hc.ignoreEmpty,
      .some (hc.items.forValue hs (hplace " item") _), .none, .none⟩
  | map key =>
    exact ⟨hfield, hc.forWhole hs hown _ _ _, hc.required, hc.ignoreEmpty, .none,
      .some (hc.keys.forValue hs (hplace " key") _), .some (hc.values.forValue hs (hplace " value") _)⟩

/-! ## Tasks of values -/

section
variable {r' r : ValueRules}

theorem innerTasks_sublist {nested' nested : Option String} (h : nested' = nested ∨ nested' = none) (d : Datum)
    (path : Path) : (innerTasks nested' d path).Sublist (innerTasks nested d path) := by
  rcases h with rfl | rfl
  · exact .refl _
  · exact List.nil_sublist _

namespace ValueRules.Relaxes

theorem tasks (h : r'.Relaxes r) (d : Datum) (path : Path) (forKey : Bool) :
    (r'.tasks d path forKey).Sublist (r.tasks d path forKey) := by
  unfold ValueRules.tasks
  rw [h.standard, h.custom, h.isWrapper]
  by_cases hz' : (r'.ignoreEmpty && d.isZero) = true
  · rw [if_pos hz']
    exact List.nil_sublist _
  · have hz : ¬(r.ignoreEmpty && d.isZero) = true := by
      simp only [Bool.and_eq_true] at hz' ⊢
      exact fun hz => hz' ⟨h.ignoreEmpty hz.1, hz.2⟩
    rw [if_neg hz', if_neg hz]
    exact (innerTasks_sublist h.nested d path).append_left _

theorem itemTasks (h : r'.Relaxes r) (path : Path) : ∀ (i : Nat) (ds : List Datum),
    (itemTasks r' path i ds).Sublist (Conformance.itemTasks r path i ds)
  | _, [] => .slnil
  | i, d :: ds => (h.tasks d _ false).append (h.itemTasks path (i + 1) ds)

theorem entryTasks {values' values : ValueRules} (h : r'.Relaxes r) (hv : values'.Relaxes values) (path : Path)
    (e : Datum × Datum) : (entryTasks r' values' path e).Sublist (Conformance.entryTasks r values path e) :=
  (h.tasks e.1 _ true).append (hv.tasks e.2 _ false)

end ValueRules.Relaxes
end

/-! ## Tasks of messages -/

namespace FieldRules.Relaxes

variable {r' r : FieldRules}

theorem heldTasks (h : r'.Relaxes r) (m : Message) (path : Path) : (r'.heldTasks m path).Sublist (r.heldTasks m path) := by
  have hname : r'.field.name = r.field.name := (congrArg Field.name h.field :)
  have hshape : r'.field.shape = r.field.shape := (congrArg Field.shape h.field :)
  have hvalue : r'.field.valueIn m = r.field.valueIn m := (congrArg (Field.valueIn · m) h.field :)
  unfold FieldRules.heldTasks
  rw [hshape, hname, hvalue, h.value.standard, h.value.custom]
  cases r.field.shape with
  | singular => exact h.value.tasks _ path false
  | «repeated» =>
    have hitems := h.items
    refine List.Sublist.append_left ?_ _
    generalize r'.items = items', r.items = items at hitems
    cases hitems with
    | none => exact .slnil
    | some hitems => exact hitems.itemTasks path 0 _
  | map key =>
    have hkeys := h.keys
    have hvalues := h.values
    refine List.Sublist.append_left ?_ _
    generalize r'.keys = keys', r.keys = keys at hkeys
    generalize r'.values = values', r.values = values at hvalues
    cases hkeys with
    | none => exact .slnil
    | some hkeys =>
      cases hvalues with
      | none => exact .slnil
      | some hvalues => exact flatMap_sublist (.refl _) fun e _ => hkeys.entryTasks hvalues path e

theorem tasks (h : r'.Relaxes r) (m : Message) (path : Path) : (r'.tasks m path).Sublist (r.tasks m path) := by
  have hname : r'.field.name = r.field.name := (congrArg Field.name h.field :)
  have hset : r'.field.isSetIn m = r.field.isSetIn m := (congrArg (Field.isSetIn · m) h.field :)
  have hpresence : r'.hasPresence = r.hasPresence :=
    (congrArg (fun f : Field => !f.isRepeated && f.hasPresence) h.field :)
  have hheld := h.heldTasks m (path ++ [.field r.field.name])
  unfold FieldRules.tasks
  rw [hname, hset, h.required, hpresence]
  split
  · exact hheld
  · split
    · exact .refl _
    · -- What is passed over stays so.
      by_cases hp' : (r.hasPresence || r'.ignoreEmpty) = true
      · rw [if_pos hp']
        exact List.nil_sublist _
      · have hp : ¬(r.hasPresence || r.ignoreEmpty) = true := by
          simp only [Bool.or_eq_true] at hp' ⊢
          exact fun hp => hp' (hp.imp_right h.ignoreEmpty)
        rw [if_neg hp', if_neg hp]
        exact hheld

end FieldRules.Relaxes

namespace MessageType.Relaxes

variable {t' t : MessageType} {s' s : Schema}

theorem oneofTasks (h : t'.Relaxes t) (m : Message) (path : Path) :
    (Compile.oneofRules t').flatMap (·.tasks t' m path) = (Compile.oneofRules t).flatMap (·.tasks t m path) := by
  have hsynthetic : t'.syntheticOneofs = t.syntheticOneofs := by
    rw [← t'.syntheticOneofs_bare, h.bare, t.syntheticOneofs_bare]
  have hchosen (oneof : String) : t'.chosen? oneof m = t.chosen? oneof m := by
    rw [← t'.chosen?_bare, h.bare, t.chosen?_bare]
  have hrules : Compile.oneofRules t' = Compile.oneofRules t := by
    simp only [Compile.oneofRules, isSynthetic, hsynthetic, h.oneofs]
  simp only [hrules, OneofRule.tasks, hchosen]

theorem tasks (h : t'.Relaxes t) (hs : s'.bare = s.bare) (m : Message) (path : Path) :
    ((t'.rules s').tasks t' m path).Sublist ((t.rules s).tasks t m path) := by
  by_cases hd' : (t'.rules s').disabled = true
  · rw [tasks_of_disabled hd']
    exact List.nil_sublist _
  · have hd : ¬t.isDisabled = true := by
      rw [rules_disabled] at hd'
      exact mt h.disabled hd'
    rw [rules_disabled] at hd'
    unfold isDisabled at hd
    rw [rules, rules, if_neg hd, if_neg hd']
    have hcustom : (t'.constraints.map (·.custom)).getD [] = (t.constraints.map (·.custom)).getD [] := h.custom
    simp only [TypeRules.tasks, h.oneofTasks, hcustom, List.flatMap_map]
    exact ((flatMap_sublist_of_forall₂ h.fields fun f' f hf => (hf.rules h.name hs).tasks m path).append_right _).append_right _

end MessageType.Relaxes

/-! ## Checks among the tasks -/

section
variable {c : Check} {v : Value} {p path : Path} {k forKey : Bool} {m : Message}

theorem check_mem_checkTasks {bound : Except Fault Value} {checks : List Check}
    (h : .demand (.check c v p k) ∈ checkTasks bound path forKey checks) : c ∈ checks := by
  obtain ⟨check, hc, w, he⟩ := demand_mem_checkTasks h
  cases he
  exact hc

theorem ValueRules.check_mem_tasks {r : ValueRules} {d : Datum} (h : .demand (.check c v p k) ∈ r.tasks d path forKey) :
    c ∈ r.checks := by
  obtain ⟨check, hc, w, he⟩ := demand_mem_tasks h
  cases he
  exact hc

namespace FieldRules

variable {r : FieldRules}

theorem mem_checks {part : ValueRules} (hp : part ∈ r.parts) (hc : c ∈ part.checks) : c ∈ r.checks :=
  List.mem_flatMap.2 ⟨part, hp, hc⟩

theorem check_mem_heldTasks (h : .demand (.check c v p k) ∈ r.heldTasks m path) : c ∈ r.checks := by
  have hvalue (hc : c ∈ r.value.checks) : c ∈ r.checks := mem_checks List.mem_cons_self hc
  unfold FieldRules.heldTasks at h
  split at h
  · exact hvalue (ValueRules.check_mem_tasks h)
  · rcases List.mem_append.1 h with h | h
    · exact hvalue (check_mem_checkTasks h)
    · cases hi : r.items with
      | none =>
        rw [hi] at h
        cases h
      | some items =>
        rw [hi] at h
        obtain ⟨i, d, -, h⟩ := mem_itemTasks.1 h
        exact mem_checks (by simp [parts, hi]) (ValueRules.check_mem_tasks h)
  · rcases List.mem_append.1 h with h | h
    · exact hvalue (check_mem_checkTasks h)
    · cases hk : r.keys with
      | none =>
        rw [hk] at h
        cases h
      | some keys =>
        cases hv : r.values with
        | none =>
          rw [hk, hv] at h
          cases h
        | some values =>
          rw [hk, hv] at h
          obtain ⟨e, -, h⟩ := List.mem_flatMap.1 h
          rcases List.mem_append.1 h with h | h
          · exact mem_checks (by simp [parts, hk]) (ValueRules.check_mem_tasks h)
          · exact mem_checks (by simp [parts, hv]) (ValueRules.check_mem_tasks h)

theorem check_mem_tasks (h : .demand (.check c v p k) ∈ r.tasks m path) : c ∈ r.checks := by
  unfold FieldRules.tasks at h
  split at h
  · exact check_mem_heldTasks h
  · split at h
    · cases List.mem_singleton.1 h
    · split at h
      · cases h
      · exact check_mem_heldTasks h

end FieldRules

theorem TypeRules.check_mem_tasks {r : TypeRules} {t : MessageType}
    (h : .demand (.check c v p k) ∈ r.tasks t m path) : c ∈ r.checks := by
  rcases List.mem_append.1 h with h | h
  · rcases List.mem_append.1 h with h | h
    · obtain ⟨f, hf, h⟩ := List.mem_flatMap.1 h
      exact List.mem_append_left _ (List.mem_flatMap.2 ⟨f, hf, FieldRules.check_mem_tasks h⟩)
    · obtain ⟨o, -, h⟩ := List.mem_flatMap.1 h
      unfold OneofRule.tasks at h
      split at h
      · cases List.mem_singleton.1 h
      · cases h
  · exact List.mem_append_right _ (check_mem_checkTasks h)

end

/-! ## Events -/

/-- The walk with all that another schema declares. -/
def WalkContext.under (c : WalkContext) (s : Schema) : WalkContext :=
  { c with schema := s, rulesOf := fun type => .ok (s.rules type) }

namespace Walk

end Walk
end Conformance
