import Mathlib.Data.List.Basic
import Mathlib.Data.List.Find
import Conformance.Proofs.Constraint.Unwrapped
import Conformance.Proofs.Schema.Conforming
import Conformance.Proofs.Walk.Events
import Conformance.Proofs.Walk.Inner
import Conformance.Schema.Instance

/-!
# Messages with wrappers and with what they wrap

A wrapper around a value is zero where the value is, and the rules see the value in it. So of a message the same is
asked with the value in place of the wrapper, but for what is asked of the message as a whole.
-/

namespace Conformance

/-! ## Wrapped values -/

/-- The wrapper with a value in it. -/
def Scalar.wrap (k : Scalar) (wrapper : String) (x : Datum) : Message :=
  (Schema.plainType wrapper [Schema.plainField "value" 1 k]).build [("value", .single x)]

/-- A floating point zero is the positive one. -/
def Datum.HasPositiveZero (d : Datum) : Prop := ∀ x, d = .float x → x.isZero = true → x = .zero

section
variable {k : Scalar} {x : Datum} {f g : Field} {wrapper : String}

theorem Field.stored_eq (h : f.type = g.type) (d : Datum) : f.stored d = g.stored d := by
  unfold stored
  rw [h]

theorem Field.admits_stored (hx : k.admits x = true) : k.admits (f.stored x) = true := by
  unfold stored
  split
  · exact hx
  · exact hx

theorem Scalar.eq_zero_of_isBlank (hx : k.admits x = true) (hpositive : x.HasPositiveZero) (h : x.isBlank = true) :
    x = k.zero := by
  cases x with
  | message m => cases h
  | bool b =>
    obtain rfl : k = .bool := by simpa [admits] using hx
    obtain rfl : b = false := by simpa [Datum.isBlank] using h
    rfl
  | int n =>
    obtain rfl : n = 0 := by simpa [Datum.isBlank] using h
    cases k <;> first | rfl | cases hx
  | float y =>
    have hzero : y.isZero = true := (Bool.and_eq_true_iff.1 h).1
    rw [hpositive y rfl hzero]
    cases k <;> first | rfl | cases hx
  | text t =>
    obtain rfl : k = .string := by simpa [admits] using hx
    obtain rfl : t = "" := by simpa [Datum.isBlank] using h
    rfl
  | bytes b =>
    obtain rfl : k = .bytes := by simpa [admits] using hx
    obtain rfl : b = [] := by simpa [Datum.isBlank] using h
    rfl

theorem Scalar.isZero_eq_isBlank (hx : k.admits x = true) (hpositive : x.HasPositiveZero) : x.isZero = x.isBlank := by
  cases x with
  | message m => cases hx
  | float y =>
    cases hz : y.isZero with
    | false => simp [Datum.isZero, Datum.isBlank, hz]
    | true =>
      obtain rfl := hpositive y rfl hz
      rfl
  | _ => rfl

theorem Scalar.wrap_eq (h : g.type = .scalar k) (wrapper : String) (x : Datum) : k.wrap wrapper x =
    .mk wrapper (if (g.stored x).isBlank then [] else [("value", .single (g.stored x))]) := by
  have hstored : (Schema.plainField "value" 1 k).stored x = g.stored x := Field.stored_eq h.symm x
  have hfilled : (Schema.plainField "value" 1 k).filled? (.single x) =
      if !(g.stored x).isBlank then some (.single (g.stored x)) else none := by
    rw [← hstored]
    rfl
  have hbuild : k.wrap wrapper x = .mk wrapper ([Schema.plainField "value" 1 k].filterMap fun f =>
      (f.filled? (.single x)).bind fun c => some ("value", c)) := rfl
  rw [hbuild, List.filterMap_cons, hfilled]
  cases (g.stored x).isBlank <;> rfl

theorem Scalar.isZero_wrap (h : g.type = .scalar k) (hx : k.admits x = true) (hpositive : (g.stored x).HasPositiveZero)
    (wrapper : String) : (Datum.message (k.wrap wrapper x)).isZero = (g.stored x).isZero := by
  rw [isZero_eq_isBlank (Field.admits_stored hx) hpositive, wrap_eq h]
  cases hb : (g.stored x).isBlank <;> rfl

theorem Scalar.unwrapped_wrap (h : g.type = .scalar k) (hx : k.admits x = true)
    (hpositive : (g.stored x).HasPositiveZero) (hw : Schema.wrapped? wrapper = some k) :
    (Datum.message (k.wrap wrapper x)).unwrapped = g.stored x := by
  rw [wrap_eq h]
  cases hb : (g.stored x).isBlank with
  | false => rfl
  | true =>
    rw [eq_zero_of_isBlank (Field.admits_stored hx) hpositive hb]
    show ((Schema.wrapped? wrapper).map (·.zero)).getD _ = k.zero
    rw [hw]
    rfl

/-! ## Tasks -/

/-- Typed rules are for values of a scalar type, and there are no expressions. -/
structure FieldConstraints.IsFor (c : FieldConstraints) (k : Scalar) : Prop where
  kind : ∀ r, c.typed = some r → r.kind = k.name
  custom : c.custom = []

theorem FieldConstraints.tasks_unwraps {s : Schema} {c : FieldConstraints} {place place' : String}
    (h : g.type = .scalar k) (hw : Schema.wrapped? wrapper = some k) (hc : c.IsFor k) (hx : k.admits x = true)
    (hpositive : (g.stored x).HasPositiveZero) (path : Path) (forKey : Bool) :
    (c.forValue s place (.message wrapper)).tasks (.message (k.wrap wrapper x)) path forKey =
      (c.forValue s place' (.scalar k)).tasks (g.stored x) path forKey := by
  have hstandard : c.standard s place (.message wrapper) = c.standard s place' (.scalar k) :=
    c.standard_elsewhere place' (FieldType.unwrapped_wrapper hw)
  have houter : Compile.nested? (.message wrapper) c = none := by simp [Compile.nested?, Schema.isOpaque_wrapper hw]
  have hinner : Compile.nested? (.scalar k) c = none := rfl
  simp only [ValueRules.tasks, forValue, hstandard, hc.custom, houter, hinner, Scalar.isZero_wrap h hx hpositive,
    innerTasks, List.filterMap_nil]
  -- Without typed rules there is nothing to check; with them, the rules are for what is wrapped.
  cases ht : c.typed with
  | none =>
    have hnone : c.standard s place' (.scalar k) = [] := by
      rw [standard, ht]
      rfl
    simp only [hnone, List.isEmpty_nil, Bool.and_self, if_true]
  | some r =>
    have hscalar : Compile.applies? r.kind (.scalar k) = some false := by simp [Compile.applies?, hc.kind r ht]
    simp only [Option.bind_some, Compile.applies?_wrapper hw, hscalar, Option.map_some, Option.getD_some, if_true,
      Bool.false_eq_true, if_false, Scalar.unwrapped_wrap h hx hpositive hw]

end

/-- What a field is asked for is told by what the message holds in it. -/
theorem FieldRules.tasks_congr {r : FieldRules} {m n : Message} (h : n.content? r.field.name = m.content? r.field.name)
    (path : Path) : r.tasks m path = r.tasks n path := by
  have hsingle : m.single? r.field.name = n.single? r.field.name := by rw [Message.single?, Message.single?, h]
  have helements : m.elements r.field.name = n.elements r.field.name := by rw [Message.elements, Message.elements, h]
  have hentries : m.entries r.field.name = n.entries r.field.name := by rw [Message.entries, Message.entries, h]
  have hvalue : r.field.valueIn m = r.field.valueIn n := by rw [Field.valueIn, Field.valueIn, hsingle]
  have hset : r.field.isSetIn m = r.field.isSetIn n := by
    simp only [Field.isSetIn, Field.differsIn, hvalue, hsingle, helements, hentries]
  have hheld (path : Path) : r.heldTasks m path = r.heldTasks n path := by
    simp only [heldTasks, hvalue, helements, hentries]
  simp only [tasks, hset, hheld]

/-- One message holds a wrapper in a field where the other one holds the value in it, or neither holds anything there.
They hold the same in all other fields. -/
structure Message.Unwraps (n m : Message) (g f : Field) (wrapper : String) (k : Scalar) : Prop where
  others : ∀ name, name ≠ f.name → n.content? name = m.content? name
  held : (m.content? f.name = none ∧ n.content? g.name = none) ∨
    ∃ x, k.admits x = true ∧ (g.stored x).HasPositiveZero ∧
      m.content? f.name = f.filled? (.single (.message (k.wrap wrapper x))) ∧
      n.content? g.name = g.filled? (.single x)

section
variable {s : Schema} {t u : MessageType} {f g : Field} {wrapper : String} {k : Scalar} {m n : Message}

theorem Field.Unwraps.tasks_eq (h : g.Unwraps f wrapper k) (hc : (f.constraints.getD {}).IsFor k)
    (hm : n.Unwraps m g f wrapper k) (path : Path) : (f.rules s t).tasks m path = (g.rules s u).tasks n path := by
  have houter : f.hasPresence = true := f.presence wrapper h.outer.1 h.outer.2
  rcases hm.held with ⟨hm, hn⟩ | ⟨x, hx, hpositive, hm, hn⟩
  · have hunset : f.isSetIn m = false := by simp [Field.isSetIn, h.outer.2, houter, Message.single?, hm]
    have hunset' : g.isSetIn n = false := by simp [Field.isSetIn, h.inner.2, h.presence, Message.single?, hn]
    have hpresence : (f.rules s t).hasPresence = true := by
      simp [FieldRules.hasPresence, f.rules_field, Field.isRepeated, h.outer.2, houter]
    have hpresence' : (g.rules s u).hasPresence = true := by
      simp [FieldRules.hasPresence, g.rules_field, Field.isRepeated, h.inner.2, h.presence]
    simp only [FieldRules.tasks, rules_field, rules_required, hunset, hunset', hpresence, hpresence', h.name,
      h.constraints, Bool.false_eq_true, if_false, Bool.true_or, if_true]
  · have hset : f.isSetIn m = true := by
      simp [Field.isSetIn, h.outer.2, houter, Message.single?, hm, Field.filled?]
    have hset' : g.isSetIn n = true := by
      simp [Field.isSetIn, h.inner.2, h.presence, Message.single?, hn, Field.filled?]
    have hvalue : f.valueIn m = .message (k.wrap wrapper x) := by
      simp [Field.valueIn, Message.single?, hm, Field.filled?, houter, Field.stored, h.outer.1]
    have hvalue' : g.valueIn n = g.stored x := by
      simp [Field.valueIn, Message.single?, hn, Field.filled?, h.presence]
    simp only [FieldRules.tasks, FieldRules.heldTasks, rules_field, hset, hset', if_true, h.name, h.outer.2, h.inner.2,
      hvalue, hvalue']
    simp only [rules, h.outer, h.inner, h.constraints]
    exact FieldConstraints.tasks_unwraps h.inner.1 h.wraps hc hx hpositive _ false

end

/-! ## Messages -/

section
variable {s : Schema} {t u : MessageType} {f g : Field} {wrapper : String} {k : Scalar} {m n : Message}

namespace MessageType

theorem oneofRules_eq (t : MessageType) : Compile.oneofRules t =
    (t.groups.filter fun o => o.constraints.any (·.required)).map fun o => ⟨o.name, true⟩ := by
  unfold Compile.oneofRules groups
  rw [List.filter_filter]
  simp only [Bool.and_comm]

theorem Unwraps.chosen_eq (h : u.Unwraps t g f wrapper k) (hm : n.Unwraps m g f wrapper k) {o : Oneof}
    (ho : o ∈ t.groups) : (u.chosen? o.name n) = t.chosen? o.name m := by
  obtain ⟨before, rest, ht, hu, hothers⟩ := h.fields
  obtain ⟨houter, hinner⟩ := h.alone o ho
  have hmembers : u.fields.filter (·.oneof == some o.name) = (before ++ rest).filter (·.oneof == some o.name) := by
    rw [hu, List.filter_append, List.filter_append, List.filter_cons_of_neg (by simpa using hinner)]
  have hmembers' : t.fields.filter (·.oneof == some o.name) = (before ++ rest).filter (·.oneof == some o.name) := by
    rw [ht, List.filter_append, List.filter_append, List.filter_cons_of_neg (by simpa using houter)]
  unfold chosen?
  rw [hmembers, hmembers']
  refine congrArg _ (List.find?_congr fun other hother => ?_)
  rw [Message.isSet, Message.isSet, hm.others other.name (hothers other (List.mem_of_mem_filter hother))]

theorem Unwraps.rules_eq (h : u.Unwraps t g f wrapper k) : (u.rules s).rules = (t.rules s).rules := by
  unfold rules
  rw [h.constraints]
  split <;> rfl

/-- Both messages are asked for the same, but for what is asked of them as a whole. -/
theorem Unwraps.members_eq (h : u.Unwraps t g f wrapper k) (hc : (f.constraints.getD {}).IsFor k)
    (hm : n.Unwraps m g f wrapper k) (path : Path) :
    (t.rules s).fields.flatMap (·.tasks m path) ++ (t.rules s).oneofs.flatMap (·.tasks t m path) =
      (u.rules s).fields.flatMap (·.tasks n path) ++ (u.rules s).oneofs.flatMap (·.tasks u n path) := by
  by_cases hd : t.constraints.any (·.disabled) = true
  · rw [rules, rules, h.constraints, if_pos hd, if_pos hd]
    rfl
  · obtain ⟨before, rest, ht, hu, hothers⟩ := h.fields
    rw [List.forall_mem_append] at hothers
    have hother {other : Field} (hne : other.name ≠ f.name) :
        (other.rules s t).tasks m path = (other.rules s u).tasks n path := by
      have hkind : (other.rules s t).tasks m path = (other.rules s u).tasks m path := by
        rw [other.rules_elsewhere t u]
        rfl
      rw [hkind]
      exact FieldRules.tasks_congr (by rw [other.rules_field, hm.others other.name hne]) path
    have hfields {fs : List Field} (hne : ∀ other ∈ fs, other.name ≠ f.name) :
        fs.flatMap (fun f => (f.rules s t).tasks m path) = fs.flatMap fun f => (f.rules s u).tasks n path :=
      List.flatMap_congr fun other ho => hother (hne other ho)
    have honeofs : (Compile.oneofRules t).flatMap (·.tasks t m path) =
        (Compile.oneofRules u).flatMap (·.tasks u n path) := by
      rw [t.oneofRules_eq, u.oneofRules_eq, h.groups, List.flatMap_map, List.flatMap_map]
      refine List.flatMap_congr fun o ho => ?_
      simp only [OneofRule.tasks, h.chosen_eq hm (List.mem_of_mem_filter ho)]
    have hfield : (f.rules s t).tasks m path = (g.rules s u).tasks n path := h.field.tasks_eq hc hm path
    rw [rules, rules, h.constraints, if_neg hd, if_neg hd]
    simp only [List.flatMap_map, ht, hu, List.flatMap_append, List.flatMap_cons, hfields hothers.1, hfields hothers.2,
      honeofs, hfield]

end MessageType

end

/-- Checks that tell no difference between two values make the same events of both. -/
theorem checkTasks_events_congr {c : WalkContext} {inside : String → Message → Path → List Event} {v w : Value}
    {checks : List Check} (h : ∀ check ∈ checks, check.run c.schema v c.now = check.run c.schema w c.now) (path : Path)
    (forKey : Bool) : (checkTasks (.ok v) path forKey checks).flatMap (Task.events c inside) =
      (checkTasks (.ok w) path forKey checks).flatMap (Task.events c inside) := by
  simp only [checkTasks, List.flatMap_map]
  refine List.flatMap_congr fun check hcheck => ?_
  simp only [Task.events, Demand.events, Demand.result, h check hcheck]

end Conformance
