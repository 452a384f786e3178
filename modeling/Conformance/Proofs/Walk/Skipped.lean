import Conformance.Proofs.Validation.History
import Conformance.Proofs.Walk.Inner

/-!
# Skipped fields

A field is passed over in a walk if no type comes after it in the graph of types. Of a field that is marked as skipped
this is so for single values; of a collection the mark is not read, and it is so only if the constraints of the elements
are marked themselves.
-/

namespace Conformance

/-! ## Fields that no walk goes into -/

namespace FieldRules

variable {r : FieldRules}

theorem nested_eq_none (h : r.dependencies = []) : r.value.nested = none ∧
    (∀ v, r.items = some v → v.nested = none) ∧ (∀ v, r.keys = some v → v.nested = none) ∧
      ∀ v, r.values = some v → v.nested = none := by
  simp only [dependencies, List.filterMap_eq_nil_iff] at h
  refine ⟨h _ (by simp), fun v hv => h v ?_, fun v hv => h v ?_, fun v hv => h v ?_⟩ <;> simp [hv]

end FieldRules

namespace Walk

variable {c : WalkContext} (descend descend' : Descent)

theorem visitValue_of_nested {r : ValueRules} (h : r.nested = none) (d : Datum) (path : Path) (forKey : Bool) :
    visitValue c descend r d path forKey = visitValue c descend' r d path forKey := by
  have hinner : ∀ descend : Descent, visitInner descend r.nested d path = pure () := by
    intro descend
    rw [h]
    rfl
  simp only [visitValue, hinner]

theorem visitItems_of_nested {r : ValueRules} (h : r.nested = none) (path : Path) : ∀ (i : Nat) (ds : List Datum),
    visitItems c descend r path i ds = visitItems c descend' r path i ds
  | _, [] => rfl
  | i, d :: ds => by
    rw [visitItems, visitItems, visitValue_of_nested descend descend' h, visitItems_of_nested h path (i + 1) ds]

theorem visitEntries_of_nested {keys values : ValueRules} (hk : keys.nested = none) (hv : values.nested = none)
    (path : Path) : ∀ es : List (Datum × Datum),
      visitEntries c descend keys values path es = visitEntries c descend' keys values path es
  | [] => rfl
  | (k, v) :: es => by
    simp only [visitEntries, visitValue_of_nested descend descend' hk, visitValue_of_nested descend descend' hv,
      visitEntries_of_nested hk hv path es]

/-- A field without dependencies is visited alike, however a walk goes on inside of messages. -/
theorem visitField_of_dependencies {r : FieldRules} (h : r.dependencies = []) (m : Message) (path : Path) :
    visitField c descend m path r = visitField c descend' m path r := by
  obtain ⟨hvalue, hitems, hkeys, hvalues⟩ := FieldRules.nested_eq_none h
  have hheld (path : Path) : visitHeld c descend m path r = visitHeld c descend' m path r := by
    unfold visitHeld
    cases r.field.shape with
    | singular => exact visitValue_of_nested descend descend' hvalue _ _ _
    | «repeated» =>
      cases hi : r.items with
      | none => rfl
      | some items => simp only [visitItems_of_nested descend descend' (hitems items hi)]
    | map key =>
      cases hk : r.keys with
      | none => rfl
      | some keys =>
        cases hv : r.values with
        | none => rfl
        | some values =>
          simp only [visitEntries_of_nested descend descend' (hkeys keys hk) (hvalues values hv)]
  simp only [visitField, hheld]

end Walk

/-! ## The mark -/

namespace Field

/-- The constraints of the single values that a field holds: its own, or those of its elements or values. -/
def memberConstraints (f : Field) : FieldConstraints :=
  let c := f.constraints.getD {}
  match f.shape with
  | .singular => c
  | .repeated => c.items.getD {}
  | .map _ => c.values.getD {}

def isSkipped (f : Field) : Bool := (f.constraints.getD {}).skipped

def unskipped (f : Field) : Field := { f with constraints := some { f.constraints.getD {} with skipped := false } }

/-- The field holds no messages to go into, or it is a single value, or its members are marked on their own. -/
def IsPassedOver (f : Field) : Prop :=
  f.shape = .singular ∨ f.memberConstraints.skipped = true ∨ ∀ name, f.type = .message name → Schema.isOpaque name = true

variable {s : Schema} {t : MessageType} {f : Field}

/-- A field depends on the type of its values, if that is one to go into and they are not skipped. -/
theorem dependencies_rules : (f.rules s t).dependencies = (Compile.nested? f.type f.memberConstraints).toList := by
  unfold rules memberConstraints FieldRules.dependencies
  have hkey (key : Scalar) (c : FieldConstraints) : Compile.nested? (.scalar key) c = none := rfl
  cases f.shape <;> simp [FieldConstraints.forValue, FieldConstraints.forWhole, hkey, Option.toList] <;>
    split <;> simp_all

theorem nested?_memberConstraints (hs : f.isSkipped = true) :
    Compile.nested? f.type f.memberConstraints = none ↔ f.IsPassedOver := by
  have hsingular : f.shape = .singular → f.memberConstraints.skipped = true := by
    intro hshape
    simpa only [memberConstraints, hshape, isSkipped] using hs
  rw [Option.eq_none_iff_forall_ne_some]
  simp only [ne_eq, nested?_eq_some]
  constructor
  · intro h
    by_cases hm : f.memberConstraints.skipped = true
    · exact .inr (.inl hm)
    · refine .inr (.inr fun name ht => ?_)
      simpa [ht, hm] using h name
  · rintro h name ⟨ht, ho, hm⟩
    rcases h with h | h | h
    · simp [hsingular h] at hm
    · simp [h] at hm
    · simp [h name ht] at ho

theorem rules_unskipped (hs : f.shape ≠ .singular) : (f.rules s t).value = (f.unskipped.rules s t).value ∧
    (f.rules s t).items = (f.unskipped.rules s t).items ∧ (f.rules s t).keys = (f.unskipped.rules s t).keys ∧
      (f.rules s t).values = (f.unskipped.rules s t).values := by
  obtain ⟨name, number, type, shape, oneof, optional, hasPresence, default, constraints, presence⟩ := f
  cases shape with
  | singular => exact absurd rfl hs
  | «repeated» => exact ⟨rfl, rfl, rfl, rfl⟩
  | map key => exact ⟨rfl, rfl, rfl, rfl⟩

end Field

/-- A field that is marked as skipped is passed over just if it holds a single value, its members are marked on their own,
or they are no messages to go into: then nothing depends on what would be found inside. Else it is a collection, and its
rules are those without the mark. -/
theorem MessageType.skipped_fields {s : Schema} {t : MessageType} {rules : TypeRules}
    (h : (t.compile s).outcome = .ok rules) {r : FieldRules} (hr : r ∈ rules.fields) (hs : r.field.isSkipped = true) :
    (r.dependencies = [] ↔ r.field.IsPassedOver) ∧
    (r.field.IsPassedOver → ∀ c descend descend' m path,
      Walk.visitField c descend m path r = Walk.visitField c descend' m path r) ∧
    (¬r.field.IsPassedOver → ∃ name, r.field.type = .message name ∧ r.dependencies = [name] ∧
      let unmarked := r.field.unskipped.rules s t
      r.value = unmarked.value ∧ r.items = unmarked.items ∧ r.keys = unmarked.keys ∧ r.values = unmarked.values) := by
  obtain rfl := compile_eq_rules h
  unfold MessageType.rules at hr
  split at hr
  · cases hr
  · obtain ⟨f, -, rfl⟩ := List.mem_map.1 hr
    rw [f.rules_field] at hs ⊢
    have hdependencies : (f.rules s t).dependencies = [] ↔ f.IsPassedOver := by
      rw [Field.dependencies_rules, Option.toList_eq_nil_iff, Field.nested?_memberConstraints hs]
    refine ⟨hdependencies, fun hp c descend descend' m path => ?_, fun hp => ?_⟩
    · exact Walk.visitField_of_dependencies descend descend' (hdependencies.2 hp) m path
    · have hnested := mt (Field.nested?_memberConstraints hs).1 hp
      obtain ⟨name, hname⟩ := Option.ne_none_iff_exists'.1 hnested
      refine ⟨name, (nested?_eq_some.1 hname).1, ?_, Field.rules_unskipped fun hshape => hp (.inl hshape)⟩
      rw [Field.dependencies_rules, hname]
      rfl

/-! ## A collection that is marked -/

namespace Sample

def node : MessageType := { name := "Node", fields := [requiredText "x" 1], oneofs := [], constraints := none }

def skippedNodes : Field :=
  { name := "nodes", number := 1, type := .message "Node", shape := .repeated, oneof := none, optional := false,
    hasPresence := false, default := .message (.unset "Node"), constraints := some { skipped := true },
    presence := fun _ _ h => by cases h }

def holder : MessageType := { name := "Holder", fields := [skippedNodes], oneofs := [], constraints := none }

def holding : Schema := ⟨[holder, node], []⟩

theorem compile_holder : holder.compile holding = ⟨.ok (holder.rules holding), []⟩ := rfl

theorem resolve_holder (age : Nat) : ({} : Resolver).resolve holding age "Holder" =
    ⟨.ok (holder.rules holding), some (.type "Holder" 0),
      ⟨[("Holder", ⟨.ok (holder.rules holding), .type "Holder" 0⟩),
        ("Node", ⟨.ok (node.rules holding), .type "Node" 0⟩)], 1⟩, []⟩ := by
  have hnode : node.compile holding = ⟨.ok (node.rules holding), []⟩ := rfl
  unfold Resolver.resolve
  simp only [List.lookup_nil]
  rw [Building.complete_new rfl rfl rfl compile_holder,
    show (holder.rules holding).dependencies ++ [] = ["Node"] from rfl, Building.complete_new rfl rfl rfl hnode,
    show (node.rules holding).dependencies ++ [] = [] from rfl, Building.complete]
  rfl

end Sample

theorem MessageType.skipped_fields_of_holder : Sample.skippedNodes.isSkipped = true ∧
    ¬Sample.skippedNodes.IsPassedOver ∧ (Sample.skippedNodes.rules Sample.holding Sample.holder).dependencies ≠ [] := by
  have h := skipped_fields (congrArg Compilation.outcome Sample.compile_holder)
    (r := Sample.skippedNodes.rules Sample.holding Sample.holder) List.mem_cons_self rfl
  have hd : (Sample.skippedNodes.rules Sample.holding Sample.holder).dependencies ≠ [] := List.cons_ne_nil _ _
  exact ⟨rfl, mt h.1.2 hd, hd⟩

namespace Workspace

/-- The nodes of a holder are validated although the field is marked. -/
theorem evaluate_skippedNodes :
    Sample.skippedNodes.isSkipped = true ∧ (Sample.holder.rules Sample.holding).dependencies = ["Node"] ∧
      ((evaluate 0 32 false .none (.mk "Holder" [("nodes", .repeated [.message (.unset "Node")])])).run
        (start Sample.holding {})).1 =
          .ok [⟨[.field "nodes", .index 0, .field "x"], "required", "value is required", .standard, false⟩] := by
  refine ⟨rfl, rfl, ?_⟩
  rw [evaluate_run, resolveIn_start (Message.mk "Holder" _).type (Sample.resolve_holder 0)]
  rfl

end Workspace
end Conformance
