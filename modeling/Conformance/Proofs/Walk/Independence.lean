import Conformance.Proofs.Constraint.Accepted
import Conformance.Proofs.Validation.History

/-!
# Typed rules and expressions side by side

A value is bound once for its typed rules and for the expressions that are declared with them. So what is recorded under
both is what is recorded under the typed rules and then what is recorded under the expressions, where these see what the
typed rules are for: of a wrapper, the value that it wraps. On their own expressions see the wrapper.
-/

namespace Conformance

/-! ## Constraints apart -/

namespace FieldConstraints

/-- The typed rules without the expressions. -/
def typedAlone (c : FieldConstraints) : FieldConstraints := { c with custom := [] }

/-- The expressions without the typed rules, to which the rules of elements, keys and values belong. -/
def customAlone (c : FieldConstraints) : FieldConstraints :=
  { c with typed := none, items := none, keys := none, values := none }

/-- The typed rules are for what values of a type wrap. -/
def Unwraps (c : FieldConstraints) (type : FieldType) : Prop :=
  ∃ t name w, c.typed = some t ∧ type = .message name ∧ Schema.wrapped? name = some w ∧ t.kind = w.name

end FieldConstraints

/-- The field with other constraints. -/
def Field.declaring (f : Field) (c : FieldConstraints) : Field := { f with constraints := some c }

/-- The rules of a collection as a whole, or of a single value, without those of elements, keys and values. -/
def FieldRules.whole (r : FieldRules) : FieldRules := { r with items := none, keys := none, values := none }

/-- The rules for what a value wraps, if they are to be. -/
def ValueRules.unwrapping (r : ValueRules) (isWrapper : Bool) : ValueRules := { r with isWrapper }

def FieldRules.unwrapping (r : FieldRules) (isWrapper : Bool) : FieldRules :=
  { r with value := r.value.unwrapping isWrapper }

/-! ## What is recorded -/

namespace Walk

/-- A walk that leaves the messages inside of values aside. -/
def leave : Descent := fun _ _ _ => pure ()

/-- A walk goes through, and these violations are recorded on the way. -/
def Records (x : Walk Unit) (vs : List Violation) : Prop :=
  ∀ s, StateT.run (ExceptT.run x) s = (.ok (), { s with violations := s.violations ++ vs })

variable {c : WalkContext} {vs ws : List Violation}

theorem records_pure : Records (pure ()) vs ↔ vs = [] := by
  constructor
  · intro h
    have hrun : ((.ok (), {}) : Except Interrupt Unit × WalkState) = (.ok (), { violations := [] ++ vs }) := h {}
    simpa [eq_comm] using hrun
  · rintro rfl s
    rw [List.append_nil]
    rfl

theorem records_bind {x y : Walk Unit} (hx : Records x vs) (hy : Records y ws) :
    Records (x >>= fun _ => y) (vs ++ ws) := by
  intro s
  rw [ExceptT.run_bind, StateT.run_bind, hx s, ← List.append_assoc]
  exact hy { s with violations := s.violations ++ vs }

theorem not_records_fault {α : Type} {f : Fault} {rest : α → Walk Unit} : ¬Records (lift (.error f) >>= rest) vs := by
  intro h
  cases h {}

theorem runChecks_append (v : Value) (path : Path) (forKey : Bool) (cs ds : List Check) :
    runChecks c v path forKey (cs ++ ds) = runChecks c v path forKey cs >>= fun _ => runChecks c v path forKey ds := by
  induction cs with
  | nil => simp [runChecks]
  | cons check cs ih => simp only [List.cons_append, runChecks, ih, bind_assoc]

/-- The checks of two lists are made of one value, which is bound once for both. -/
theorem records_checks {α : Type} {x : Except Fault α} {make : α → Value} {path : Path} {forKey : Bool}
    {cs ds : List Check} (hc : Records (lift x >>= fun a => runChecks c (make a) path forKey cs) vs)
    (hd : Records (lift x >>= fun a => runChecks c (make a) path forKey ds) ws) :
    Records (lift x >>= fun a => runChecks c (make a) path forKey (cs ++ ds)) (vs ++ ws) := by
  cases x with
  | error f => exact absurd hc not_records_fault
  | ok a =>
    have hboth : Records (runChecks c (make a) path forKey cs >>= fun _ => runChecks c (make a) path forKey ds)
        (vs ++ ws) := records_bind hc hd
    rwa [← runChecks_append] at hboth

/-- Of a value on its own there is only what its checks come to; without any it is not bound. -/
theorem visitValue_leave (r : ValueRules) (d : Datum) (path : Path) (forKey : Bool) :
    visitValue c leave r d path forKey =
      if (r.ignoreEmpty && d.isZero) || (r.standard.isEmpty && r.custom.isEmpty) then pure ()
      else lift (if r.isWrapper then d.unwrapped else d).bound >>= fun v =>
        runChecks c v path forKey (r.standard ++ r.custom) := by
  have hinner : visitInner leave r.nested d path = pure () := by
    unfold visitInner
    split <;> rfl
  unfold visitValue
  rw [hinner]
  cases r.ignoreEmpty && d.isZero
  · cases r.standard.isEmpty && r.custom.isEmpty
    · simp
    · simp
  · simp

end Walk

/-! ## Rules that join others -/

/-- The first rules have the typed checks of the second ones and the expressions of the third ones, and are else like both. -/
structure ValueRules.Joins (r r₁ r₂ : ValueRules) : Prop where
  typed : r₁.standard = r.standard ∧ r₁.custom = []
  custom : r₂.standard = [] ∧ r₂.custom = r.custom
  ignoreEmpty : r₁.ignoreEmpty = r.ignoreEmpty ∧ r₂.ignoreEmpty = r.ignoreEmpty
  isWrapper : r₁.isWrapper = r.isWrapper ∧ r₂.isWrapper = r.isWrapper

namespace ValueRules.Joins

open Walk

variable {r r₁ r₂ : ValueRules} {c : WalkContext} {vs₁ vs₂ : List Violation}

theorem records (h : r.Joins r₁ r₂) {d : Datum} {path : Path} {forKey : Bool}
    (h₁ : Records (visitValue c leave r₁ d path forKey) vs₁) (h₂ : Records (visitValue c leave r₂ d path forKey) vs₂) :
    Records (visitValue c leave r d path forKey) (vs₁ ++ vs₂) := by
  rw [visitValue_leave] at h₁ h₂ ⊢
  rw [h.typed.1, h.typed.2, h.ignoreEmpty.1, h.isWrapper.1, List.append_nil] at h₁
  rw [h.custom.1, h.custom.2, h.ignoreEmpty.2, h.isWrapper.2, List.nil_append] at h₂
  cases hzero : r.ignoreEmpty && d.isZero
  · cases hs : r.standard with
    | nil =>
      rw [hs] at h₁
      obtain rfl : vs₁ = [] := records_pure.1 (by simpa using h₁)
      simpa [hzero] using h₂
    | cons check checks =>
      cases hcustom : r.custom with
      | nil =>
        rw [hcustom] at h₂
        obtain rfl : vs₂ = [] := records_pure.1 (by simpa using h₂)
        simpa [hzero, hs] using h₁
      | cons own owns =>
        rw [hzero, hs] at h₁
        rw [hzero, hcustom] at h₂
        exact @records_checks c vs₁ vs₂ Value _ id path forKey _ _ h₁ h₂
  · simp only [hzero, Bool.true_or, if_true, records_pure] at h₁ h₂ ⊢
    rw [h₁, h₂, List.append_nil]

end ValueRules.Joins

/-! ## Compilation -/

namespace Compile

variable {s : Schema} {place : String} {type : FieldType} {c : FieldConstraints}

theorem applies?_eq_true {kind : String} : applies? kind type = some true ↔
    ∃ name w, type = .message name ∧ Schema.wrapped? name = some w ∧ kind = w.name := by
  constructor
  · intro h
    unfold applies? at h
    split at h
    · split at h <;> cases h
    · split at h <;> cases h
    · next name =>
      split at h
      · next hw =>
        obtain ⟨w, hw, hk⟩ := (Option.any_eq_true _ _).1 hw
        exact ⟨name, w, rfl, hw, (beq_iff_eq.1 hk).symm⟩
      · split at h <;> cases h
  · rintro ⟨name, w, rfl, hw, rfl⟩
    simp only [applies?, hw, Option.any_some, beq_self_eq_true, if_true]

/-- Typed rules and expressions that compile apart compile together. -/
theorem valueRules_joins {r₁ r₂ : ValueRules} (h₁ : (valueRules s place type c.typedAlone).outcome = .ok r₁)
    (h₂ : (valueRules s place type c.customAlone).outcome = .ok r₂) :
    ∃ r, (valueRules s place type c).outcome = .ok r ∧ r₂.isWrapper = false ∧
      (r₁.isWrapper = true ↔ c.Unwraps type) ∧ r.Joins r₁ (r₂.unwrapping r₁.isWrapper) := by
  obtain ⟨checks, hchecks, none₁, hnone₁, rfl⟩ := valueRules_eq_ok.1 h₁
  obtain ⟨none₂, hnone₂, customs, hcustoms, rfl⟩ := valueRules_eq_ok.1 h₂
  obtain rfl : none₁ = [] := outcome_pure_eq_ok.1 hnone₁
  obtain rfl : none₂ = ([], false) := outcome_pure_eq_ok.1 hnone₂
  have hboth : (valueRules s place type c).outcome = _ :=
    valueRules_eq_ok.2 ⟨checks, hchecks, customs, hcustoms, rfl⟩
  refine ⟨_, hboth, rfl, ?_, ⟨rfl, rfl⟩, ⟨rfl, rfl⟩, ⟨rfl, rfl⟩, ⟨rfl, rfl⟩⟩
  obtain rfl := valueChecks_eq hchecks
  unfold FieldConstraints.Unwraps
  rw [show c.typedAlone.typed = c.typed from rfl]
  cases c.typed with
  | none => simp
  | some t =>
    cases ha : applies? t.kind type with
    | none =>
      have hno := mt applies?_eq_true.2 (by rw [ha]; simp)
      simpa [ha] using hno
    | some isWrapper =>
      have hiff : applies? t.kind type = some true ↔ _ := applies?_eq_true
      simpa [ha] using hiff

theorem elementRules_joins {r₁ r₂ : ValueRules} (h₁ : (elementRules s place type (some c.typedAlone)).outcome = .ok r₁)
    (h₂ : (elementRules s place type (some c.customAlone)).outcome = .ok r₂) :
    ∃ r, (elementRules s place type (some c)).outcome = .ok r ∧ r₂.isWrapper = false ∧
      (r₁.isWrapper = true ↔ c.Unwraps type) ∧ r.Joins r₁ (r₂.unwrapping r₁.isWrapper) := by
  obtain ⟨hrequired, h₁⟩ := elementRules_eq_ok.1 h₁
  obtain ⟨-, h₂⟩ := elementRules_eq_ok.1 h₂
  obtain ⟨r, hr, hjoins⟩ := valueRules_joins h₁ h₂
  exact ⟨r, elementRules_eq_ok.2 ⟨hrequired, hr⟩, hjoins⟩

/-- Rules for collections are none for what values wrap. -/
theorem not_unwraps_of_collection {kind : String} {problem : String → SchemaProblem} {u : Unit}
    (hk : kind = "repeated" ∨ kind = "map") (h : (onlyOfKind place kind problem c.typedAlone).outcome = .ok u) :
    ¬c.Unwraps type := by
  rintro ⟨t, name, w, ht, -, -, hw⟩
  have hname : w.name ≠ "repeated" ∧ w.name ≠ "map" := by cases w <;> decide
  have hkind : t.kind = kind := onlyOfKind_ok_iff.1 ⟨u, h⟩ t ht
  rw [← hw, hkind] at hname
  exact hk.elim hname.1 hname.2

theorem collectionRules_joins {kind : Kind} {r₁ r₂ : ValueRules} (hno : ¬c.Unwraps type)
    (h₁ : (collectionRules s place kind type c.typedAlone).outcome = .ok r₁)
    (h₂ : (collectionRules s place kind type c.customAlone).outcome = .ok r₂) :
    ∃ r, (collectionRules s place kind type c).outcome = .ok r ∧ r₂.isWrapper = false ∧
      (r₁.isWrapper = true ↔ c.Unwraps type) ∧ r.Joins r₁ (r₂.unwrapping r₁.isWrapper) := by
  obtain ⟨checks, hchecks, none₁, hnone₁, rfl⟩ := collectionRules_eq_ok.1 h₁
  obtain ⟨none₂, hnone₂, customs, hcustoms, rfl⟩ := collectionRules_eq_ok.1 h₂
  obtain rfl : none₁ = [] := outcome_pure_eq_ok.1 hnone₁
  obtain rfl : none₂ = [] := outcome_pure_eq_ok.1 hnone₂
  have hboth : (collectionRules s place kind type c).outcome = _ :=
    collectionRules_eq_ok.2 ⟨checks, hchecks, customs, hcustoms, rfl⟩
  exact ⟨_, hboth, rfl, iff_of_false Bool.false_ne_true hno, ⟨rfl, rfl⟩, ⟨rfl, rfl⟩, ⟨rfl, rfl⟩, ⟨rfl, rfl⟩⟩

/-- What holds of single values holds of fields: of the value of a field, or of a collection as a whole. -/
theorem fieldRules_joins {t : MessageType} {f : Field} {r₁ r₂ : FieldRules}
    (h₁ : (fieldRules s t (f.declaring c.typedAlone)).outcome = .ok r₁)
    (h₂ : (fieldRules s t (f.declaring c.customAlone)).outcome = .ok r₂) :
    ∃ r, (fieldRules s t (f.declaring c)).outcome = .ok r ∧ r.field = f.declaring c ∧
      r₁.field = f.declaring c.typedAlone ∧ r₂.field = f.declaring c.customAlone ∧ r₂.value.isWrapper = false ∧
      (r₁.value.isWrapper = true ↔ c.Unwraps f.type) ∧ r.value.Joins r₁.value (r₂.value.unwrapping r₁.value.isWrapper) := by
  cases hs : f.shape with
  | singular =>
    obtain ⟨v₁, hv₁, rfl⟩ := (fieldRules_singular (f := f.declaring c.typedAlone) hs).1 h₁
    obtain ⟨v₂, hv₂, rfl⟩ := (fieldRules_singular (f := f.declaring c.customAlone) hs).1 h₂
    obtain ⟨v, hv, hjoins⟩ := valueRules_joins hv₁ hv₂
    have hboth := (fieldRules_singular (f := f.declaring c) hs).2 ⟨v, hv, rfl⟩
    exact ⟨_, hboth, rfl, rfl, rfl, hjoins⟩
  | «repeated» =>
    obtain ⟨u, hu, v₁, hv₁, items, hitems, rfl⟩ := (fieldRules_repeated (f := f.declaring c.typedAlone) hs).1 h₁
    obtain ⟨_, _, v₂, hv₂, _, _, rfl⟩ := (fieldRules_repeated (f := f.declaring c.customAlone) hs).1 h₂
    have hno : ¬c.Unwraps f.type := not_unwraps_of_collection (.inl rfl) hu
    obtain ⟨v, hv, hjoins⟩ := collectionRules_joins hno hv₁ hv₂
    have hboth := (fieldRules_repeated (f := f.declaring c) hs).2 ⟨u, hu, v, hv, items, hitems, rfl⟩
    exact ⟨_, hboth, rfl, rfl, rfl, hjoins⟩
  | map key =>
    obtain ⟨u, hu, v₁, hv₁, keys, hkeys, values, hvalues, rfl⟩ :=
      (fieldRules_map (f := f.declaring c.typedAlone) hs).1 h₁
    obtain ⟨_, _, v₂, hv₂, _, _, _, _, rfl⟩ := (fieldRules_map (f := f.declaring c.customAlone) hs).1 h₂
    have hno : ¬c.Unwraps f.type := not_unwraps_of_collection (.inr rfl) hu
    obtain ⟨v, hv, hjoins⟩ := collectionRules_joins hno hv₁ hv₂
    have hboth := (fieldRules_map (f := f.declaring c) hs).2 ⟨u, hu, v, hv, keys, hkeys, values, hvalues, rfl⟩
    exact ⟨_, hboth, rfl, rfl, rfl, hjoins⟩

end Compile

/-! ## Fields -/

namespace Walk

variable {c : WalkContext} {vs₁ vs₂ : List Violation}

theorem visitHeld_whole {f : Field} {k : FieldConstraints} {r : FieldRules} (hr : r.field = f.declaring k)
    (descend : Descent) (m : Message) (path : Path) : visitHeld c descend m path r.whole =
      match f.shape with
      | .singular => visitValue c descend r.value (f.valueIn m) path
      | .repeated => lift (boundAll (m.elements f.name)) >>= fun vs =>
          runChecks c (.list vs) path false (r.value.standard ++ r.value.custom)
      | .map _ => lift (boundEntries (m.entries f.name)) >>= fun es =>
          runChecks c (.dict es) path false (r.value.standard ++ r.value.custom) := by
  have hshape : r.field.shape = f.shape := by rw [hr]; rfl
  have hvalue : r.field.valueIn m = f.valueIn m := by rw [hr]; rfl
  have hname : r.field.name = f.name := by rw [hr]; rfl
  simp only [visitHeld, FieldRules.whole, hshape, hvalue, hname]
  cases f.shape <;> simp

/-- Of what a field holds the checks of both are made as the checks of each are. -/
theorem records_whole {f : Field} {k k₁ k₂ : FieldConstraints} {r r₁ r₂ : FieldRules} (hr : r.field = f.declaring k)
    (hr₁ : r₁.field = f.declaring k₁) (hr₂ : r₂.field = f.declaring k₂) (h : r.value.Joins r₁.value r₂.value)
    {m : Message} {path : Path} (h₁ : Records (visitHeld c leave m path r₁.whole) vs₁)
    (h₂ : Records (visitHeld c leave m path r₂.whole) vs₂) :
    Records (visitHeld c leave m path r.whole) (vs₁ ++ vs₂) := by
  rw [visitHeld_whole hr₁] at h₁
  rw [visitHeld_whole hr₂] at h₂
  rw [visitHeld_whole hr]
  cases hs : f.shape with
  | singular =>
    simp only [hs] at h₁ h₂ ⊢
    exact h.records h₁ h₂
  | «repeated» =>
    simp only [hs, h.typed.1, h.typed.2, List.append_nil] at h₁
    simp only [hs, h.custom.1, h.custom.2, List.nil_append] at h₂
    exact records_checks h₁ h₂
  | map key =>
    simp only [hs, h.typed.1, h.typed.2, List.append_nil] at h₁
    simp only [hs, h.custom.1, h.custom.2, List.nil_append] at h₂
    exact records_checks h₁ h₂

end Walk
/-! ## Independence -/

/-- What the first rules record for a value is what the second ones record and then what the third ones record, where
neither of these walks ends early. -/
def ValueRules.RecordsBoth (r r₁ r₂ : ValueRules) : Prop :=
  ∀ (c : WalkContext) (d : Datum) (path : Path) (forKey : Bool) (vs₁ vs₂ : List Violation),
    Walk.Records (Walk.visitValue c Walk.leave r₁ d path forKey) vs₁ →
      Walk.Records (Walk.visitValue c Walk.leave r₂ d path forKey) vs₂ →
        Walk.Records (Walk.visitValue c Walk.leave r d path forKey) (vs₁ ++ vs₂)

/-- The same for what a field holds, a collection as a whole. -/
def FieldRules.RecordsBoth (r r₁ r₂ : FieldRules) : Prop :=
  ∀ (c : WalkContext) (m : Message) (path : Path) (vs₁ vs₂ : List Violation),
    Walk.Records (Walk.visitHeld c Walk.leave m path r₁.whole) vs₁ →
      Walk.Records (Walk.visitHeld c Walk.leave m path r₂.whole) vs₂ →
        Walk.Records (Walk.visitHeld c Walk.leave m path r.whole) (vs₁ ++ vs₂)

namespace Compile

/-- Where the typed rules and the expressions of a field, or of its elements, keys or values, resolve apart, they resolve
together. What is recorded for a value is then what is recorded under the typed rules and what is recorded under the
expressions, unless the typed rules are for what the value wraps: then the expressions see what it wraps, too. -/
theorem checks_independent (s : Schema) (c : FieldConstraints) :
    (∀ (t : MessageType) (f : Field) (r₁ r₂ : FieldRules),
      (fieldRules s t (f.declaring c.typedAlone)).outcome = .ok r₁ →
      (fieldRules s t (f.declaring c.customAlone)).outcome = .ok r₂ →
        ∃ r, (fieldRules s t (f.declaring c)).outcome = .ok r ∧ (¬c.Unwraps f.type → r.RecordsBoth r₁ r₂) ∧
          (c.Unwraps f.type → r.RecordsBoth r₁ (r₂.unwrapping true))) ∧
    ∀ (place : String) (type : FieldType) (r₁ r₂ : ValueRules),
      (elementRules s place type (some c.typedAlone)).outcome = .ok r₁ →
      (elementRules s place type (some c.customAlone)).outcome = .ok r₂ →
        ∃ r, (elementRules s place type (some c)).outcome = .ok r ∧ (¬c.Unwraps type → r.RecordsBoth r₁ r₂) ∧
          (c.Unwraps type → r.RecordsBoth r₁ (r₂.unwrapping true)) := by
  -- Rules that are to see values as they are see them so already.
  have hsame {r : ValueRules} (h : r.isWrapper = false) : r.unwrapping false = r := by rw [← h]; rfl
  constructor
  · intro t f r₁ r₂ h₁ h₂
    obtain ⟨r, hr, hf, hf₁, hf₂, hplain, hiff, hjoins⟩ := fieldRules_joins h₁ h₂
    refine ⟨r, hr, fun hno w m path vs₁ vs₂ hv₁ hv₂ => ?_, fun hyes w m path vs₁ vs₂ hv₁ hv₂ => ?_⟩
    · rw [Bool.not_eq_true _ |>.mp (mt hiff.1 hno), hsame hplain] at hjoins
      exact Walk.records_whole hf hf₁ hf₂ hjoins hv₁ hv₂
    · rw [hiff.2 hyes] at hjoins
      have hunwrapping : (r₂.unwrapping true).field = f.declaring c.customAlone := hf₂
      exact Walk.records_whole hf hf₁ hunwrapping hjoins hv₁ hv₂
  · intro place type r₁ r₂ h₁ h₂
    obtain ⟨r, hr, hplain, hiff, hjoins⟩ := elementRules_joins h₁ h₂
    refine ⟨r, hr, fun hno w d path forKey vs₁ vs₂ hv₁ hv₂ => ?_, fun hyes w d path forKey vs₁ vs₂ hv₁ hv₂ => ?_⟩
    · rw [Bool.not_eq_true _ |>.mp (mt hiff.1 hno), hsame hplain] at hjoins
      exact hjoins.records hv₁ hv₂
    · rw [hiff.2 hyes] at hjoins
      exact hjoins.records hv₁ hv₂

end Compile

/-! ## A number and a wrapped number -/

namespace Sample

/-- Numbers are positive, and expressions see them as they are. -/
def positive (expression : String) : FieldConstraints :=
  { typed := some ⟨"int32", [("gt", .single (.int 0))]⟩, custom := [⟨"fits", "value must fit", expression⟩] }

def number : Field := Schema.plainField "n" 1 .int32

/-- A box of a wrapped number. -/
def boxed : Field :=
  { name := "n", number := 1, type := .message "google.protobuf.Int32Value", shape := .singular, oneof := none,
    optional := false, hasPresence := true, default := .message (.unset "google.protobuf.Int32Value"),
    constraints := none, presence := fun _ _ _ => rfl }

def box (c : FieldConstraints) : MessageType :=
  { name := "Box", fields := [boxed.declaring c], oneofs := [], constraints := none }

def boxes (c : FieldConstraints) : Schema := ⟨[box c], []⟩

/-- A box of five. -/
def boxOfFive : Message :=
  .mk "Box" [("n", .single (.message (.mk "google.protobuf.Int32Value" [("value", .single (.int 5))])))]

/-- No wrapper equals a number. -/
def notFive : FieldConstraints := positive "this != 5"

theorem resolves_boxes {c : FieldConstraints} (h : c ∈ [notFive, notFive.typedAlone, notFive.customAlone]) :
    (boxes c).Resolves "Box" := by
  have hcompiles : ∀ c ∈ [notFive, notFive.typedAlone, notFive.customAlone], ∀ n ∈ ["Box"],
      ((boxes c).compiled n).toOption.isSome = true ∧ ∀ d ∈ ((boxes c).rules n).dependencies, d ∈ ["Box"] := by
    decide +kernel
  exact Schema.resolves_of_all (hcompiles c h) List.mem_cons_self

end Sample

namespace Compile

theorem checks_independent_of_number :
    let c := Sample.positive "this < 10"
    ∃ r₁ r₂ r, (fieldRules ⟨[], []⟩ (.empty "Box") (Sample.number.declaring c)).outcome = .ok r ∧
      (fieldRules ⟨[], []⟩ (.empty "Box") (Sample.number.declaring c.typedAlone)).outcome = .ok r₁ ∧
      (fieldRules ⟨[], []⟩ (.empty "Box") (Sample.number.declaring c.customAlone)).outcome = .ok r₂ ∧
      r.RecordsBoth r₁ r₂ := by
  intro c
  have hresolves : ∀ k ∈ [c.typedAlone, c.customAlone],
      (fieldRules ⟨[], []⟩ (.empty "Box") (Sample.number.declaring k)).outcome.toOption.isSome = true := by
    decide +kernel
  have hok (k : FieldConstraints) (hk : k ∈ [c.typedAlone, c.customAlone]) :
      ∃ r, (fieldRules ⟨[], []⟩ (.empty "Box") (Sample.number.declaring k)).outcome = .ok r := by
    have hsome := hresolves k hk
    generalize (fieldRules ⟨[], []⟩ (.empty "Box") (Sample.number.declaring k)).outcome = outcome at hsome ⊢
    cases outcome with
    | error f => cases hsome
    | ok r => exact ⟨r, rfl⟩
  obtain ⟨r₁, h₁⟩ := hok c.typedAlone (by simp)
  obtain ⟨r₂, h₂⟩ := hok c.customAlone (by simp)
  obtain ⟨r, hr, hboth, -⟩ := (checks_independent ⟨[], []⟩ c).1 _ _ r₁ r₂ h₁ h₂
  refine ⟨r₁, r₂, r, hr, h₁, h₂, hboth ?_⟩
  rintro ⟨_, _, _, -, htype, -⟩
  cases htype

end Compile

namespace Workspace

/-- A box of five is fine under the typed rule alone, and under the expression alone, which is about the wrapper. Under
both the expression is about the number. -/
theorem evaluate_boxOfFive : Sample.notFive.Unwraps Sample.boxed.type ∧
    ((evaluate 0 32 false .none Sample.boxOfFive).run (after (Sample.boxes Sample.notFive.typedAlone) {} [])).1 = .ok [] ∧
    ((evaluate 0 32 false .none Sample.boxOfFive).run (after (Sample.boxes Sample.notFive.customAlone) {} [])).1 =
      .ok [] ∧
    ((evaluate 0 32 false .none Sample.boxOfFive).run (after (Sample.boxes Sample.notFive) {} [])).1 =
      .ok [⟨[.field "n"], "fits", "value must fit", .custom, false⟩] := by
  have hevaluate (c : FieldConstraints) (h : c ∈ [Sample.notFive, Sample.notFive.typedAlone, Sample.notFive.customAlone]) :=
    (faithful_after (Sample.boxes c) {} []).evaluate_of_resolves (m := Sample.boxOfFive) 0 (Sample.resolves_boxes h) 32
      false .none
  refine ⟨⟨_, _, .int32, rfl, rfl, rfl, rfl⟩, ?_, ?_, ?_⟩
  · rw [hevaluate _ (by simp), mapError_eq_ok]
    decide +kernel
  · rw [hevaluate _ (by simp), mapError_eq_ok]
    decide +kernel
  · rw [hevaluate _ (by simp), mapError_eq_ok]
    decide +kernel

end Workspace
end Conformance
