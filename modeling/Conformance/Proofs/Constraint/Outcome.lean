import Conformance.Constraint.Compile

/-!
# Outcomes of compilations

A compilation records the programs that it asks for, but what it gives does not depend on the record. So
compilations can be read as plain sequences of steps that may fail. They fail with refusals or with faults, and
where an expression was refused, its program is on record.
-/

namespace Conformance.Compile

open Rule

/-- What a compilation gives. -/
def outcome {α : Type} (x : Compile α) : Except Failure α := (StateT.run (ExceptT.run x) []).1

/-- How a compilation may fail, with the programs that were asked for until then. -/
def Refuses (f : Failure) (log : List ProgramKey) : Prop :=
  (∃ fault, f = .fault fault) ∨ (∃ e, f = .schema e) ∨ (∃ e, f = .compilation e) ∧ log ≠ []

/-- The programs that were asked for before make no difference; and where an expression is refused, its program
was asked for. -/
structure Steady {α : Type} (x : Compile α) : Prop where
  outcome_eq : ∀ log, (StateT.run (ExceptT.run x) log).1 = x.outcome
  refuses : ∀ log f, (StateT.run (ExceptT.run x) log).1 = .error f → Refuses f (StateT.run (ExceptT.run x) log).2

section
variable {α β : Type}

theorem steady_pure (a : α) : Steady (pure a : Compile α) := ⟨fun _ => rfl, fun _ _ h => by cases h⟩

theorem steady_throw {f : Failure} (hf : ∀ log, Refuses f log) : Steady (throw f : Compile α) := by
  refine ⟨fun _ => rfl, ?_⟩
  intro log g hg
  cases hg
  exact hf log

theorem run_bind (x : Compile α) (f : α → Compile β) (log : List ProgramKey) :
    StateT.run (ExceptT.run (x >>= f)) log =
      match StateT.run (ExceptT.run x) log with
      | (.ok a, log) => StateT.run (ExceptT.run (f a)) log
      | (.error e, log) => (.error e, log) := by
  rw [ExceptT.run_bind, StateT.run_bind]
  generalize StateT.run (ExceptT.run x) log = p
  obtain ⟨(e | a), log⟩ := p <;> rfl

/-- Steps one after the other fail as the first of them that fails. -/
theorem outcome_bind {x : Compile α} {f : α → Compile β} (hf : ∀ a, Steady (f a)) :
    (x >>= f).outcome = x.outcome.bind fun a => (f a).outcome := by
  unfold outcome
  rw [run_bind]
  generalize StateT.run (ExceptT.run x) [] = p
  obtain ⟨(e | a), log⟩ := p
  · rfl
  · exact (hf a).outcome_eq log

theorem outcome_bind_eq_ok {x : Compile α} {f : α → Compile β} (hf : ∀ a, Steady (f a)) {b : β} :
    (x >>= f).outcome = .ok b ↔ ∃ a, x.outcome = .ok a ∧ (f a).outcome = .ok b := by
  rw [outcome_bind hf]
  cases x.outcome <;> simp [Except.bind]

theorem steady_bind {x : Compile α} {f : α → Compile β} (hx : Steady x) (hf : ∀ a, Steady (f a)) :
    Steady (x >>= f) := by
  constructor
  · intro log
    have h := hx.outcome_eq log
    rw [outcome_bind hf, run_bind, ← h]
    generalize StateT.run (ExceptT.run x) log = p
    obtain ⟨(e | a), log⟩ := p
    · rfl
    · exact (hf a).outcome_eq log
  · intro log g
    have h := hx.refuses log
    rw [run_bind]
    generalize StateT.run (ExceptT.run x) log = p at h
    obtain ⟨(e | a), log⟩ := p
    · rintro ⟨⟩
      exact h _ rfl
    · exact (hf a).refuses log g

theorem steady_fault (f : Fault) : Steady (throw (.fault f) : Compile α) := steady_throw fun _ => .inl ⟨f, rfl⟩

theorem steady_lift (x : Except Fault α) : Steady (lift x) := by
  cases x with
  | ok a => exact steady_pure a
  | error f => exact steady_fault f

theorem steady_refuse (place : String) (p : SchemaProblem) : Steady (refuse place p : Compile α) :=
  steady_throw fun _ => .inr (.inl ⟨_, rfl⟩)

theorem steady_mapM {f : α → Compile β} (hf : ∀ a, Steady (f a)) : ∀ as : List α, Steady (as.mapM f)
  | [] => steady_pure []
  | a :: as => by
    rw [List.mapM_cons]
    exact steady_bind (hf a) fun b => steady_bind (steady_mapM hf as) fun bs => steady_pure (b :: bs)

theorem outcome_mapM {f : α → Compile β} (hf : ∀ a, Steady (f a)) : ∀ as : List α,
    (as.mapM f).outcome = as.mapM fun a => (f a).outcome
  | [] => rfl
  | a :: as => by
    rw [List.mapM_cons, List.mapM_cons, outcome_bind fun b => steady_bind (steady_mapM hf as) fun bs => steady_pure _]
    refine congrArg _ (funext fun b => ?_)
    rw [outcome_bind fun bs => steady_pure _, outcome_mapM hf as]
    rfl

end

/-! ## The steps -/

theorem run_program (key : ProgramKey) (log : List ProgramKey) : StateT.run (ExceptT.run (program key)) log =
    ((Program.compile key).mapError Uncompiled.failure, log ++ [key]) := by
  cases h : Program.compile key <;> simp only [program, ProgramSource.compile, h] <;> rfl

theorem outcome_program {key : ProgramKey} {p : Program} :
    (program key).outcome = .ok p ↔ Program.compile key = .ok p := by
  rw [outcome, run_program]
  cases Program.compile key with
  | error e => exact ⟨fun h => (by cases h), fun h => (by cases h)⟩
  | ok q =>
    constructor <;> intro h <;> cases h <;> rfl

theorem steady_program (key : ProgramKey) : Steady (program key) := by
  constructor
  · intro log
    rw [outcome, run_program, run_program]
  · intro log f
    rw [run_program]
    cases Program.compile key with
    | ok p => rintro ⟨⟩
    | error e =>
      rintro ⟨⟩
      cases e with
      | fault f => exact .inl ⟨f, rfl⟩
      | refused e => exact .inr (.inr ⟨⟨e, rfl⟩, by simp⟩)

theorem steady_custom (c : CustomRule) : Steady (custom c) :=
  steady_bind (steady_program _) fun _ => steady_pure _

theorem steady_active (kind : String) : ∀ settings, Steady (active kind settings)
  | [] => steady_pure _
  | (name, content) :: rest => by
    unfold active
    split
    · exact steady_active kind rest
    · refine steady_bind (steady_lift _) fun param => steady_bind (steady_active kind rest) fun more => ?_
      split <;> exact steady_pure _

theorem steady_checkBounds (place kind : String) (rules : List Active) : ∀ bounds,
    Steady (checkBounds place kind rules bounds)
  | [] => steady_pure _
  | (lower, upper) :: rest => by
    unfold checkBounds
    split
    · refine steady_bind (steady_lift _) fun _ => ?_
      split
      · exact steady_bind (steady_lift _) fun low => steady_bind (steady_lift _) fun high =>
          steady_refuse place _
      · exact steady_checkBounds place kind rules rest
    · exact steady_checkBounds place kind rules rest

theorem steady_standardCheck (s : Schema) (place : String) (type : FieldType) (a : Active) :
    Steady (standardCheck s place type a) := by
  unfold standardCheck
  refine steady_bind (steady_lift _) fun param => ?_
  dsimp only
  split
  · split
    · exact steady_pure _
    · exact steady_refuse place _
    · exact steady_fault _
  · exact steady_bind (steady_program _) fun _ => steady_pure _

theorem steady_standardChecks (s : Schema) (place kind : String) (type : FieldType)
    (range : Option ((Lower × Value) × (Upper × Value))) : ∀ rules,
    Steady (standardChecks s place kind type range rules)
  | [] => steady_pure _
  | a :: rest => by
    have hr := steady_standardChecks s place kind type range rest
    have hc : Steady (do
        let c ← standardCheck s place type a
        return c :: (← standardChecks s place kind type range rest)) :=
      steady_bind (steady_standardCheck s place type a) fun c => steady_bind hr fun cs => steady_pure _
    unfold standardChecks
    split
    · exact hc
    · split
      · exact steady_bind (steady_lift _) fun c => steady_bind hr fun cs => steady_pure _
      · split
        · exact hr
        · exact hc

theorem steady_typedChecks (s : Schema) (place : String) (type : FieldType) (t : TypedRules) :
    Steady (typedChecks s place type t) :=
  steady_bind (steady_active _ _) fun rules => steady_bind (steady_checkBounds _ _ rules _) fun _ =>
    steady_standardChecks s place _ type _ rules

theorem steady_valueChecks (s : Schema) (place : String) (type : FieldType) (c : FieldConstraints) :
    Steady (valueChecks s place type c) := by
  unfold valueChecks
  split
  · exact steady_pure _
  · split
    · exact steady_bind (steady_typedChecks s place type _) fun checks => steady_pure _
    · exact steady_refuse place _

theorem steady_valueRules (s : Schema) (place : String) (type : FieldType) (c : FieldConstraints) :
    Steady (valueRules s place type c) :=
  steady_bind (steady_valueChecks s place type c) fun _ =>
    steady_bind (steady_mapM steady_custom c.custom) fun _ => steady_pure _

theorem steady_elementRules (s : Schema) (place : String) (type : FieldType) (c : Option FieldConstraints) :
    Steady (elementRules s place type c) := by
  unfold elementRules
  dsimp only
  split
  · exact steady_refuse place _
  · exact steady_valueRules s place type _

theorem steady_wholeChecks (s : Schema) (place : String) (type : FieldType) (c : FieldConstraints) :
    Steady (wholeChecks s place type c) := by
  unfold wholeChecks
  split
  · exact steady_pure _
  · exact steady_typedChecks s place type _

theorem steady_collectionRules (s : Schema) (place : String) (kind : Kind) (type : FieldType)
    (c : FieldConstraints) : Steady (collectionRules s place kind type c) :=
  steady_bind (steady_wholeChecks s place type c) fun _ =>
    steady_bind (steady_mapM steady_custom c.custom) fun _ => steady_pure _

theorem steady_onlyOfKind (place kind : String) (problem : String → SchemaProblem) (c : FieldConstraints) :
    Steady (onlyOfKind place kind problem c) := by
  unfold onlyOfKind
  split
  · exact steady_pure _
  · split
    · exact steady_pure _
    · exact steady_refuse place _

theorem steady_fieldRules (s : Schema) (t : MessageType) (f : Field) : Steady (fieldRules s t f) := by
  unfold fieldRules
  dsimp only
  split
  · exact steady_bind (steady_onlyOfKind _ _ _ _) fun _ => steady_bind (steady_collectionRules _ _ _ _ _) fun _ =>
      steady_bind (steady_elementRules _ _ _ _) fun _ => steady_bind (steady_elementRules _ _ _ _) fun _ => steady_pure _
  · exact steady_bind (steady_onlyOfKind _ _ _ _) fun _ => steady_bind (steady_collectionRules _ _ _ _ _) fun _ =>
      steady_bind (steady_elementRules _ _ _ _) fun _ => steady_pure _
  · exact steady_bind (steady_valueRules _ _ _ _) fun _ => steady_pure _

theorem steady_typeRules (s : Schema) (t : MessageType) : Steady (typeRules s t) := by
  unfold typeRules
  split
  · exact steady_pure _
  · exact steady_bind (steady_mapM steady_custom _) fun _ =>
      steady_bind (steady_mapM (steady_fieldRules s t) _) fun _ => steady_pure _

/-! ## What the steps give -/

section
variable {α β : Type} {a b : α}

theorem outcome_pure_eq_ok : (pure a : Compile α).outcome = .ok b ↔ b = a := by
  constructor
  · intro h
    cases h
    rfl
  · rintro rfl
    rfl

theorem outcome_step_eq_ok {x : Compile α} {f : α → Compile β} (hf : ∀ a, Steady (f a)) {b : β} {P : α → Prop}
    (h : ∀ a, (f a).outcome = .ok b ↔ P a) : (x >>= f).outcome = .ok b ↔ ∃ a, x.outcome = .ok a ∧ P a := by
  rw [outcome_bind_eq_ok hf]
  exact exists_congr fun a => and_congr_right fun _ => h a

end

section
variable {s : Schema} {place : String} {kind : Kind} {type : FieldType} {c : FieldConstraints}

theorem valueRules_eq_ok {r : ValueRules} : (valueRules s place type c).outcome = .ok r ↔
    ∃ checks, (valueChecks s place type c).outcome = .ok checks ∧
      ∃ customs, (c.custom.mapM custom).outcome = .ok customs ∧
        r = { kind := .value type, standard := checks.1, custom := customs, ignoreEmpty := c.ignoreEmpty,
              nested := nested? type c, isWrapper := checks.2 } := by
  refine outcome_step_eq_ok (fun _ => steady_bind (steady_mapM steady_custom _) fun _ => steady_pure _) fun _ => ?_
  exact outcome_step_eq_ok (fun _ => steady_pure _) fun _ => outcome_pure_eq_ok

theorem elementRules_eq_ok {c : Option FieldConstraints} {r : ValueRules} :
    (elementRules s place type c).outcome = .ok r ↔
      (c.getD {}).required = false ∧ (valueRules s place type (c.getD {})).outcome = .ok r := by
  unfold elementRules
  dsimp only
  cases (c.getD {}).required with
  | true => exact ⟨fun h => (by cases h), fun h => (by cases h.1)⟩
  | false => exact ⟨fun h => ⟨rfl, h⟩, fun h => h.2⟩

theorem collectionRules_eq_ok {r : ValueRules} : (collectionRules s place kind type c).outcome = .ok r ↔
    ∃ checks, (wholeChecks s place type c).outcome = .ok checks ∧
      ∃ customs, (c.custom.mapM custom).outcome = .ok customs ∧
        r = { kind, standard := checks, custom := customs } := by
  refine outcome_step_eq_ok (fun _ => steady_bind (steady_mapM steady_custom _) fun _ => steady_pure _) fun _ => ?_
  exact outcome_step_eq_ok (fun _ => steady_pure _) fun _ => outcome_pure_eq_ok

end

section
variable {s : Schema} {t : MessageType} {f : Field} {r : FieldRules}

theorem fieldRules_singular (hs : f.shape = .singular) : (fieldRules s t f).outcome = .ok r ↔
    ∃ value, (valueRules s (t.name ++ "." ++ f.name) f.type (f.constraints.getD {})).outcome = .ok value ∧
      r = { field := f, kind := t.kindOf f, value, required := (f.constraints.getD {}).required,
            ignoreEmpty := (f.constraints.getD {}).ignoreEmpty } := by
  unfold fieldRules
  simp only [hs]
  exact outcome_step_eq_ok (fun _ => steady_pure _) fun _ => outcome_pure_eq_ok

theorem fieldRules_repeated (hs : f.shape = .repeated) : (fieldRules s t f).outcome = .ok r ↔
    ∃ u, (onlyOfKind (t.name ++ "." ++ f.name) "repeated" .rulesOnRepeated (f.constraints.getD {})).outcome = .ok u ∧
    ∃ whole, (collectionRules s (t.name ++ "." ++ f.name) (t.kindOf f) f.type
      (f.constraints.getD {})).outcome = .ok whole ∧
    ∃ items, (elementRules s (t.name ++ "." ++ f.name ++ " item") f.type
      (f.constraints.getD {}).items).outcome = .ok items ∧
    r = { field := f, kind := t.kindOf f, value := whole, required := (f.constraints.getD {}).required,
          ignoreEmpty := (f.constraints.getD {}).ignoreEmpty, items := some items } := by
  unfold fieldRules
  simp only [hs]
  refine outcome_step_eq_ok (fun _ => steady_bind (steady_collectionRules _ _ _ _ _) fun _ =>
    steady_bind (steady_elementRules _ _ _ _) fun _ => steady_pure _) fun _ => ?_
  refine outcome_step_eq_ok (fun _ => steady_bind (steady_elementRules _ _ _ _) fun _ => steady_pure _) fun _ => ?_
  exact outcome_step_eq_ok (fun _ => steady_pure _) fun _ => outcome_pure_eq_ok

theorem fieldRules_map {key : Scalar} (hs : f.shape = .map key) : (fieldRules s t f).outcome = .ok r ↔
    ∃ u, (onlyOfKind (t.name ++ "." ++ f.name) "map" .rulesOnMap (f.constraints.getD {})).outcome = .ok u ∧
    ∃ whole, (collectionRules s (t.name ++ "." ++ f.name) (t.kindOf f) f.type
      (f.constraints.getD {})).outcome = .ok whole ∧
    ∃ keys, (elementRules s (t.name ++ "." ++ f.name ++ " key") (.scalar key)
      (f.constraints.getD {}).keys).outcome = .ok keys ∧
    ∃ values, (elementRules s (t.name ++ "." ++ f.name ++ " value") f.type
      (f.constraints.getD {}).values).outcome = .ok values ∧
    r = { field := f, kind := t.kindOf f, value := whole, required := (f.constraints.getD {}).required,
          ignoreEmpty := (f.constraints.getD {}).ignoreEmpty, keys := some keys, values := some values } := by
  unfold fieldRules
  simp only [hs]
  refine outcome_step_eq_ok (fun _ => steady_bind (steady_collectionRules _ _ _ _ _) fun _ =>
    steady_bind (steady_elementRules _ _ _ _) fun _ => steady_bind (steady_elementRules _ _ _ _) fun _ =>
      steady_pure _) fun _ => ?_
  refine outcome_step_eq_ok (fun _ => steady_bind (steady_elementRules _ _ _ _) fun _ =>
    steady_bind (steady_elementRules _ _ _ _) fun _ => steady_pure _) fun _ => ?_
  refine outcome_step_eq_ok (fun _ => steady_bind (steady_elementRules _ _ _ _) fun _ => steady_pure _) fun _ => ?_
  exact outcome_step_eq_ok (fun _ => steady_pure _) fun _ => outcome_pure_eq_ok

theorem typeRules_eq_ok (hd : t.constraints.any (·.disabled) = false) {r : TypeRules} :
    (typeRules s t).outcome = .ok r ↔
      ∃ checks, (((t.constraints.map (·.custom)).getD []).mapM custom).outcome = .ok checks ∧
      ∃ fields, (t.fields.mapM (fieldRules s t)).outcome = .ok fields ∧
      r = { type := t.name, fields, oneofs := oneofRules t, rules := checks } := by
  unfold typeRules
  simp only [hd, Bool.false_eq_true, if_false]
  refine outcome_step_eq_ok (fun _ => steady_bind (steady_mapM (steady_fieldRules s t) _) fun _ => steady_pure _)
    fun _ => ?_
  exact outcome_step_eq_ok (fun _ => steady_pure _) fun _ => outcome_pure_eq_ok

end
end Conformance.Compile
