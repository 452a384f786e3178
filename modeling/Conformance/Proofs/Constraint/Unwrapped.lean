import Conformance.Proofs.Constraint.Accepted
import Conformance.Proofs.Resolver.Graph

/-!
# Wrappers and what they wrap

The rules of a value do not depend on the place that problems are reported for, and those of a wrapper are those of the
scalar that it wraps. So a type compiles just if it does with the scalar in place of the wrapper, and both refer to the
same types.
-/

namespace Conformance

open Rule

/-! ## Compilation at other places -/

namespace Compile

section
variable {s : Schema} {type type' : FieldType} {place kind : String} {c : FieldConstraints}

theorem standardChecks_elsewhere (place' : String) (h : type.unwrapped = type'.unwrapped)
    {range : Option ((Lower × Value) × (Upper × Value))} {rules : List Active} {cs : List Check} :
    (standardChecks s place kind type range rules).outcome = .ok cs ↔
      (standardChecks s place' kind type' range rules).outcome = .ok cs := by
  induction rules generalizing cs with
  | nil => exact Iff.rfl
  | cons a rules ih => simp only [standardChecks_cons, standardCheck_eq_ok, h, ih]

/-- Typed rules become the same checks wherever they stand, on a wrapper or on what it wraps. -/
theorem typedChecks_elsewhere (place' : String) (h : type.unwrapped = type'.unwrapped) {t : TypedRules}
    {cs : List Check} : (typedChecks s place type t).outcome = .ok cs ↔
      (typedChecks s place' type' t).outcome = .ok cs := by
  simp only [TypedRules.typedChecks_eq_ok, checkBounds_ok_iff, standardChecks_elsewhere place' h]

theorem valueChecks_ok_iff_applies : (∃ checks, (valueChecks s place type c).outcome = .ok checks) ↔
    ∀ t, c.typed = some t → (applies? t.kind type).isSome = true ∧
      ∃ cs, (typedChecks s place type t).outcome = .ok cs := by
  unfold valueChecks
  cases c.typed with
  | none => exact ⟨fun _ t ht => (by cases ht), fun _ => ⟨_, rfl⟩⟩
  | some t =>
    simp only [Option.some.injEq, forall_eq']
    cases ha : applies? t.kind type with
    | none =>
      refine iff_of_false ?_ fun h => Bool.noConfusion h.1
      rintro ⟨_, h⟩
      cases h
    | some isWrapper =>
      dsimp only
      rw [ok_map_iff]
      exact (and_iff_right rfl).symm

theorem valueRules_ok_iff_checks : (∃ r, (valueRules s place type c).outcome = .ok r) ↔
    (∃ checks, (valueChecks s place type c).outcome = .ok checks) ∧
      ∃ customs, (c.custom.mapM custom).outcome = .ok customs := by
  constructor
  · rintro ⟨r, hr⟩
    obtain ⟨checks, hv, customs, hc, -⟩ := valueRules_eq_ok.1 hr
    exact ⟨⟨checks, hv⟩, customs, hc⟩
  · rintro ⟨⟨checks, hv⟩, customs, hc⟩
    exact ⟨_, valueRules_eq_ok.2 ⟨checks, hv, customs, hc, rfl⟩⟩

theorem valueRules_elsewhere (place' : String) (h : type.unwrapped = type'.unwrapped)
    (happlies : ∀ kind, (applies? kind type).isSome = (applies? kind type').isSome) :
    (∃ r, (valueRules s place type c).outcome = .ok r) ↔ ∃ r, (valueRules s place' type' c).outcome = .ok r := by
  simp only [valueRules_ok_iff_checks, valueChecks_ok_iff_applies, happlies, typedChecks_elsewhere place' h]

theorem elementRules_elsewhere (place' : String) {c : Option FieldConstraints} :
    (∃ r, (elementRules s place type c).outcome = .ok r) ↔ ∃ r, (elementRules s place' type c).outcome = .ok r := by
  simp only [elementRules_eq_ok, exists_and_left, valueRules_elsewhere place' rfl fun _ => rfl]

theorem onlyOfKind_elsewhere (place' : String) {problem : String → SchemaProblem}
    (h : ∃ u, (onlyOfKind place kind problem c).outcome = .ok u) :
    ∃ u, (onlyOfKind place' kind problem c).outcome = .ok u :=
  onlyOfKind_ok_iff.2 (onlyOfKind_ok_iff.1 h)

theorem wholeChecks_elsewhere (place' : String) {cs : List Check} :
    (wholeChecks s place type c).outcome = .ok cs ↔ (wholeChecks s place' type c).outcome = .ok cs := by
  unfold wholeChecks
  cases c.typed with
  | none => exact Iff.rfl
  | some t => exact typedChecks_elsewhere place' rfl

theorem collectionRules_elsewhere (place' : String) {kind : Kind} (kind' : Kind)
    (h : ∃ r, (collectionRules s place kind type c).outcome = .ok r) :
    ∃ r, (collectionRules s place' kind' type c).outcome = .ok r := by
  obtain ⟨r, hr⟩ := h
  obtain ⟨checks, hw, customs, hc, -⟩ := collectionRules_eq_ok.1 hr
  exact ⟨_, collectionRules_eq_ok.2 ⟨checks, (wholeChecks_elsewhere place').1 hw, customs, hc, rfl⟩⟩

/-- A field that compiles in one type does in any other. -/
theorem fieldRules_elsewhere {f : Field} {t : MessageType} (u : MessageType)
    (h : ∃ r, (fieldRules s t f).outcome = .ok r) : ∃ r, (fieldRules s u f).outcome = .ok r := by
  obtain ⟨r, hr⟩ := h
  cases hs : f.shape with
  | map key =>
    obtain ⟨_, ho, _, hw, _, hk, _, hv, -⟩ := (fieldRules_map hs).1 hr
    obtain ⟨_, ho⟩ := onlyOfKind_elsewhere (u.name ++ "." ++ f.name) ⟨_, ho⟩
    obtain ⟨_, hw⟩ := collectionRules_elsewhere (u.name ++ "." ++ f.name) (u.kindOf f) ⟨_, hw⟩
    obtain ⟨_, hk⟩ := (elementRules_elsewhere (u.name ++ "." ++ f.name ++ " key")).1 ⟨_, hk⟩
    obtain ⟨_, hv⟩ := (elementRules_elsewhere (u.name ++ "." ++ f.name ++ " value")).1 ⟨_, hv⟩
    exact ⟨_, (fieldRules_map hs).2 ⟨_, ho, _, hw, _, hk, _, hv, rfl⟩⟩
  | «repeated» =>
    obtain ⟨_, ho, _, hw, _, hi, -⟩ := (fieldRules_repeated hs).1 hr
    obtain ⟨_, ho⟩ := onlyOfKind_elsewhere (u.name ++ "." ++ f.name) ⟨_, ho⟩
    obtain ⟨_, hw⟩ := collectionRules_elsewhere (u.name ++ "." ++ f.name) (u.kindOf f) ⟨_, hw⟩
    obtain ⟨_, hi⟩ := (elementRules_elsewhere (u.name ++ "." ++ f.name ++ " item")).1 ⟨_, hi⟩
    exact ⟨_, (fieldRules_repeated hs).2 ⟨_, ho, _, hw, _, hi, rfl⟩⟩
  | singular =>
    obtain ⟨_, hv, -⟩ := (fieldRules_singular hs).1 hr
    obtain ⟨_, hv⟩ := (valueRules_elsewhere (u.name ++ "." ++ f.name) rfl fun _ => rfl).1 ⟨_, hv⟩
    exact ⟨_, (fieldRules_singular hs).2 ⟨_, hv, rfl⟩⟩

end

end Compile

/-! ## Rules at other places -/

section
variable {s : Schema} {place : String} {type type' : FieldType}

theorem toOption_eq {α ε : Type} {x y : Except ε α} (h : ∀ a, x = .ok a ↔ y = .ok a) : x.toOption = y.toOption := by
  cases x with
  | ok a => rw [(h a).1 rfl]
  | error e =>
    cases y with
    | ok b => cases (h b).2 rfl
    | error f => rfl

theorem FieldConstraints.standard_elsewhere (c : FieldConstraints) (place' : String)
    (h : type.unwrapped = type'.unwrapped) : c.standard s place type = c.standard s place' type' := by
  unfold standard TypedRules.checks
  cases c.typed with
  | none => rfl
  | some t =>
    simp only [Option.map_some, Option.getD_some, toOption_eq fun _ => Compile.typedChecks_elsewhere place' h]

theorem FieldConstraints.forValue_elsewhere (c : FieldConstraints) (place' : String) :
    c.forValue s place type = c.forValue s place' type := by
  unfold forValue
  rw [c.standard_elsewhere place' rfl]

theorem FieldConstraints.forWhole_elsewhere (c : FieldConstraints) (place' : String) (kind : Kind) :
    c.forWhole s place kind type = c.forWhole s place' kind type := by
  unfold forWhole
  rw [c.standard_elsewhere place' rfl]

/-- Of a field nothing but its kind is told by the type that it is in. -/
theorem Field.rules_elsewhere (f : Field) (t u : MessageType) :
    f.rules s t = { f.rules s u with kind := t.kindOf f } := by
  have hvalue (c : FieldConstraints) (what : String) (type : FieldType) :
      c.forValue s (t.name ++ "." ++ f.name ++ what) type = c.forValue s (u.name ++ "." ++ f.name ++ what) type :=
    c.forValue_elsewhere _
  have hwhole (c : FieldConstraints) (kind : Kind) (type : FieldType) :
      c.forWhole s (t.name ++ "." ++ f.name) kind type = c.forWhole s (u.name ++ "." ++ f.name) kind type :=
    c.forWhole_elsewhere _ kind
  unfold rules
  cases hs : f.shape with
  | singular =>
    have hown (c : FieldConstraints) : c.forValue s (t.name ++ "." ++ f.name) f.type =
        c.forValue s (u.name ++ "." ++ f.name) f.type := c.forValue_elsewhere _
    simp only [hown]
  | «repeated» =>
    have hkind : u.kindOf f = t.kindOf f := by simp only [MessageType.kindOf, hs]
    simp only [hvalue, hwhole, hkind]
  | map key =>
    have hkind : u.kindOf f = t.kindOf f := by simp only [MessageType.kindOf, hs]
    simp only [hvalue, hwhole, hkind]

end

/-! ## Wrappers -/

section
variable {name : String} {k : Scalar}

theorem FieldType.unwrapped_wrapper (h : Schema.wrapped? name = some k) :
    (FieldType.message name).unwrapped = (FieldType.scalar k).unwrapped := by
  simp only [unwrapped, h]

theorem Schema.isOpaque_wrapper (h : Schema.wrapped? name = some k) : Schema.isOpaque name = true := by
  simp [isOpaque, h]

/-- The rules that apply to a wrapper are those of its scalar. -/
theorem Compile.applies?_wrapper (h : Schema.wrapped? name = some k) (kind : String) :
    applies? kind (.message name) = (applies? kind (.scalar k)).map fun _ => true := by
  by_cases hk : k.name = kind
  · simp [applies?, h, hk]
  · -- No wrapper is one of the other messages that have rules.
    have hother : ∀ other ∈ [Schema.anyName, Schema.durationName, Schema.timestampName], name ≠ other := by
      rintro other ho rfl
      have hnone : ∀ n ∈ [Schema.anyName, Schema.durationName, Schema.timestampName], Schema.wrapped? n = none := by
        decide
      rw [hnone name ho] at h
      cases h
    simp only [List.mem_cons, List.not_mem_nil, or_false, forall_eq_or_imp, forall_eq] at hother
    simp [applies?, h, hk, hother]

end

/-- A field is declared as another one, with an optional scalar in place of its wrapper. -/
structure Field.Unwraps (g f : Field) (wrapper : String) (k : Scalar) : Prop where
  wraps : Schema.wrapped? wrapper = some k
  outer : f.type = .message wrapper ∧ f.shape = .singular
  inner : g.type = .scalar k ∧ g.shape = .singular
  presence : g.hasPresence = true
  name : g.name = f.name
  constraints : g.constraints = f.constraints

/-- The oneofs that do more than to give presence to a field. -/
def MessageType.groups (t : MessageType) : List Oneof := t.oneofs.filter fun o => !t.isSynthetic o.name

/-- A type is declared as another one, with an optional scalar in place of the wrapper in one of its fields, which is in
no oneof with others. -/
structure MessageType.Unwraps (u t : MessageType) (g f : Field) (wrapper : String) (k : Scalar) : Prop where
  field : g.Unwraps f wrapper k
  fields : ∃ before rest, t.fields = before ++ f :: rest ∧ u.fields = before ++ g :: rest ∧
    ∀ other ∈ before ++ rest, other.name ≠ f.name
  constraints : u.constraints = t.constraints
  groups : u.groups = t.groups
  alone : ∀ o ∈ t.groups, f.oneof ≠ some o.name ∧ g.oneof ≠ some o.name

section
variable {s : Schema} {t u : MessageType} {f g : Field} {wrapper : String} {k : Scalar}

theorem Compile.typeRules_ok_iff_parts :
    (∃ r, (typeRules s t).outcome = .ok r) ↔ t.constraints.any (·.disabled) = true ∨
    (∃ checks, (((t.constraints.map (·.custom)).getD []).mapM custom).outcome = .ok checks) ∧
      ∀ f ∈ t.fields, ∃ r, (fieldRules s t f).outcome = .ok r := by
  cases hd : t.constraints.any (·.disabled) with
  | true =>
    unfold typeRules
    rw [hd]
    exact ⟨fun _ => .inl rfl, fun _ => ⟨_, rfl⟩⟩
  | false =>
    simp only [Bool.false_eq_true, false_or, typeRules_eq_ok hd]
    rw [← ok_mapM_iff (steady_fieldRules s t)]
    constructor
    · rintro ⟨_, checks, hc, fields, hf, -⟩
      exact ⟨⟨checks, hc⟩, fields, hf⟩
    · rintro ⟨⟨checks, hc⟩, fields, hf⟩
      exact ⟨_, checks, hc, fields, hf, rfl⟩

theorem Compile.fieldRules_unwraps (h : g.Unwraps f wrapper k) :
    (∃ r, (fieldRules s t f).outcome = .ok r) ↔ ∃ r, (fieldRules s u g).outcome = .ok r := by
  have hvalue : (∃ r, (valueRules s (t.name ++ "." ++ f.name) f.type (f.constraints.getD {})).outcome = .ok r) ↔
      ∃ r, (valueRules s (u.name ++ "." ++ g.name) g.type (g.constraints.getD {})).outcome = .ok r := by
    rw [h.outer.1, h.inner.1, h.constraints]
    refine valueRules_elsewhere _ (FieldType.unwrapped_wrapper h.wraps) fun kind => ?_
    rw [applies?_wrapper h.wraps, Option.isSome_map]
  simp only [fieldRules_singular h.outer.2, fieldRules_singular h.inner.2]
  constructor
  · rintro ⟨_, value, hv, -⟩
    obtain ⟨value, hv⟩ := hvalue.1 ⟨value, hv⟩
    exact ⟨_, value, hv, rfl⟩
  · rintro ⟨_, value, hv, -⟩
    obtain ⟨value, hv⟩ := hvalue.2 ⟨value, hv⟩
    exact ⟨_, value, hv, rfl⟩

namespace MessageType.Unwraps

theorem compiles_iff (h : u.Unwraps t g f wrapper k) :
    (∃ r, (t.compile s).outcome = .ok r) ↔ ∃ r, (u.compile s).outcome = .ok r := by
  show (∃ r, (Compile.typeRules s t).outcome = .ok r) ↔ ∃ r, (Compile.typeRules s u).outcome = .ok r
  obtain ⟨before, rest, ht, hu, -⟩ := h.fields
  rw [Compile.typeRules_ok_iff_parts, Compile.typeRules_ok_iff_parts, h.constraints, ht, hu]
  simp only [List.forall_mem_append, List.forall_mem_cons, Compile.fieldRules_unwraps (t := t) (u := u) h.field]
  have hothers (fs : List Field) : (∀ f ∈ fs, ∃ r, (Compile.fieldRules s t f).outcome = .ok r) ↔
      ∀ f ∈ fs, ∃ r, (Compile.fieldRules s u f).outcome = .ok r :=
    forall₂_congr fun f _ => ⟨Compile.fieldRules_elsewhere u, Compile.fieldRules_elsewhere t⟩
  rw [hothers before, hothers rest]

theorem dependencies_eq (h : u.Unwraps t g f wrapper k) : (t.rules s).dependencies = (u.rules s).dependencies := by
  obtain ⟨before, rest, ht, hu, -⟩ := h.fields
  have hother (other : Field) : (other.rules s t).dependencies = (other.rules s u).dependencies := by
    rw [other.rules_elsewhere t u]
    rfl
  have houter : (f.rules s u).dependencies = [] := by
    simp [Field.rules, FieldRules.dependencies, FieldConstraints.forValue, Compile.nested?, h.field.outer,
      Schema.isOpaque_wrapper h.field.wraps]
  have hinner : (g.rules s u).dependencies = [] := by
    simp [Field.rules, FieldRules.dependencies, FieldConstraints.forValue, Compile.nested?, h.field.inner]
  unfold rules
  rw [h.constraints]
  split
  · rfl
  · simp only [TypeRules.dependencies, ht, hu, List.flatMap_map, List.flatMap_append, List.flatMap_cons, hother, houter,
      hinner]

end MessageType.Unwraps

/-! ## Types that resolve -/

theorem Schema.depends_iff {name other : String} :
    s.Depends name other ↔ s.Compiles name ∧ other ∈ (s.rules name).dependencies := by
  constructor
  · rintro ⟨rules, hr, hd⟩
    exact ⟨⟨rules, hr⟩, by rwa [← compiled_eq_rules hr]⟩
  · rintro ⟨⟨rules, hr⟩, hd⟩
    exact ⟨rules, hr, by rwa [compiled_eq_rules hr]⟩

theorem Schema.resolves_iff {name : String} :
    s.Resolves name ↔ s.Compiles name ∧ ∀ other, s.Depends name other → s.Resolves other := by
  constructor
  · intro h
    exact ⟨h name (Below.refl s name), fun other hd => h.below (.single hd)⟩
  · rintro ⟨hname, hothers⟩ n hn
    rcases Relation.ReflTransGen.cases_head hn with rfl | ⟨other, hd, hn⟩
    · exact hname
    · exact hothers other hd n hn

/-- A type resolves just if it does with a scalar in place of the wrapper. -/
theorem MessageType.Unwraps.resolves_iff (h : u.Unwraps t g f wrapper k) (ht : s.messageType t.name = t)
    (hu : s.messageType u.name = u) : s.Resolves t.name ↔ s.Resolves u.name := by
  have hcompiles : s.Compiles t.name ↔ s.Compiles u.name := by
    unfold Schema.Compiles Schema.compiled
    rw [ht, hu]
    exact h.compiles_iff
  have hdepends (other : String) : s.Depends t.name other ↔ s.Depends u.name other := by
    rw [Schema.depends_iff, Schema.depends_iff, hcompiles, Schema.rules, Schema.rules, ht, hu, h.dependencies_eq]
  rw [Schema.resolves_iff, Schema.resolves_iff, hcompiles]
  simp only [hdepends]

end
end Conformance
