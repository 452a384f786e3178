import Conformance.Proofs.Constraint.Declared
import Conformance.Proofs.Schema.Scopes

/-!
# Real oneofs and made ones

A oneof that a type declares is a group of its members, one that is made up for the presence of a single field is none.
Which is which is looked up in the file by the names of the type, and rules of oneofs are there for groups only.
-/

namespace Conformance

variable {D : SchemaDeclaration} {d : MessageDeclaration} {names : List String}

namespace MessageDeclaration

/-- The names of the oneofs that are made up for the fields. -/
def made (d : MessageDeclaration) : List String := d.fields.filterMap (·.presence)

/-- The oneofs of a type: all have names of their own, fields are in declared ones, and a oneof is made up for single fields
outside of oneofs only. -/
structure HasOneofs (d : MessageDeclaration) : Prop where
  distinct : (d.oneofs.map (·.name) ++ d.made).Nodup
  declared : ∀ f ∈ d.fields, ∀ o, f.oneof = some o → o ∈ d.oneofs.map (·.name)
  alone : ∀ f ∈ d.fields, f.presence.isSome → f.oneof = none ∧ f.isSingular = true

instance (d : MessageDeclaration) : Decidable d.HasOneofs :=
  decidable_of_iff ((d.oneofs.map (·.name) ++ d.made).Nodup ∧
      (∀ f ∈ d.fields, ∀ o ∈ f.oneof, o ∈ d.oneofs.map (·.name)) ∧
      ∀ f ∈ d.fields, f.presence.isSome → f.oneof = none ∧ f.isSingular = true)
    ⟨fun h => ⟨h.1, h.2.1, h.2.2⟩, fun h => ⟨h.1, h.2, h.3⟩⟩

end MessageDeclaration

/-- What every file keeps to: scopes are in order, and so are the oneofs of each type. -/
structure SchemaDeclaration.IsFile (D : SchemaDeclaration) : Prop where
  scopes : HasScopes D.messages
  oneofs : ∀ names d, Declares D.messages names d → d.HasOneofs

/-- The type of a declaration, by its full name. -/
def SchemaDeclaration.typeOf (D : SchemaDeclaration) (names : List String) (d : MessageDeclaration) : MessageType :=
  D.schema.messageType (fullNameIn D.package (names ++ [d.name]))

/-! ## Fields -/

theorem forall₂_declaredFields (explicit : Bool) (enums : List EnumType) (made : List String) (place : Nat)
    (fs : List FieldDeclaration) :
    List.Forall₂ (fun f g => ∃ place, g = f.field explicit enums made place) fs
      (declaredFields explicit enums made place fs) := by
  induction fs generalizing place with
  | nil => exact .nil
  | cons f fs ih => exact .cons ⟨place, rfl⟩ (ih _)

namespace MessageDeclaration

variable {f : FieldDeclaration}

theorem mem_made {o : String} : o ∈ d.made ↔ ∃ f ∈ d.fields, f.presence = some o :=
  List.mem_filterMap

section
variable (hd : d.HasOneofs)
include hd

theorem HasOneofs.not_made {o : String} (ho : o ∈ d.oneofs.map (·.name)) : o ∉ d.made :=
  fun hmade => (List.nodup_append.1 hd.distinct).2.2 o ho o hmade rfl

/-- The mark on a field says whether its oneof is a made one. -/
theorem HasOneofs.optional_eq (hf : f ∈ d.fields) : (f.oneof.or f.presence).any d.made.contains = f.presence.isSome := by
  cases ho : f.oneof with
  | some o =>
    have hnone : f.presence.isSome = false := by
      cases hp : f.presence with
      | none => rfl
      | some p =>
        have halone := (hd.alone f hf (by rw [hp]; rfl)).1
        rw [ho] at halone
        cases halone
    have hreal : o ∉ d.made := hd.not_made (hd.declared f hf o ho)
    simpa [hnone] using hreal
  | none =>
    cases hp : f.presence with
    | none => rfl
    | some p =>
      have hmade : p ∈ d.made := mem_made.2 ⟨f, hf, hp⟩
      simpa using hmade

/-- What is marked in the type is what the file has as made up. -/
theorem HasOneofs.syntheticOneofs_eq (explicit : Bool) (enums : List EnumType) (place : Nat)
    {fs : List FieldDeclaration} (hfs : fs ⊆ d.fields) :
    ((declaredFields explicit enums d.made place fs).filter (·.optional)).filterMap (·.oneof) =
      fs.filterMap (·.presence) := by
  induction fs generalizing place with
  | nil => rfl
  | cons f fs ih =>
    obtain ⟨hf, hfs⟩ := List.cons_subset.1 hfs
    have hmark : (f.field explicit enums d.made place).optional = f.presence.isSome := hd.optional_eq hf
    unfold declaredFields
    cases hp : f.presence with
    | none =>
      rw [List.filter_cons_of_neg (by simp [hmark, hp]), List.filterMap_cons_none hp, ih _ hfs]
    | some o =>
      have halone := (hd.alone f hf (by rw [hp]; rfl)).1
      have honeof : (f.field explicit enums d.made place).oneof = some o := by
        simp [FieldDeclaration.field, halone, hp]
      rw [List.filter_cons_of_pos (by simp [hmark, hp]), List.filterMap_cons_some honeof, List.filterMap_cons_some hp,
        ih _ hfs]

end

end MessageDeclaration

/-! ## Kinds -/

namespace MessageType

variable {t : MessageType} {g : Field}

theorem kindOf_of_repeated (h : g.isRepeated = true) (group : String) (type : FieldType) :
    t.kindOf g ≠ .oneofMember group type := by
  unfold kindOf
  cases hs : g.shape with
  | singular => simp [Field.isRepeated, hs] at h
  | repeated => simp
  | map key => simp

theorem kindOf_of_oneof (hs : g.shape = .singular) {o : String} (ho : g.oneof = some o) :
    t.kindOf g = if t.isSynthetic o then .value g.type else .oneofMember o g.type := by
  simp only [kindOf, hs, ho]

theorem kindOf_of_none (hs : g.shape = .singular) (ho : g.oneof = none) : t.kindOf g = .value g.type := by
  simp only [kindOf, hs, ho]

end MessageType

namespace FieldDeclaration

variable {f : FieldDeclaration}

theorem shape_of_isSingular (h : f.isSingular = true) : f.shape = .singular := by
  cases hl : f.label <;> simp_all [shape, isSingular]

end FieldDeclaration

namespace MessageDeclaration.HasOneofs

variable {t : MessageType} {f : FieldDeclaration} (hd : d.HasOneofs) (ht : t.syntheticOneofs = d.made) (hf : f ∈ d.fields)
include hd ht hf

/-- A single field is a member of the oneof that it is declared in, and else has the kind of its values. -/
theorem kindOf_single (hs : f.isSingular = true) (explicit : Bool) (enums : List EnumType) (place : Nat) :
    t.kindOf (f.field explicit enums d.made place) =
      f.oneof.elim (.value (f.typeAmong enums)) fun o => .oneofMember o (f.typeAmong enums) := by
  have hsynthetic (o : String) : t.isSynthetic o = d.made.contains o := by rw [MessageType.isSynthetic, ht]
  have hsingle : (f.field explicit enums d.made place).shape = .singular := FieldDeclaration.shape_of_isSingular hs
  have htype : (f.field explicit enums d.made place).type = f.typeAmong enums := rfl
  have honeof : (f.field explicit enums d.made place).oneof = f.oneof.or f.presence := rfl
  cases ho : f.oneof with
  | some o =>
    have hreal : o ∉ d.made := hd.not_made (hd.declared f hf o ho)
    rw [ho, Option.some_or] at honeof
    rw [MessageType.kindOf_of_oneof hsingle honeof, hsynthetic, htype]
    simp [hreal]
  | none =>
    rw [ho, Option.none_or] at honeof
    cases hp : f.presence with
    | none =>
      rw [MessageType.kindOf_of_none hsingle (honeof.trans hp), htype]
      rfl
    | some o =>
      have hmade : o ∈ d.made := mem_made.2 ⟨f, hf, hp⟩
      rw [MessageType.kindOf_of_oneof hsingle (honeof.trans hp), hsynthetic, htype]
      simp [hmade]

/-- A field is a member of a group exactly if it is single and declared in the oneof, and a field with a oneof of its own has
the kind of its values. -/
theorem kindOf_field (explicit : Bool) (enums : List EnumType) (place : Nat) :
    (∀ group type, t.kindOf (f.field explicit enums d.made place) = .oneofMember group type ↔
      f.isSingular = true ∧ f.oneof = some group ∧ type = f.typeAmong enums) ∧
    (f.presence.isSome = true → t.kindOf (f.field explicit enums d.made place) = .value (f.typeAmong enums)) := by
  by_cases hs : f.isSingular = true
  · rw [hd.kindOf_single ht hf hs]
    constructor
    · intro group type
      cases f.oneof <;> simp [hs, eq_comm]
    · intro hp
      rw [(hd.alone f hf hp).1]
      rfl
  · have hrepeated : (f.field explicit enums d.made place).isRepeated = true :=
      bne_iff_ne.2 (mt FieldDeclaration.isSingular_of_shape hs)
    constructor
    · intro group type
      exact iff_of_false (MessageType.kindOf_of_repeated hrepeated group type) fun h => hs h.1
    · intro hp
      exact absurd (hd.alone f hf hp).2 hs

end MessageDeclaration.HasOneofs

namespace SchemaDeclaration

section
variable (hD : D.IsFile) (hd : Declares D.messages names d)
include hD hd

/-- The type that a full name leads to has the fields and oneofs of its declaration, and the marks of that very
declaration. -/
theorem IsFile.typeOf_eq : D.typeOf names d =
    ⟨fullNameIn D.package (names ++ [d.name]), declaredFields D.explicitPresence D.enumTypes d.made 1 d.fields,
      d.oneofs ++ d.made.map (⟨·, none⟩), d.constraints⟩ := by
  have hmade : madeOneofs D.messages (d.name :: names.reverse) = d.made := hd.madeOneofs hD.scopes
  rw [typeOf, messageType_eq hD.scopes hd, ← MessageDeclaration.type_name D.explicitPresence D.enumTypes D.messages
    D.package names.reverse]
  unfold MessageDeclaration.type
  rw [hmade, MessageDeclaration.made, List.map_filterMap]

theorem IsFile.syntheticOneofs : (D.typeOf names d).syntheticOneofs = d.made := by
  rw [hD.typeOf_eq hd]
  exact (hD.oneofs names d hd).syntheticOneofs_eq _ _ _ (List.Subset.refl _)

/-- The rules of oneofs are for those that are declared and marked. -/
theorem IsFile.mem_oneofRules (group : String) (required : Bool) :
    ⟨group, required⟩ ∈ Compile.oneofRules (D.typeOf names d) ↔
      required = true ∧ ∃ o ∈ d.oneofs, o.name = group ∧ o.constraints.any (·.required) = true := by
  have honeofs : (D.typeOf names d).oneofs = d.oneofs ++ d.made.map (⟨·, none⟩) := by rw [hD.typeOf_eq hd]
  have hsynthetic (o : String) : (D.typeOf names d).isSynthetic o = d.made.contains o := by
    rw [MessageType.isSynthetic, hD.syntheticOneofs hd]
  unfold Compile.oneofRules
  simp only [List.mem_map, List.mem_filter, honeofs, hsynthetic, Bool.and_eq_true, OneofRule.mk.injEq]
  constructor
  · rintro ⟨o, ⟨ho, -, hrequired⟩, hname, htrue⟩
    refine ⟨htrue.symm, ?_⟩
    cases List.mem_append.1 ho with
    | inl ho => exact ⟨o, ho, hname, hrequired⟩
    | inr ho =>
      obtain ⟨made, -, rfl⟩ := List.mem_map.1 ho
      cases hrequired
  · rintro ⟨htrue, o, ho, hname, hrequired⟩
    have hreal : o.name ∉ d.made := (hD.oneofs names d hd).not_made (List.mem_map_of_mem ho)
    exact ⟨o, ⟨List.mem_append_left _ ho, by simp [hreal], hrequired⟩, hname, htrue.symm⟩

end

/-- Only oneofs that are declared are groups, wherever in a file their type is. A field is a member of a group exactly if it is
single and declared in that oneof; a field for whose presence a oneof is made up has the kind of its values; and rules for a
type ask for a oneof exactly if it is declared there and marked as required, and the type is not disabled. -/
theorem groups_declared (hD : D.IsFile) (hd : Declares D.messages names d) :
    List.Forall₂ (fun (f : FieldDeclaration) g => g.name = f.name ∧
      (∀ group type, (D.typeOf names d).kindOf g = .oneofMember group type ↔
        f.isSingular = true ∧ f.oneof = some group ∧ type = f.typeAmong D.enumTypes) ∧
      (f.presence.isSome = true → (D.typeOf names d).kindOf g = .value (f.typeAmong D.enumTypes)))
      d.fields (D.typeOf names d).fields ∧
    ∀ r, ((D.typeOf names d).compile D.schema).outcome = .ok r → ∀ group required,
      ⟨group, required⟩ ∈ r.oneofs ↔ required = true ∧ d.constraints.any (·.disabled) = false ∧
        ∃ o ∈ d.oneofs, o.name = group ∧ o.constraints.any (·.required) = true := by
  have hsynthetic := hD.syntheticOneofs hd
  refine ⟨?_, ?_⟩
  · have hfields : (D.typeOf names d).fields =
        declaredFields D.explicitPresence D.enumTypes d.made 1 d.fields := by rw [hD.typeOf_eq hd]
    rw [hfields]
    refine ((List.forall₂_and_left _ _).2 ⟨fun f hf => hf, forall₂_declaredFields ..⟩).imp ?_
    rintro f g ⟨hf, place, rfl⟩
    exact ⟨rfl, (hD.oneofs names d hd).kindOf_field hsynthetic hf _ _ _⟩
  · intro r hr group required
    have hconstraints : (D.typeOf names d).constraints = d.constraints := by rw [hD.typeOf_eq hd]
    rw [MessageType.compile_eq_rules hr, MessageType.rules, hconstraints]
    cases d.constraints.any (·.disabled) with
    | true => simp
    | false =>
      simp only [Bool.false_eq_true, if_false, true_and]
      exact hD.mem_oneofRules hd group required

/-! ### Types of the same short name -/

/-- The identifier is in a oneof that is declared and must be set. -/
def orderItem : MessageDeclaration where
  name := "Item"
  fields := [{ name := "id", type := "string", oneof := some "_id" }]
  oneofs := [⟨"_id", some ⟨true⟩⟩]

/-- The identifier is optional, and the oneof for that is made up. -/
def offerItem : MessageDeclaration where
  name := "Item"
  fields := [{ name := "id", type := "string", presence := some "_id" }]

def draft : MessageDeclaration := { orderItem with name := "Draft", constraints := some ⟨true, []⟩ }

/-- Types of one short name are declared inside of different types, and so are oneofs of one name. -/
def items : SchemaDeclaration where
  package := "shop"
  messages := [⟨"Order", [], [], [orderItem], none⟩, ⟨"Offer", [], [], [offerItem], none⟩, draft]

theorem isFile_items : items.IsFile := by
  refine ⟨⟨by decide, ?_⟩, ?_⟩
  · simp only [items, orderItem, offerItem, draft, forall_declares_cons, forall_declares_nil]
    decide
  · simp only [items, orderItem, offerItem, draft, forall_declares_cons, forall_declares_nil]
    decide

theorem declares_orderItem : Declares items.messages ["Order"] orderItem :=
  .inside (d := ⟨"Order", [], [], [orderItem], none⟩) List.mem_cons_self (.here List.mem_cons_self)

theorem declares_offerItem : Declares items.messages ["Offer"] offerItem :=
  .inside (d := ⟨"Offer", [], [], [offerItem], none⟩) (List.mem_cons_of_mem _ List.mem_cons_self)
    (.here List.mem_cons_self)

/-- Of the two types only one has a group, though both have a oneof of the name. -/
theorem groups_declared_of_items :
    items.IsFile ∧
      ((items.typeOf ["Order"] orderItem).fields.map (items.typeOf ["Order"] orderItem).kindOf =
        [.oneofMember "_id" (.scalar .string)]) ∧
      ((items.typeOf ["Offer"] offerItem).fields.map (items.typeOf ["Offer"] offerItem).kindOf =
        [.value (.scalar .string)]) ∧
      ∃ r, ((items.typeOf ["Order"] orderItem).compile items.schema).outcome = .ok r ∧ ⟨"_id", true⟩ ∈ r.oneofs := by
  obtain ⟨hmembers, hrules⟩ := groups_declared isFile_items declares_orderItem
  obtain ⟨hvalues, -⟩ := groups_declared isFile_items declares_offerItem
  obtain ⟨g, _, ⟨-, hgroup, -⟩, hnil, hfields⟩ := List.forall₂_cons_left_iff.1 hmembers
  obtain ⟨g', _, ⟨-, -, hvalue⟩, hnil', hfields'⟩ := List.forall₂_cons_left_iff.1 hvalues
  cases hnil
  cases hnil'
  refine ⟨isFile_items, ?_, ?_, ⟨_, rfl, ?_⟩⟩
  · rw [hfields, List.map_singleton, (hgroup "_id" (.scalar .string)).2 ⟨rfl, rfl, rfl⟩]
  · rw [hfields', List.map_singleton, hvalue rfl]
    rfl
  · exact (hrules _ rfl "_id" true).2 ⟨rfl, rfl, _, List.mem_cons_self, rfl, rfl⟩

/-- The rules of a disabled type ask for no oneof, though one is declared there and marked as required. -/
theorem rules_of_draft :
    items.IsFile ∧ Declares items.messages [] draft ∧
      (∃ o ∈ draft.oneofs, o.name = "_id" ∧ o.constraints.any (·.required) = true) ∧
      ∃ r, ((items.typeOf [] draft).compile items.schema).outcome = .ok r ∧ ⟨"_id", true⟩ ∉ r.oneofs := by
  refine ⟨isFile_items, .here (by simp [items]), ⟨_, List.mem_cons_self, rfl, rfl⟩, _, rfl, ?_⟩
  exact List.not_mem_nil

end SchemaDeclaration

end Conformance
