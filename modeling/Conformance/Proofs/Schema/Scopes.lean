import Conformance.Schema.Declaration
import Conformance.Schema.Known
import Mathlib.Data.List.Forall2
import Mathlib.Data.List.Nodup

/-!
# Declarations in scopes

A type is declared in the file or inside of other types, and only the names of all of these tell it from types of the same
short name elsewhere. Where the names in each scope are distinct, going through them leads back to the declaration, and
full names are distinct.
-/

namespace Conformance

/-- The declaration is among those given, or inside of one of them: the names are those of the types around it, from the
outside in. -/
inductive Declares : List MessageDeclaration → List String → MessageDeclaration → Prop
  | here {ds d} (hd : d ∈ ds) : Declares ds [] d
  | inside {ds d names e} (hd : d ∈ ds) (h : Declares d.nested names e) : Declares ds (d.name :: names) e

variable {ds : List MessageDeclaration} {d e : MessageDeclaration} {names others : List String}

theorem Declares.mono (h : Declares ds names d) {es : List MessageDeclaration} (hes : ds ⊆ es) : Declares es names d := by
  cases h with
  | here hd => exact .here (hes hd)
  | inside hd h => exact .inside (hes hd) h

theorem forall_declares_nil {P : MessageDeclaration → Prop} : (∀ names d, Declares [] names d → P d) ↔ True := by
  refine iff_true_intro fun names d h => ?_
  cases h with
  | here hd => cases hd
  | inside hd _ => cases hd

/-- What holds of all declarations holds of the first one, of all inside of it, and of all others. -/
theorem forall_declares_cons {P : MessageDeclaration → Prop} : (∀ names e, Declares (d :: ds) names e → P e) ↔
    P d ∧ (∀ names e, Declares d.nested names e → P e) ∧ ∀ names e, Declares ds names e → P e := by
  constructor
  · intro h
    exact ⟨h _ d (.here List.mem_cons_self), fun names e he => h _ e (.inside List.mem_cons_self he),
      fun names e he => h _ e (he.mono (List.subset_cons_self _ _))⟩
  · rintro ⟨hd, hnested, hrest⟩ names e he
    cases he with
    | here he =>
      cases List.mem_cons.1 he with
      | inl he => exact he ▸ hd
      | inr he => exact hrest _ e (.here he)
    | inside hc he =>
      cases List.mem_cons.1 hc with
      | inl hc => exact hnested _ e (hc ▸ he)
      | inr hc => exact hrest _ e (.inside hc he)

/-- A name of one scope: neither empty nor put together from several. -/
def IsShortName (name : String) : Prop := name ≠ "" ∧ '.' ∉ name.toList

instance (name : String) : Decidable (IsShortName name) := inferInstanceAs (Decidable (_ ∧ _))

/-- The types of one scope have short names, each its own. -/
structure IsScope (ds : List MessageDeclaration) : Prop where
  short : ∀ d ∈ ds, IsShortName d.name
  distinct : (ds.map (·.name)).Nodup

instance (ds : List MessageDeclaration) : Decidable (IsScope ds) :=
  decidable_of_iff ((∀ d ∈ ds, IsShortName d.name) ∧ (ds.map (·.name)).Nodup) ⟨fun h => ⟨h.1, h.2⟩, fun h => ⟨h.1, h.2⟩⟩

/-- A file in which all scopes are in order. -/
structure HasScopes (ds : List MessageDeclaration) : Prop where
  outer : IsScope ds
  inner : ∀ names d, Declares ds names d → IsScope d.nested

theorem HasScopes.nested (h : HasScopes ds) (hd : d ∈ ds) : HasScopes d.nested :=
  ⟨h.inner [] d (.here hd), fun _ e he => h.inner _ e (.inside hd he)⟩

theorem Declares.short (h : Declares ds names d) : HasScopes ds → ∀ name ∈ names ++ [d.name], IsShortName name := by
  induction h with
  | here hd =>
    intro hs name hname
    rw [List.mem_singleton.1 hname]
    exact hs.outer.short _ hd
  | inside hd _ ih =>
    intro hs name hname
    cases List.mem_cons.1 hname with
    | inl hname => exact hname ▸ hs.outer.short _ hd
    | inr hname => exact ih (hs.nested hd) name hname

/-! ## Going through names -/

theorem IsScope.find? (h : IsScope ds) (hd : d ∈ ds) : ds.find? (·.name == d.name) = some d := by
  cases hfind : ds.find? (·.name == d.name) with
  | none => exact absurd (beq_self_eq_true d.name) (List.find?_eq_none.1 hfind d hd)
  | some e =>
    have hname : e.name = d.name := by simpa using List.find?_some hfind
    rw [List.inj_on_of_nodup_map h.distinct (List.mem_of_find?_eq_some hfind) hd hname]

theorem Declares.declarationAt? (h : Declares ds names d) : HasScopes ds →
    declarationAt? ds (names ++ [d.name]) = some d := by
  induction h with
  | here hd =>
    intro hs
    simp [Conformance.declarationAt?, hs.outer.find? hd]
  | inside hd _ ih =>
    intro hs
    simp [Conformance.declarationAt?, hs.outer.find? hd, ih (hs.nested hd)]

/-- The file leads from the names around a type and its own name to the very type. -/
theorem Declares.madeOneofs (h : Declares ds names d) (hs : HasScopes ds) :
    madeOneofs ds (d.name :: names.reverse) = d.fields.filterMap (·.presence) := by
  rw [Conformance.madeOneofs, List.reverse_cons, List.reverse_reverse, h.declarationAt? hs]

/-! ## Full names -/

/-- The name of a type in a package, by the names of the types around it and its own. -/
def fullNameIn (package : String) (names : List String) : String := names.foldl qualified package

/-- Names with a point before each. -/
def pointedNames (names : List String) : List Char := names.flatMap fun name => '.' :: name.toList

theorem qualified_of_ne {scope : String} (hscope : scope ≠ "") (name : String) :
    qualified scope name = scope ++ "." ++ name := by
  rw [qualified, if_neg (by simpa using hscope)]

theorem toList_fullNameIn {scope : String} (hscope : scope ≠ "") (names : List String) :
    (fullNameIn scope names).toList = scope.toList ++ pointedNames names := by
  induction names generalizing scope with
  | nil => simp [fullNameIn, pointedNames]
  | cons name names ih =>
    have hstep : qualified scope name ≠ "" := by
      rw [qualified_of_ne hscope]
      simp [hscope]
    have hrest := ih hstep
    rw [qualified_of_ne hscope] at hrest
    rw [fullNameIn, List.foldl_cons, qualified_of_ne hscope, ← fullNameIn, hrest]
    simp [pointedNames]

/-- Where there is no package, the first name stands for one. -/
theorem toList_fullNameIn_empty (hne : names ≠ []) (hnames : ∀ name ∈ names, IsShortName name) :
    '.' :: (fullNameIn "" names).toList = pointedNames names := by
  obtain ⟨name, names, rfl⟩ := List.exists_cons_of_ne_nil hne
  have hname := (hnames name List.mem_cons_self).1
  have hqualified : qualified "" name = name := rfl
  rw [fullNameIn, List.foldl_cons, hqualified, ← fullNameIn, toList_fullNameIn hname]
  rfl

theorem takeWhile_pointedNames {name : String} (hname : IsShortName name) (names : List String) :
    (name.toList ++ pointedNames names).takeWhile (· != '.') = name.toList := by
  have hpoint : (pointedNames names).takeWhile (· != '.') = [] := by
    cases names with
    | nil => rfl
    | cons name names => rfl
  rw [List.takeWhile_append_of_pos, hpoint, List.append_nil]
  intro c hc
  rw [bne_iff_ne]
  rintro rfl
  exact hname.2 hc

theorem pointedNames_inj (hnames : ∀ name ∈ names, IsShortName name) (hothers : ∀ name ∈ others, IsShortName name)
    (h : pointedNames names = pointedNames others) : names = others := by
  induction names generalizing others with
  | nil =>
    cases others with
    | nil => rfl
    | cons other others => cases h
  | cons name names ih =>
    cases others with
    | nil => cases h
    | cons other others =>
      have htail : name.toList ++ pointedNames names = other.toList ++ pointedNames others := (List.cons.inj h).2
      obtain ⟨hname, hnames⟩ := List.forall_mem_cons.1 hnames
      obtain ⟨hother, hothers⟩ := List.forall_mem_cons.1 hothers
      have hsame : name.toList = other.toList := by
        rw [← takeWhile_pointedNames hname names, htail, takeWhile_pointedNames hother]
      rw [hsame] at htail
      rw [String.toList_inj.1 hsame, ih hnames hothers (List.append_cancel_left htail)]

theorem fullNameIn_inj {package : String} (hne : names ≠ []) (hne' : others ≠ [])
    (hnames : ∀ name ∈ names, IsShortName name) (hothers : ∀ name ∈ others, IsShortName name)
    (h : fullNameIn package names = fullNameIn package others) : names = others := by
  apply pointedNames_inj hnames hothers
  by_cases hpackage : package = ""
  · subst hpackage
    rw [← toList_fullNameIn_empty hne hnames, ← toList_fullNameIn_empty hne' hothers, h]
  · have hlist := congrArg String.toList h
    rw [toList_fullNameIn hpackage, toList_fullNameIn hpackage] at hlist
    exact List.append_cancel_left hlist

/-! ## The types of a file -/

section
variable {explicit : Bool} {enums : List EnumType} {file : List MessageDeclaration} {scope : String} {around : List String}

theorem mem_types_self (d : MessageDeclaration) :
    d.type explicit enums file scope around ∈ d.types explicit enums file scope around := by
  cases d
  exact List.mem_cons_self

theorem nested_subset_types (d : MessageDeclaration) :
    declaredTypes explicit enums file (qualified scope d.name) (d.name :: around) d.nested ⊆
      d.types explicit enums file scope around := by
  cases d
  exact List.subset_cons_self _ _

theorem types_subset (hd : d ∈ ds) :
    d.types explicit enums file scope around ⊆ declaredTypes explicit enums file scope around ds := by
  induction ds with
  | nil => cases hd
  | cons e ds ih =>
    unfold declaredTypes
    cases List.mem_cons.1 hd with
    | inl hd => exact hd ▸ List.subset_append_left _ _
    | inr hd => exact List.Subset.trans (ih hd) (List.subset_append_right _ _)

/-- Every declaration gives a type, whose scope are the names around it. -/
theorem Declares.mem_declaredTypes (h : Declares ds names d) (scope : String) (around : List String) :
    d.type explicit enums file (fullNameIn scope names) (names.reverse ++ around) ∈
      declaredTypes explicit enums file scope around ds := by
  induction h generalizing scope around with
  | here hd => exact types_subset hd (mem_types_self _)
  | inside hd _ ih =>
    refine types_subset hd (nested_subset_types _ ?_)
    rw [List.reverse_cons, List.append_assoc]
    exact ih _ _

mutual

/-- Every type of a declaration is its own or that of a declaration inside of it. -/
theorem exists_declares_of_types : ∀ (d : MessageDeclaration) (scope : String) (around : List String) {t : MessageType},
    t ∈ d.types explicit enums file scope around →
      ∃ names e, Declares [d] names e ∧
        t = e.type explicit enums file (fullNameIn scope names) (names.reverse ++ around)
  | ⟨name, fields, oneofs, nested, constraints⟩, scope, around, t, ht => by
    cases List.mem_cons.1 ht with
    | inl ht => exact ⟨[], _, .here List.mem_cons_self, ht⟩
    | inr ht =>
      obtain ⟨names, e, he, heq⟩ := exists_declares nested (qualified scope name) (name :: around) ht
      refine ⟨name :: names, e, .inside (d := ⟨name, fields, oneofs, nested, constraints⟩) List.mem_cons_self he, ?_⟩
      rw [heq, List.reverse_cons, List.append_assoc]
      rfl
termination_by structural x => x

theorem exists_declares : ∀ (ds : List MessageDeclaration) (scope : String) (around : List String) {t : MessageType},
    t ∈ declaredTypes explicit enums file scope around ds →
      ∃ names e, Declares ds names e ∧
        t = e.type explicit enums file (fullNameIn scope names) (names.reverse ++ around)
  | [], _, _, _, ht => by cases ht
  | d :: ds, scope, around, t, ht => by
    unfold declaredTypes at ht
    cases List.mem_append.1 ht with
    | inl ht =>
      obtain ⟨names, e, he, heq⟩ := exists_declares_of_types d scope around ht
      exact ⟨names, e, he.mono (by simp), heq⟩
    | inr ht =>
      obtain ⟨names, e, he, heq⟩ := exists_declares ds scope around ht
      exact ⟨names, e, he.mono (List.subset_cons_self _ _), heq⟩
termination_by structural x => x

end

end

theorem MessageDeclaration.type_name (explicit : Bool) (enums : List EnumType) (file : List MessageDeclaration) (package : String)
    (around names : List String) (d : MessageDeclaration) :
    (d.type explicit enums file (fullNameIn package names) around).name = fullNameIn package (names ++ [d.name]) := by
  rw [fullNameIn, fullNameIn, List.foldl_append]
  rfl

/-- Full names tell declarations apart. -/
theorem Declares.eq_of_fullName {package : String} (hs : HasScopes ds) (h : Declares ds names d)
    (h' : Declares ds others e)
    (hname : fullNameIn package (names ++ [d.name]) = fullNameIn package (others ++ [e.name])) :
    names = others ∧ d = e := by
  have hpath : names ++ [d.name] = others ++ [e.name] :=
    fullNameIn_inj (by simp) (by simp) (h.short hs) (h'.short hs) hname
  have hsame : some d = some e := by rw [← h.declarationAt? hs, hpath, h'.declarationAt? hs]
  exact ⟨(List.append_inj' hpath rfl).1, Option.some.inj hsame⟩

/-- The full name of a declared type leads to the type of that declaration. -/
theorem SchemaDeclaration.messageType_eq {D : SchemaDeclaration} (hD : HasScopes D.messages)
    (h : Declares D.messages names d) :
    D.schema.messageType (fullNameIn D.package (names ++ [d.name])) =
      d.type D.explicitPresence D.enumTypes D.messages (fullNameIn D.package names) names.reverse := by
  have hmem : d.type D.explicitPresence D.enumTypes D.messages (fullNameIn D.package names) names.reverse ∈
      D.schema.messages := by
    rw [← List.append_nil names.reverse]
    exact h.mem_declaredTypes D.package []
  unfold Schema.messageType Schema.message? Schema.types
  rw [List.find?_append]
  cases hfind : D.schema.messages.find? (·.name == fullNameIn D.package (names ++ [d.name])) with
  | none =>
    have hnot := List.find?_eq_none.1 hfind _ hmem
    rw [MessageDeclaration.type_name] at hnot
    exact absurd (beq_self_eq_true _) hnot
  | some t =>
    obtain ⟨others, e, he, ht⟩ := exists_declares _ _ _ (List.mem_of_find?_eq_some hfind)
    have hname := List.find?_some hfind
    rw [beq_iff_eq, ht, MessageDeclaration.type_name] at hname
    obtain ⟨rfl, rfl⟩ := he.eq_of_fullName hD h hname
    rw [ht, List.append_nil]
    rfl

end Conformance
