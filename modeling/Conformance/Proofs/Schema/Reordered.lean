import Mathlib.Data.List.Perm.Basic
import Conformance.Proofs.Schema.Conforming
import Conformance.Proofs.Report.Places

/-!
# The order of map entries

Messages that differ only in the order in which the entries of their maps were inserted, at any depth. Equality of
messages does not tell them apart, and their maps are the same in the order of the keys.
-/

namespace Conformance

mutual

/-- The same datum, but for the order of the entries of maps inside of it. -/
inductive Datum.Reorders : Datum → Datum → Prop
  | plain {d : Datum} : (∀ m, d ≠ .message m) → Datum.Reorders d d
  | message {m n : Message} : Message.Reorders m n → Datum.Reorders (.message m) (.message n)

inductive EntryReorders : Datum × Datum → Datum × Datum → Prop
  | entry {k d e : Datum} : Datum.Reorders d e → EntryReorders (k, d) (k, e)

/-- The entries of a map may stand in another order. -/
inductive Content.Reorders : Content → Content → Prop
  | single {d e : Datum} : Datum.Reorders d e → Content.Reorders (.single d) (.single e)
  | repeated {ds es : List Datum} : List.Forall₂ Datum.Reorders ds es → Content.Reorders (.repeated ds) (.repeated es)
  | entries {es fs gs : List (Datum × Datum)} : List.Forall₂ EntryReorders es fs → fs.Perm gs →
    Content.Reorders (.entries es) (.entries gs)

inductive FieldReorders : String × Content → String × Content → Prop
  | field {name : String} {c b : Content} : Content.Reorders c b → FieldReorders (name, c) (name, b)

inductive Message.Reorders : Message → Message → Prop
  | mk {type : String} {fs gs : List (String × Content)} : List.Forall₂ FieldReorders fs gs →
    Message.Reorders (.mk type fs) (.mk type gs)

end

/-! ## Every message is one of its reorderings -/

mutual

theorem Datum.Reorders.refl : ∀ d : Datum, d.Reorders d
  | .message m => .message (Message.Reorders.refl m)
  | .bool _ => .plain (by intro m h; cases h)
  | .int _ => .plain (by intro m h; cases h)
  | .float _ => .plain (by intro m h; cases h)
  | .text _ => .plain (by intro m h; cases h)
  | .bytes _ => .plain (by intro m h; cases h)
termination_by structural d => d

theorem forall₂_reorders_refl : ∀ ds : List Datum, List.Forall₂ Datum.Reorders ds ds
  | [] => .nil
  | d :: ds => .cons (Datum.Reorders.refl d) (forall₂_reorders_refl ds)
termination_by structural ds => ds

theorem EntryReorders.refl : ∀ e : Datum × Datum, EntryReorders e e
  | (_, d) => .entry (Datum.Reorders.refl d)
termination_by structural e => e

theorem forall₂_entryReorders_refl : ∀ es : List (Datum × Datum), List.Forall₂ EntryReorders es es
  | [] => .nil
  | e :: es => .cons (EntryReorders.refl e) (forall₂_entryReorders_refl es)
termination_by structural es => es

theorem Content.Reorders.refl : ∀ c : Content, c.Reorders c
  | .single d => .single (Datum.Reorders.refl d)
  | .repeated ds => .repeated (forall₂_reorders_refl ds)
  | .entries es => .entries (forall₂_entryReorders_refl es) (.refl es)
termination_by structural c => c

theorem FieldReorders.refl : ∀ f : String × Content, FieldReorders f f
  | (_, c) => .field (Content.Reorders.refl c)
termination_by structural f => f

theorem forall₂_fieldReorders_refl : ∀ fs : List (String × Content), List.Forall₂ FieldReorders fs fs
  | [] => .nil
  | f :: fs => .cons (FieldReorders.refl f) (forall₂_fieldReorders_refl fs)
termination_by structural fs => fs

theorem Message.Reorders.refl : ∀ m : Message, m.Reorders m
  | .mk _ fs => .mk (forall₂_fieldReorders_refl fs)
termination_by structural m => m

end

/-! ## What a reordered message holds -/

theorem rel_lookup {fs gs : List (String × Content)} (h : List.Forall₂ FieldReorders fs gs) (name : String) :
    Option.Rel Content.Reorders (fs.lookup name) (gs.lookup name) := by
  induction h with
  | nil => exact .none
  | cons hf _ ih =>
    cases hf with
    | @field other _ _ hc =>
      rw [List.lookup_cons, List.lookup_cons]
      cases name == other with
      | true => exact .some hc
      | false => exact ih

namespace Message.Reorders

variable {m n : Message}

theorem type_eq (h : m.Reorders n) : m.type = n.type := by
  cases h
  rfl

theorem isEmpty_fields (h : m.Reorders n) : m.fields.isEmpty = n.fields.isEmpty := by
  obtain ⟨hf⟩ := h
  cases hf <;> rfl

theorem content (h : m.Reorders n) (name : String) :
    Option.Rel Content.Reorders (m.content? name) (n.content? name) := by
  obtain ⟨hf⟩ := h
  exact rel_lookup hf name

theorem isSet_eq (h : m.Reorders n) (name : String) : m.isSet name = n.isSet name := by
  have hc := h.content name
  unfold isSet
  generalize m.content? name = c, n.content? name = b at hc
  cases hc <;> rfl

theorem single (h : m.Reorders n) (name : String) : Option.Rel Datum.Reorders (m.single? name) (n.single? name) := by
  have hc := h.content name
  unfold single?
  generalize m.content? name = c, n.content? name = b at hc
  cases hc with
  | none => exact .none
  | some hc =>
    cases hc with
    | single hd => exact .some hd
    | _ => exact .none

theorem elements (h : m.Reorders n) (name : String) :
    List.Forall₂ Datum.Reorders (m.elements name) (n.elements name) := by
  have hc := h.content name
  unfold Message.elements
  generalize m.content? name = c, n.content? name = b at hc
  cases hc with
  | none => exact .nil
  | some hc =>
    cases hc with
    | «repeated» hds => exact hds
    | _ => exact .nil

theorem entries (h : m.Reorders n) (name : String) :
    ∃ fs, List.Forall₂ EntryReorders (m.entries name) fs ∧ fs.Perm (n.entries name) := by
  have hc := h.content name
  unfold Message.entries
  generalize m.content? name = c, n.content? name = b at hc
  cases hc with
  | none => exact ⟨[], .nil, .nil⟩
  | some hc =>
    cases hc with
    | entries hes hp => exact ⟨_, hes, hp⟩
    | _ => exact ⟨[], .nil, .nil⟩

end Message.Reorders

theorem Datum.Reorders.isZero_eq {d e : Datum} (h : d.Reorders e) : d.isZero = e.isZero := by
  cases h with
  | plain _ => rfl
  | message hm => exact hm.isEmpty_fields

/-! ## Keys -/

theorem Datum.ofDatum_eq_of_same {a b : Datum} (h : a.same b = true) : Key.ofDatum a = Key.ofDatum b := by
  cases a <;> cases b <;> simp_all [Datum.same, Key.ofDatum]

theorem Datum.ofDatum_eq_of_keyLe {a b : Datum} (hab : a.keyLe b = true) (hba : b.keyLe a = true) :
    Key.ofDatum a = Key.ofDatum b := by
  cases a <;> cases b <;> simp_all [Datum.keyLe, Datum.keyRank, Key.ofDatum]
  case bool.bool a b => cases a <;> simp_all
  case int.int => exact Int.le_antisymm hab hba
  case text.text => exact String.le_antisymm hab hba

section
variable {es fs gs : List (Datum × Datum)}

theorem eq_of_key (h : (es.map (Key.ofDatum ·.1)).Nodup) {a b : Datum × Datum} (ha : a ∈ es) (hb : b ∈ es)
    (hk : Key.ofDatum a.1 = Key.ofDatum b.1) : a = b := by
  have hfind := find?_entry h ha
  rw [hk, find?_entry h hb] at hfind
  exact (Option.some.inj hfind).symm

theorem keys_eq (h : List.Forall₂ EntryReorders es fs) : es.map (·.1) = fs.map (·.1) := by
  induction h with
  | nil => rfl
  | cons he _ ih =>
    obtain ⟨_⟩ := he
    rw [List.map_cons, List.map_cons, ih]

theorem nodup_keys (h : List.Forall₂ EntryReorders es fs) (hn : (es.map (Key.ofDatum ·.1)).Nodup) :
    (fs.map (Key.ofDatum ·.1)).Nodup := by
  have hkeys := congrArg (List.map Key.ofDatum) (keys_eq h)
  rw [List.map_map, List.map_map] at hkeys
  exact hkeys ▸ hn

/-- Where keys differ, the order of the entries does not matter for the one that is found. -/
theorem find?_perm (h : (es.map (Key.ofDatum ·.1)).Nodup) (hp : es.Perm fs) (k : Datum) :
    es.find? (fun e => k.same e.1) = fs.find? (fun e => k.same e.1) := by
  cases hfind : es.find? fun e => k.same e.1 with
  | none =>
    refine (List.find?_eq_none.2 fun e he => ?_).symm
    exact List.find?_eq_none.1 hfind e (hp.mem_iff.2 he)
  | some a =>
    have ha : k.same a.1 = true := by simpa using List.find?_some hfind
    have hmem : a ∈ fs := hp.mem_iff.1 (List.mem_of_find?_eq_some hfind)
    cases hother : fs.find? fun e => k.same e.1 with
    | none => exact absurd ha (List.find?_eq_none.1 hother a hmem)
    | some b =>
      have hb : k.same b.1 = true := by simpa using List.find?_some hother
      have hkey : Key.ofDatum a.1 = Key.ofDatum b.1 :=
        (Datum.ofDatum_eq_of_same ha).symm.trans (Datum.ofDatum_eq_of_same hb)
      have hfs : (fs.map (Key.ofDatum ·.1)).Nodup := (hp.map _).nodup h
      rw [eq_of_key hfs hmem (List.mem_of_find?_eq_some hother) hkey]

theorem rel_find? (h : List.Forall₂ EntryReorders es fs) (k : Datum) :
    Option.Rel EntryReorders (es.find? fun e => k.same e.1) (fs.find? fun e => k.same e.1) := by
  induction h with
  | nil => exact .none
  | cons he _ ih =>
    cases he with
    | @entry other _ _ hd =>
      rw [List.find?_cons, List.find?_cons]
      cases k.same other with
      | true => exact .some (.entry hd)
      | false => exact ih

/-- In the order of the keys, reordered entries are the same one by one. -/
theorem inKeyOrder_reorders (hn : (es.map (Key.ofDatum ·.1)).Nodup) (h : List.Forall₂ EntryReorders es fs)
    (hp : fs.Perm gs) : List.Forall₂ EntryReorders (inKeyOrder es) (inKeyOrder gs) := by
  obtain ⟨hs, hrel, hperm⟩ := List.perm_comp_forall₂ (inKeyOrder_perm es) h
  have hsorted : hs.Pairwise fun a b => a.1.keyLe b.1 = true := by
    have hkeys : ((inKeyOrder es).map (·.1)).Pairwise fun a b => a.keyLe b = true :=
      List.pairwise_map.2 (pairwise_inKeyOrder es)
    rw [keys_eq hrel] at hkeys
    exact List.pairwise_map.1 hkeys
  have hsame : hs.Perm (inKeyOrder gs) := (hperm.trans hp).trans (inKeyOrder_perm gs).symm
  have hnodup : (hs.map (Key.ofDatum ·.1)).Nodup := nodup_keys hrel (((inKeyOrder_perm es).map _).nodup_iff.2 hn)
  have heq : hs = inKeyOrder gs := by
    refine List.Perm.eq_of_pairwise (fun a b ha hb hab hba => ?_) hsorted (pairwise_inKeyOrder gs) hsame
    exact eq_of_key hnodup ha (hsame.mem_iff.2 hb) (Datum.ofDatum_eq_of_keyLe hab hba)
  exact heq ▸ hrel

end

/-! ## Equality -/

theorem sameEntries_eq_all {as bs : List (Datum × Datum)} : sameEntries as bs = as.all (entryOccurs · bs) := by
  induction as with
  | nil => rfl
  | cons a as ih => rw [sameEntries, List.all_cons, ih]

/-- All maps of a content, and of the messages inside of it, have one entry for each key. -/
def Content.Keyed (c : Content) : Prop := c.isKeyed = true ∧ c.everywhere (·.isKeyed) = true

theorem fields_keyed {t : String} {fs : List (String × Content)} (h : (Message.mk t fs).Keyed) {f : String × Content}
    (hf : f ∈ fs) : f.2.Keyed := by
  obtain ⟨hown, hinner⟩ := Message.everywhere_iff.1 h
  exact ⟨List.all_eq_true.1 hown f hf, hinner f hf⟩

mutual

/-- Equality does not see the order of entries on either side. The keys on the right are looked up, so they have to
be different; those on the left need not be. -/
theorem Datum.Reorders.same_eq : ∀ {d e a b : Datum}, d.Reorders e → a.Reorders b → a.everywhere (·.isKeyed) = true →
    d.same a = e.same b
  | .message m, _, _, _, .message hm, .message hn, ha => Message.Reorders.same_eq hm hn ha
  | .message m, _, a, _, .message hm, .plain hp, _ => by
    cases a with
    | message n => exact absurd rfl (hp n)
    | _ => rfl
  | .message m, _, _, _, .plain hp, _, _ => absurd rfl (hp m)
  | .bool _, _, _, _, .plain _, .message _, _ => rfl
  | .int _, _, _, _, .plain _, .message _, _ => rfl
  | .float _, _, _, _, .plain _, .message _, _ => rfl
  | .text _, _, _, _, .plain _, .message _, _ => rfl
  | .bytes _, _, _, _, .plain _, .message _, _ => rfl
  | _, _, _, _, .plain _, .plain _, _ => rfl
termination_by structural d => d

theorem sameData_reorders : ∀ {ds es as bs : List Datum}, List.Forall₂ Datum.Reorders ds es →
    List.Forall₂ Datum.Reorders as bs → allEverywhere (·.isKeyed) as = true → sameData ds as = sameData es bs
  | [], _, _, _, .nil, .nil, _ => rfl
  | [], _, _, _, .nil, .cons _ _, _ => rfl
  | _ :: _, _, _, _, .cons _ _, .nil, _ => rfl
  | d :: ds, _, a :: as, _, .cons hd hds, .cons ha has, hk => by
    rw [allEverywhere, Bool.and_eq_true] at hk
    rw [sameData, sameData, Datum.Reorders.same_eq hd ha hk.1, sameData_reorders hds has hk.2]
termination_by structural ds => ds

theorem EntryReorders.occurs_eq : ∀ {d e : Datum × Datum} {as bs cs : List (Datum × Datum)}, EntryReorders d e →
    List.Forall₂ EntryReorders as bs → bs.Perm cs → (Content.entries as).Keyed → entryOccurs d as = entryOccurs e cs
  | (k, d), _, as, bs, cs, .entry hd, has, hp, hk => by
    have hn : (as.map (Key.ofDatum ·.1)).Nodup := of_decide_eq_true hk.1
    have hfind := rel_find? has k
    rw [find?_perm (nodup_keys has hn) hp] at hfind
    have hmem : ∀ a, as.find? (fun e => k.same e.1) = some a → a.2.everywhere (·.isKeyed) = true := fun a ha =>
      (entriesEverywhere_iff.1 hk.2 a (List.mem_of_find?_eq_some ha)).2
    rw [entryOccurs, entryOccurs]
    generalize as.find? (fun e => k.same e.1) = a, cs.find? (fun e => k.same e.1) = b at hfind hmem
    cases hfind with
    | none => rfl
    | some ha =>
      obtain ⟨ha⟩ := ha
      exact Datum.Reorders.same_eq hd ha (hmem _ rfl)
termination_by structural d => d

theorem sameEntries_reorders : ∀ {ds es as bs cs : List (Datum × Datum)}, List.Forall₂ EntryReorders ds es →
    List.Forall₂ EntryReorders as bs → bs.Perm cs → (Content.entries as).Keyed → sameEntries ds as = sameEntries es cs
  | [], _, _, _, _, .nil, _, _, _ => rfl
  | d :: ds, _, _, _, _, .cons hd hds, has, hp, hk => by
    rw [sameEntries, sameEntries, EntryReorders.occurs_eq hd has hp hk, sameEntries_reorders hds has hp hk]
termination_by structural ds => ds

theorem Content.Reorders.same_eq : ∀ {c b a d : Content}, c.Reorders b → a.Reorders d → a.Keyed → c.same a = b.same d
  | .single d, _, _, _, .single hd, ha, hk => by
    cases ha with
    | single ha => exact Datum.Reorders.same_eq hd ha hk.2
    | _ => rfl
  | .repeated ds, _, _, _, .repeated hds, ha, hk => by
    cases ha with
    | «repeated» has => exact sameData_reorders hds has hk.2
    | _ => rfl
  | .entries ds, _, _, _, .entries hds hp, ha, hk => by
    cases ha with
    | entries has hq =>
      have hentries := sameEntries_reorders hds has hq hk
      rw [Content.same, Content.same, hentries, sameEntries_eq_all, sameEntries_eq_all, hp.all_eq, hds.length_eq,
        has.length_eq, hp.length_eq, hq.length_eq]
    | _ => rfl
termination_by structural c => c

theorem FieldReorders.occurs_eq : ∀ {f g : String × Content} {as bs : List (String × Content)}, FieldReorders f g →
    List.Forall₂ FieldReorders as bs → (∀ a ∈ as, a.2.Keyed) → fieldOccurs f as = fieldOccurs g bs
  | (name, c), _, as, bs, .field hc, has, hk => by
    have hlookup := rel_lookup has name
    have hmem : ∀ a, as.lookup name = some a → a.Keyed := fun a ha => hk _ (mem_of_lookup ha)
    rw [fieldOccurs, fieldOccurs]
    generalize as.lookup name = a, bs.lookup name = b at hlookup hmem
    cases hlookup with
    | none => rfl
    | some ha => exact Content.Reorders.same_eq hc ha (hmem _ rfl)
termination_by structural f => f

theorem sameFields_reorders : ∀ {fs gs as bs : List (String × Content)}, List.Forall₂ FieldReorders fs gs →
    List.Forall₂ FieldReorders as bs → (∀ a ∈ as, a.2.Keyed) → sameFields fs as = sameFields gs bs
  | [], _, _, _, .nil, _, _ => rfl
  | f :: fs, _, _, _, .cons hf hfs, has, hk => by
    rw [sameFields, sameFields, FieldReorders.occurs_eq hf has hk, sameFields_reorders hfs has hk]
termination_by structural fs => fs

theorem Message.Reorders.same_eq : ∀ {m n a b : Message}, m.Reorders n → a.Reorders b → a.Keyed → m.same a = n.same b
  | .mk t fs, _, _, _, .mk hfs, .mk has, hk => by
    rw [Message.same, Message.same, sameFields_reorders hfs has fun _ ha => fields_keyed hk ha, hfs.length_eq,
      has.length_eq]
termination_by structural m => m

end

end Conformance
