import Mathlib.Data.List.Basic
import Mathlib.Data.List.Perm.Basic

/-!
# Where a relation is an equality

A relation that is computed may fail to be an equality: nothing makes an element equal to itself. Where it is one
for the parts of an element (`Reliable`), it is one for the collections of these parts, compared member by member, as
sets or as mappings.
-/

namespace Conformance

variable {α β κ : Type}

/-- A relation is an equality at an element: this equals itself, and what it equals may stand for it. -/
structure Reliable (eq : α → α → Bool) (a : α) : Prop where
  self : eq a a = true
  congr : ∀ {b}, eq a b = true → ∀ c, eq b c = eq a c

namespace Reliable

section
variable {eq : α → α → Bool} {a b c : α}

theorem symm (ha : Reliable eq a) (h : eq a b = true) : eq b a = true := (ha.congr h a).trans ha.self

theorem comm (ha : Reliable eq a) (hb : Reliable eq b) : eq a b = eq b a :=
  Bool.eq_iff_iff.2 ⟨ha.symm, hb.symm⟩

/-- Elements that equal the same one equal each other. -/
theorem joined (ha : Reliable eq a) (hb : Reliable eq b) (hac : eq a c = true) (hbc : eq b c = true) :
    eq a b = true := by
  rw [← ha.congr hac, hb.congr hbc]
  exact hb.self

/-- An element that equals itself alone. -/
theorem of_eq (h : ∀ b, eq a b = true ↔ a = b) : Reliable eq a where
  self := (h a).2 rfl
  congr hb _ := by rw [← (h _).1 hb]

theorem of_lawful [BEq α] [LawfulBEq α] (a : α) : Reliable (· == ·) a := of_eq fun _ => beq_iff_eq

/-- An element that equals those which stand for the same. -/
theorem of_value {value : α → Option β}
    (hvalue : ∀ {a x}, value a = some x → ∀ b, eq a b = true ↔ value b = some x) {x : β} (ha : value a = some x) :
    Reliable eq a where
  self := (hvalue ha a).2 ha
  congr {b} hab c := by rw [Bool.eq_iff_iff, hvalue ((hvalue ha b).1 hab), hvalue ha]

/-- An element is compared by what it is seen as, with those that can be seen in the same way. -/
theorem of_view {view : α → Option β} {eqv : β → β → Bool}
    (hview : ∀ {a x}, view a = some x → ∀ b, eq a b = true ↔ ∃ y, view b = some y ∧ eqv x y = true)
    {x : β} (ha : view a = some x) (hx : Reliable eqv x) : Reliable eq a where
  self := (hview ha a).2 ⟨x, ha, hx.self⟩
  congr {b} hab c := by
    obtain ⟨y, hb, hxy⟩ := (hview ha b).1 hab
    rw [Bool.eq_iff_iff, hview hb, hview ha]
    simp only [hx.congr hxy]

end

/-! ## Sequences -/

theorem isEqv {eq : α → α → Bool} {xs : List α} (h : ∀ x ∈ xs, Reliable eq x) :
    Reliable (fun xs ys => xs.isEqv ys eq) xs := by
  induction xs with
  | nil =>
    refine ⟨rfl, fun {ys} hys zs => ?_⟩
    cases ys with
    | nil => rfl
    | cons _ _ => cases hys
  | cons x xs ih =>
    obtain ⟨hx, hxs⟩ := List.forall_mem_cons.1 h
    refine ⟨by simp [List.isEqv, hx.self, (ih hxs).self], fun {ys} hys zs => ?_⟩
    cases ys with
    | nil => cases hys
    | cons y ys =>
      obtain ⟨hy, hys⟩ := (Bool.and_eq_true _ _).mp hys
      cases zs with
      | nil => rfl
      | cons z zs => simp only [List.isEqv, hx.congr hy, (ih hxs).congr hys]

/-! ## Sets -/

/-- Where each of some elements has a partner, no two of them the same one, and there are no more candidates than
elements, each candidate is a partner. -/
theorem exists_of_partners {r : α → β → Prop} {xs : List α} {ys : List β} (hpartner : ∀ x ∈ xs, ∃ y ∈ ys, r x y)
    (hdiffer : xs.Pairwise fun x z => ∀ y, r x y → ¬r z y) (hlength : ys.length ≤ xs.length) :
    ∀ y ∈ ys, ∃ x ∈ xs, r x y := by
  obtain ⟨zs, hlen, hsub, hnodup, hzs⟩ :
      ∃ zs : List β, zs.length = xs.length ∧ zs ⊆ ys ∧ zs.Nodup ∧ ∀ z ∈ zs, ∃ x ∈ xs, r x z := by
    clear hlength
    induction xs with
    | nil => exact ⟨[], rfl, List.nil_subset _, List.nodup_nil, fun z hz => absurd hz List.not_mem_nil⟩
    | cons x xs ih =>
      obtain ⟨⟨y, hy, hxy⟩, hrest⟩ := List.forall_mem_cons.1 hpartner
      obtain ⟨hx, hdiffer⟩ := List.pairwise_cons.1 hdiffer
      obtain ⟨zs, hlen, hsub, hnodup, hzs⟩ := ih hrest hdiffer
      have hnew : y ∉ zs := fun hmem =>
        have ⟨w, hw, hwy⟩ := hzs y hmem
        hx w hw y hxy hwy
      refine ⟨y :: zs, by rw [List.length_cons, List.length_cons, hlen], List.cons_subset.2 ⟨hy, hsub⟩,
        List.nodup_cons.2 ⟨hnew, hnodup⟩, List.forall_mem_cons.2 ⟨⟨x, List.mem_cons_self, hxy⟩, fun z hz => ?_⟩⟩
      obtain ⟨w, hw, hwz⟩ := hzs z hz
      exact ⟨w, List.mem_cons_of_mem _ hw, hwz⟩
  have hperm : zs.Perm ys := (List.subperm_of_subset hnodup hsub).perm_of_length_le (hlen ▸ hlength)
  exact fun y hy => hzs y (hperm.mem_iff.2 hy)

/-- What all elements pass, all partners pass as well. -/
theorem all_eq_of_partners {r : α → β → Prop} {p : α → Bool} {q : β → Bool} {xs : List α} {ys : List β}
    (hpartner : ∀ x ∈ xs, ∃ y ∈ ys, r x y) (hdiffer : xs.Pairwise fun x z => ∀ y, r x y → ¬r z y)
    (hlength : ys.length ≤ xs.length) (hr : ∀ x ∈ xs, ∀ y, r x y → q y = p x) : ys.all q = xs.all p := by
  rw [Bool.eq_iff_iff, List.all_eq_true, List.all_eq_true]
  constructor
  · intro h x hx
    obtain ⟨y, hy, hxy⟩ := hpartner x hx
    exact (hr x hx y hxy).symm.trans (h y hy)
  · intro h y hy
    obtain ⟨x, hx, hxy⟩ := exists_of_partners hpartner hdiffer hlength y hy
    exact (hr x hx y hxy).trans (h x hx)

/-- Sets of as many members, where each member of one occurs in the other. -/
def sameMembers (eq : α → α → Bool) (xs ys : List α) : Bool :=
  xs.length == ys.length && xs.all fun x => ys.any (eq x)

theorem members {eq : α → α → Bool} {xs : List α} (hdiffer : xs.Pairwise fun x y => eq x y = false)
    (h : ∀ x ∈ xs, Reliable eq x) : Reliable (sameMembers eq) xs where
  self := by
    have hall : ∀ x ∈ xs, ∃ y ∈ xs, eq x y = true := fun x hx => ⟨x, hx, (h x hx).self⟩
    simpa [sameMembers] using hall
  congr {ys} hys zs := by
    simp only [sameMembers, Bool.and_eq_true, beq_iff_eq, List.all_eq_true, List.any_eq_true] at hys
    obtain ⟨hlength, hoccur⟩ := hys
    have hall : (ys.all fun y => zs.any (eq y)) = xs.all fun x => zs.any (eq x) := by
      refine all_eq_of_partners hoccur (hdiffer.imp_of_mem fun {x z} hx hz hxz y hxy hzy => ?_)
        (Nat.le_of_eq hlength.symm) fun x hx y hxy => ?_
      · exact Bool.false_ne_true (hxz.symm.trans ((h x hx).joined (h z hz) hxy hzy))
      · rw [funext ((h x hx).congr hxy)]
    rw [sameMembers, sameMembers, hlength, hall]

/-! ## Mappings -/

/-- The key of an entry is there, and has an equal value at its first place. -/
def occurs (key : κ → κ → Bool) (value : α → α → Bool) (es : List (κ × α)) (e : κ × α) : Bool :=
  match es.find? fun f => key e.1 f.1 with
  | some f => value e.2 f.2
  | none => false

def sameMapping (key : κ → κ → Bool) (value : α → α → Bool) (es fs : List (κ × α)) : Bool :=
  es.length == fs.length && es.all (occurs key value fs)

section
variable {key : κ → κ → Bool} {value : α → α → Bool} {es : List (κ × α)}

theorem find?_self (hdiffer : es.Pairwise fun e f => key e.1 f.1 = false) {e : κ × α} (hkey : Reliable key e.1)
    (he : e ∈ es) : es.find? (fun f => key e.1 f.1) = some e := by
  induction es with
  | nil => cases he
  | cons f es ih =>
    obtain ⟨hf, hdiffer⟩ := List.pairwise_cons.1 hdiffer
    rcases List.mem_cons.1 he with rfl | he
    · exact List.find?_cons_of_pos hkey.self
    · have hne : key e.1 f.1 = false :=
        Bool.eq_false_iff.2 fun h => Bool.false_ne_true ((hf e he).symm.trans (hkey.symm h))
      simp only [List.find?_cons, hne, ih hdiffer he]

theorem exists_of_occurs {e : κ × α} (h : occurs key value es e = true) :
    ∃ f ∈ es, key e.1 f.1 = true ∧ value e.2 f.2 = true := by
  unfold occurs at h
  split at h
  · next f hf =>
    have hkey := List.find?_some hf
    exact ⟨f, List.mem_of_find?_eq_some hf, hkey, h⟩
  · cases h

theorem mapping (hdiffer : es.Pairwise fun e f => key e.1 f.1 = false) (hkey : ∀ e ∈ es, Reliable key e.1)
    (hvalue : ∀ e ∈ es, Reliable value e.2) : Reliable (sameMapping key value) es where
  self := by
    have hall : ∀ e ∈ es, occurs key value es e = true := fun e he => by
      rw [occurs, find?_self hdiffer (hkey e he) he]
      exact (hvalue e he).self
    simpa [sameMapping] using hall
  congr {fs} hfs gs := by
    simp only [sameMapping, Bool.and_eq_true, beq_iff_eq, List.all_eq_true] at hfs
    obtain ⟨hlength, hoccur⟩ := hfs
    have hall : fs.all (occurs key value gs) = es.all (occurs key value gs) := by
      refine all_eq_of_partners (fun e he => exists_of_occurs (hoccur e he))
        (hdiffer.imp_of_mem fun {e g} he hg heg f hef hgf => ?_) (Nat.le_of_eq hlength.symm) fun e he f hef => ?_
      · exact Bool.false_ne_true (heg.symm.trans ((hkey e he).joined (hkey g hg) hef.1 hgf.1))
      · rw [occurs, occurs, funext ((hkey e he).congr hef.1), funext ((hvalue e he).congr hef.2)]
    rw [sameMapping, sameMapping, hlength, hall]

end

end Reliable
end Conformance
