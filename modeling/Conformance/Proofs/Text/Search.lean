import Conformance.Text.Search

/-!
# Cuts of sequences

A cut at the first or at the last occurrence of an element gives what stands before and after it. Cuts at all
occurrences give the pieces that, joined by the element, are the whole.
-/

namespace Conformance.Text

variable {α : Type} [BEq α] [LawfulBEq α] {c : α} {s a b : List α}

/-! ## First and last occurrences -/

theorem splitFirst_append (h : c ∉ a) : splitFirst c (a ++ c :: b) = some (a, b) := by
  induction a with
  | nil => simp [splitFirst]
  | cons d a ih =>
    obtain ⟨hd, ha⟩ := not_or.1 (mt List.mem_cons.2 h)
    rw [List.cons_append, splitFirst, if_neg (by simpa using Ne.symm hd), ih ha]
    rfl

theorem splitFirst_eq_none : splitFirst c s = none ↔ c ∉ s := by
  induction s with
  | nil => simp [splitFirst]
  | cons d s ih =>
    rw [splitFirst]
    by_cases hd : d = c
    · simp [hd]
    · simp [hd, Ne.symm hd, ih]

theorem splitFirst_eq_some : splitFirst c s = some (a, b) ↔ s = a ++ c :: b ∧ c ∉ a := by
  constructor
  · intro h
    induction s generalizing a with
    | nil => cases h
    | cons d s ih =>
      rw [splitFirst] at h
      by_cases hd : d = c
      · rw [if_pos (by simpa using hd)] at h
        cases h
        exact ⟨by rw [hd]; rfl, List.not_mem_nil⟩
      · rw [if_neg (by simpa using hd)] at h
        obtain ⟨⟨a', b'⟩, hs, hab⟩ := Option.map_eq_some_iff.1 h
        cases hab
        obtain ⟨rfl, ha⟩ := ih hs
        exact ⟨rfl, by simp [Ne.symm hd, ha]⟩
  · rintro ⟨rfl, ha⟩
    exact splitFirst_append ha

theorem splitLast_eq_none : splitLast c s = none ↔ c ∉ s := by
  induction s with
  | nil => simp [splitLast]
  | cons d s ih =>
    rw [splitLast]
    cases hs : splitLast c s with
    | none =>
      rw [hs] at ih
      by_cases hd : d = c
      · simp [hd]
      · simpa [hd, Ne.symm hd] using ih
    | some p =>
      have hc : c ∈ s := by simpa [hs] using ih
      simp [hc]

theorem splitLast_append (h : c ∉ b) : splitLast c (a ++ c :: b) = some (a, b) := by
  induction a with
  | nil => simp [splitLast, splitLast_eq_none.2 h]
  | cons d a ih => rw [List.cons_append, splitLast, ih]

theorem splitLast_eq_some : splitLast c s = some (a, b) ↔ s = a ++ c :: b ∧ c ∉ b := by
  constructor
  · intro h
    induction s generalizing a with
    | nil => cases h
    | cons d s ih =>
      rw [splitLast] at h
      cases hs : splitLast c s with
      | none =>
        rw [hs] at h
        by_cases hd : d = c
        · rw [if_pos (by simpa using hd)] at h
          cases h
          exact ⟨by rw [hd]; rfl, splitLast_eq_none.1 hs⟩
        · rw [if_neg (by simpa using hd)] at h
          cases h
      | some p =>
        obtain ⟨a', b'⟩ := p
        rw [hs] at h
        cases h
        obtain ⟨rfl, hb⟩ := ih hs
        exact ⟨rfl, hb⟩
  · rintro ⟨rfl, hb⟩
    exact splitLast_append hb

/-! ## All occurrences -/

theorem place?_eq_none : place? [c] s = none ↔ c ∉ s := by
  induction s with
  | nil => simp [place?]
  | cons d s ih =>
    rw [place?]
    by_cases hd : c = d
    · simp [hd]
    · simp [hd, ih]

theorem place?_append (h : c ∉ a) : place? [c] (a ++ c :: b) = some a.length := by
  induction a with
  | nil => simp [place?]
  | cons d a ih =>
    obtain ⟨hd, ha⟩ := not_or.1 (mt List.mem_cons.2 h)
    rw [List.cons_append, place?, if_neg (by simpa using hd), ih ha]
    rfl

theorem occursIn_singleton (s : List α) : occursIn [c] s = s.contains c := by
  rw [occursIn, Bool.eq_iff_iff, List.contains_iff_mem, Option.isSome_iff_ne_none, Ne, place?_eq_none, Decidable.not_not]

theorem cutAt_of_notMem (h : c ∉ s) (n : Nat) : cutAt [c] n s = [s] := by
  cases n with
  | zero => rfl
  | succ n =>
    rw [cutAt, place?_eq_none.2 h]
    rfl

theorem cutAt_append (h : c ∉ a) (n : Nat) : cutAt [c] (n + 1) (a ++ c :: b) = a :: cutAt [c] n b := by
  have hdrop : (a ++ c :: b).drop (a.length + [c].length) = b := by
    rw [List.drop_append]
    simp
  rw [cutAt, place?_append h]
  dsimp only
  rw [hdrop, List.take_left]
  rfl

/-- No more cuts are made than there are elements. -/
theorem cutAt_eq {n m : Nat} (hn : s.length ≤ n) (hm : s.length ≤ m) : cutAt [c] n s = cutAt [c] m s := by
  induction n generalizing m s with
  | zero =>
    obtain rfl : s = [] := List.length_eq_zero_iff.1 (Nat.le_zero.1 hn)
    rw [cutAt_of_notMem List.not_mem_nil, cutAt_of_notMem List.not_mem_nil]
  | succ n ih =>
    by_cases hc : c ∈ s
    · obtain ⟨a, b, rfl, ha⟩ := List.eq_append_cons_of_mem hc
      rw [List.length_append, List.length_cons] at hn hm
      obtain ⟨m, rfl⟩ : ∃ k, m = k + 1 := ⟨m - 1, by omega⟩
      have hb : cutAt [c] n b = cutAt [c] m b := ih (by omega) (by omega)
      rw [cutAt_append ha, cutAt_append ha, hb]
    · rw [cutAt_of_notMem hc, cutAt_of_notMem hc]

theorem cutAtAll_of_notMem (h : c ∉ s) : cutAtAll [c] s = [s] := cutAt_of_notMem h _

theorem cutAtAll_append (h : c ∉ a) : cutAtAll [c] (a ++ c :: b) = a :: cutAtAll [c] b := by
  have hlength : (a ++ c :: b).length = a.length + b.length + 1 := by
    rw [List.length_append, List.length_cons, Nat.add_assoc]
  rw [cutAtAll, hlength, cutAt_append h, cutAtAll, cutAt_eq (Nat.le_add_left ..) (Nat.le_refl _)]

/-- There is at least one piece, joined the pieces are the whole, and none of them has the element. -/
theorem cutAtAll_pieces (s : List α) :
    cutAtAll [c] s ≠ [] ∧ [c].intercalate (cutAtAll [c] s) = s ∧ ∀ p ∈ cutAtAll [c] s, c ∉ p := by
  by_cases hc : c ∈ s
  · obtain ⟨a, b, rfl, ha⟩ := List.eq_append_cons_of_mem hc
    obtain ⟨hne, hjoin, hps⟩ := cutAtAll_pieces b
    rw [cutAtAll_append ha]
    refine ⟨List.cons_ne_nil _ _, ?_, List.forall_mem_cons.2 ⟨ha, hps⟩⟩
    obtain ⟨q, qs, hq⟩ := List.exists_cons_of_ne_nil hne
    rw [hq] at hjoin ⊢
    rw [List.intercalate_cons_cons, hjoin, List.append_assoc]
    rfl
  · rw [cutAtAll_of_notMem hc]
    exact ⟨List.cons_ne_nil _ _, List.intercalate_singleton, by simpa using hc⟩
termination_by s.length
decreasing_by
  rename_i h _
  simp only [h, List.length_append, List.length_cons]
  omega

theorem length_cutAtAll (s : List α) : (cutAtAll [c] s).length = s.count c + 1 := by
  by_cases hc : c ∈ s
  · obtain ⟨a, b, rfl, ha⟩ := List.eq_append_cons_of_mem hc
    rw [cutAtAll_append ha, List.length_cons, length_cutAtAll b, List.count_append, List.count_eq_zero.2 ha,
      List.count_cons_self, Nat.zero_add]
  · rw [cutAtAll_of_notMem hc, List.count_eq_zero.2 hc, List.length_singleton]
termination_by s.length
decreasing_by
  rename_i h _
  simp only [h, List.length_append, List.length_cons]
  omega

theorem cutAtAll_eq_iff {ps : List (List α)} :
    cutAtAll [c] s = ps ↔ ps ≠ [] ∧ [c].intercalate ps = s ∧ ∀ p ∈ ps, c ∉ p := by
  constructor
  · rintro rfl
    exact cutAtAll_pieces s
  · rintro ⟨hne, rfl, hps⟩
    induction ps with
    | nil => exact absurd rfl hne
    | cons p ps ih =>
      have hp := hps p List.mem_cons_self
      cases ps with
      | nil => rw [List.intercalate_singleton, cutAtAll_of_notMem hp]
      | cons q ps =>
        rw [List.intercalate_cons_cons, List.append_assoc, List.singleton_append, cutAtAll_append hp]
        rw [ih (by simp) fun r hr => hps r (List.mem_cons_of_mem _ hr)]

end Conformance.Text
