import Conformance.Address.Mail
import Conformance.Address.Uri
import Conformance.Proofs.Text.Search

/-!
# Shapes of addresses

What the parts of addresses are made of. No part has a line feed in it, but the line-based forms admit one after the
part, and the zone of an IP address may be anything.
-/

namespace Conformance.Address

open Conformance.Text

variable {c : Char} {s : List Char}

/-! ## Characters -/

theorem not_mem_of_all {p : Char → Bool} (h : s.all p = true) (hc : p c = false) : c ∉ s := by
  intro hmem
  have hp := List.all_eq_true.1 h c hmem
  rw [hc] at hp
  cases hp

theorem mem_intercalate {d : Char} {ps : List (List Char)} (h : c ∈ [d].intercalate ps) : c = d ∨ ∃ p ∈ ps, c ∈ p := by
  induction ps with
  | nil => cases h
  | cons p ps ih =>
    cases ps with
    | nil =>
      rw [List.intercalate_singleton] at h
      exact .inr ⟨p, List.mem_cons_self, h⟩
    | cons q ps =>
      rw [List.intercalate_cons_cons, List.append_assoc, List.singleton_append, List.mem_append, List.mem_cons] at h
      rcases h with h | h | h
      · exact .inr ⟨p, List.mem_cons_self, h⟩
      · exact .inl h
      · rcases ih h with h | ⟨r, hr, h⟩
        · exact .inl h
        · exact .inr ⟨r, List.mem_cons_of_mem _ hr, h⟩

theorem mem_piece {d : Char} (h : c ∈ s) : c = d ∨ ∃ p ∈ cutAtAll [d] s, c ∈ p := by
  have hjoin := (cutAtAll_pieces (c := d) s).2.1
  rw [← hjoin] at h
  exact mem_intercalate h

/-! ## Line-based forms -/

/-- The text, with a line feed after it where the mark is set. -/
def ended (mark : Bool) (s : List Char) : List Char := if mark then s ++ ['\n'] else s

theorem mem_ended {mark : Bool} (h : c ∈ ended mark s) : c = '\n' ∧ mark = true ∨ c ∈ s := by
  unfold ended at h
  split at h
  · next hmark =>
    rcases List.mem_append.1 h with h | h
    · exact .inr h
    · exact .inl ⟨List.mem_singleton.1 h, hmark⟩
  · exact .inr h

theorem not_mem_ended {mark : Bool} (hc : c ≠ '\n') (hs : c ∉ s) : c ∉ ended mark s := by
  intro h
  rcases mem_ended h with ⟨h, -⟩ | h
  · exact hc h
  · exact hs h

theorem holdsOfLine_eq_true {test : List Char → Bool} :
    holdsOfLine test s = true ↔ ∃ mark t, ended mark t = s ∧ test t = true := by
  unfold holdsOfLine
  rw [Bool.or_eq_true, Bool.and_eq_true, beq_iff_eq]
  constructor
  · rintro (h | ⟨hlast, h⟩)
    · exact ⟨false, s, rfl, h⟩
    · obtain ⟨t, rfl⟩ := List.getLast?_eq_some_iff.1 hlast
      exact ⟨true, t, rfl, by simpa using h⟩
  · rintro ⟨mark, t, rfl, h⟩
    cases mark with
    | false => exact .inl h
    | true => exact .inr ⟨by simp [ended], by simpa [ended] using h⟩

/-- A form without line feeds admits a text with one only if the line feed ends it. -/
theorem holdsOfLine_iff {test : List Char → Bool} (htest : ∀ t, test t = true → '\n' ∉ t) (hs : '\n' ∈ s) :
    holdsOfLine test s = true ↔ ∃ t, s = t ++ ['\n'] ∧ test t = true := by
  rw [holdsOfLine_eq_true]
  constructor
  · rintro ⟨mark, t, rfl, h⟩
    rcases mem_ended hs with ⟨-, rfl⟩ | hmem
    · exact ⟨t, rfl, h⟩
    · exact absurd hmem (htest t h)
  · rintro ⟨t, rfl, h⟩
    exact ⟨true, t, rfl, h⟩

theorem holdsOfLine_of_notMem {test : List Char → Bool} (hs : '\n' ∉ s) : holdsOfLine test s = test s := by
  unfold holdsOfLine
  have hlast : (s.getLast? == some '\n') = false := by
    rw [beq_eq_false_iff_ne]
    intro h
    exact hs (List.mem_of_getLast? h)
  rw [hlast, Bool.false_and, Bool.or_false]

/-! ## Labels and numerals -/

theorem label_chars (h : isLabel s = true) : s.all (fun c => isAsciiAlphanumeric c || c == '-') = true := by
  simp only [isLabel, Bool.and_eq_true] at h
  exact h.1.1.2

theorem label_ne_nil (h : isLabel s = true) : s ≠ [] := by
  rintro rfl
  simp [isLabel] at h

theorem not_mem_label (h : isLabel s = true) : '\n' ∉ s ∧ '.' ∉ s ∧ ':' ∉ s ∧ '[' ∉ s :=
  ⟨not_mem_of_all (label_chars h) (by decide), not_mem_of_all (label_chars h) (by decide),
    not_mem_of_all (label_chars h) (by decide), not_mem_of_all (label_chars h) (by decide)⟩

theorem not_mem_numeral (h : isNumeral s = true) : '\n' ∉ s ∧ ':' ∉ s ∧ '[' ∉ s := by
  simp only [isNumeral, Bool.and_eq_true] at h
  exact ⟨not_mem_of_all h.2 (by decide), not_mem_of_all h.2 (by decide), not_mem_of_all h.2 (by decide)⟩

/-! ## IP addresses -/

section
variable {α β : Type} {f : α → Option β} {xs : List α} {ys : List β}

theorem exists_of_mapM (h : xs.mapM f = some ys) :
    (∀ x ∈ xs, ∃ y, f x = some y) ∧ ∀ y ∈ ys, ∃ x ∈ xs, f x = some y := by
  induction xs generalizing ys with
  | nil =>
    cases h
    exact ⟨fun x hx => absurd hx List.not_mem_nil, fun y hy => absurd hy List.not_mem_nil⟩
  | cons x xs ih =>
    rw [List.mapM_cons] at h
    obtain ⟨y, hy, h⟩ := Option.bind_eq_some_iff.1 h
    obtain ⟨zs, hzs, h⟩ := Option.bind_eq_some_iff.1 h
    cases h
    obtain ⟨hxs, hys⟩ := ih hzs
    refine ⟨List.forall_mem_cons.2 ⟨⟨y, hy⟩, hxs⟩, List.forall_mem_cons.2 ⟨⟨x, List.mem_cons_self, hy⟩, fun z hz => ?_⟩⟩
    obtain ⟨w, hw, hfw⟩ := hys z hz
    exact ⟨w, List.mem_cons_of_mem x hw, hfw⟩

end

theorem octet?_eq_some {n : Nat} (h : octet? s = some n) : isNumeral s = true ∧ n ≤ 255 := by
  unfold octet? at h
  split at h
  · next hs =>
    simp only [Bool.and_eq_true, decide_eq_true_eq] at hs
    cases h
    exact ⟨hs.1.1.1, hs.2⟩
  · cases h

/-- A version 4 address is made of four octets between points. -/
theorem v4?_eq_some {n : Nat} (h : v4? s = some n) : ∃ a b c d, (cutAtAll ['.'] s).mapM octet? = some [a, b, c, d] ∧
    n = ((a * 256 + b) * 256 + c) * 256 + d := by
  unfold v4? at h
  split at h
  · next a b c d hmap =>
    cases h
    exact ⟨a, b, c, d, hmap, rfl⟩
  · cases h

theorem v4_chars {n : Nat} (h : v4? s = some n) (hc : c ∈ s) : c = '.' ∨ isAsciiDigit c = true := by
  obtain ⟨_, _, _, _, hmap, -⟩ := v4?_eq_some h
  rcases mem_piece hc with hdot | ⟨p, hp, hcp⟩
  · exact .inl hdot
  · obtain ⟨n, hn⟩ := (exists_of_mapM hmap).1 p hp
    have hnumeral := (octet?_eq_some hn).1
    simp only [isNumeral, Bool.and_eq_true] at hnumeral
    exact .inr (List.all_eq_true.1 hnumeral.2 c hcp)

theorem not_mem_v4 (h : (v4? s).isSome = true) : '\n' ∉ s ∧ ':' ∉ s ∧ '[' ∉ s := by
  obtain ⟨n, hn⟩ := Option.isSome_iff_exists.1 h
  exact ⟨fun hc => absurd (v4_chars hn hc) (by decide), fun hc => absurd (v4_chars hn hc) (by decide),
    fun hc => absurd (v4_chars hn hc) (by decide)⟩

theorem not_mem_group (h : (group? s).isSome = true) : '\n' ∉ s ∧ '[' ∉ s := by
  unfold group? at h
  split at h
  · next hs =>
    simp only [Bool.and_eq_true] at hs
    exact ⟨not_mem_of_all hs.2 (by decide), not_mem_of_all hs.2 (by decide)⟩
  · cases h

theorem not_mem_groups {ps : List (List Char)} {gs : List (Option Nat)} (h : groups? ps = some gs) :
    ∀ p ∈ ps, '\n' ∉ p ∧ '[' ∉ p := by
  induction ps using groups?.induct generalizing gs with
  | case1 => exact fun p hp => absurd hp List.not_mem_nil
  | case2 s hdot =>
    rw [groups?, if_pos hdot] at h
    obtain ⟨n, hn, -⟩ := Option.map_eq_some_iff.1 h
    obtain ⟨hline, -, hbracket⟩ := not_mem_v4 (s := s) (by rw [hn]; rfl)
    exact List.forall_mem_singleton.2 ⟨hline, hbracket⟩
  | case3 s hdot hempty => simp [List.isEmpty_iff.1 hempty]
  | case4 s hdot hempty =>
    rw [groups?, if_neg hdot, if_neg hempty] at h
    obtain ⟨n, hn, -⟩ := Option.map_eq_some_iff.1 h
    exact List.forall_mem_singleton.2 (not_mem_group (by rw [hn]; rfl))
  | case5 s rest hne hempty ih =>
    rw [groups?, if_pos hempty] at h
    · obtain ⟨gs, hgs, -⟩ := Option.map_eq_some_iff.1 h
      exact List.forall_mem_cons.2 ⟨by simp [List.isEmpty_iff.1 hempty], ih hgs⟩
    · exact hne
  | case6 s rest hne hempty ih =>
    rw [groups?, if_neg hempty] at h
    · obtain ⟨n, hn, h⟩ := Option.bind_eq_some_iff.1 h
      obtain ⟨gs, hgs, -⟩ := Option.map_eq_some_iff.1 h
      exact List.forall_mem_cons.2 ⟨not_mem_group (by rw [hn]; rfl), ih hgs⟩
    · exact hne

theorem v6_pieces {n : Nat} (h : v6? s = some n) : 3 ≤ (cutAtAll [':'] s).length ∧
    ∃ gs, groups? (cutAtAll [':'] s) = some gs := by
  unfold v6? at h
  dsimp only at h
  split at h
  · cases h
  · next hlength =>
    obtain ⟨gs, hgs, -⟩ := Option.bind_eq_some_iff.1 h
    exact ⟨Nat.not_lt.1 hlength, gs, hgs⟩

theorem not_mem_v6 {n : Nat} (h : v6? s = some n) : '\n' ∉ s ∧ '[' ∉ s := by
  obtain ⟨-, gs, hgs⟩ := v6_pieces h
  have hfree (c : Char) (hcolon : c ≠ ':') (hc : ∀ p ∈ cutAtAll [':'] s, c ∉ p) : c ∉ s := by
    intro hmem
    rcases mem_piece hmem with h | ⟨p, hp, hcp⟩
    · exact hcolon h
    · exact hc p hp hcp
  exact ⟨hfree _ (by decide) fun p hp => (not_mem_groups hgs p hp).1,
    hfree _ (by decide) fun p hp => (not_mem_groups hgs p hp).2⟩

theorem two_le_count_v6 {n : Nat} (h : v6? s = some n) : 2 ≤ s.count ':' := by
  have hpieces := (v6_pieces h).1
  rw [length_cutAtAll] at hpieces
  exact Nat.le_of_succ_le_succ hpieces

theorem mem_v6 {n : Nat} (h : v6? s = some n) : ':' ∈ s :=
  List.count_pos_iff.1 (Nat.lt_of_lt_of_le Nat.zero_lt_two (two_le_count_v6 h))

/-- An address of version 6 with a zone after it, which is not empty and has neither slashes nor percent signs. -/
def IsZoned (s : List Char) : Prop :=
  ∃ a z, s = a ++ '%' :: z ∧ isIp .v6 a = true ∧ '%' ∉ a ∧ '%' ∉ z ∧ '/' ∉ s ∧ z ≠ []

theorem v4?_eq_none (h : '\n' ∈ s ∨ ':' ∈ s) : v4? s = none := by
  cases h4 : v4? s with
  | none => rfl
  | some m =>
    have hfree := not_mem_v4 (s := s) (by rw [h4]; rfl)
    rcases h with h | h
    · exact absurd h hfree.1
    · exact absurd h hfree.2.1

theorem zoned?_plain (hz : '%' ∉ s) (hs : '/' ∉ s) : zoned? s = v6? s := by
  have hslash : s.contains '/' = false := by simpa using hs
  rw [zoned?, hslash, withoutZone?, splitFirst_eq_none.2 hz]
  rfl

theorem zoned?_eq_some {n : Nat} : zoned? s = some n ↔ '/' ∉ s ∧ ('%' ∉ s ∧ v6? s = some n ∨
    ∃ a z, s = a ++ '%' :: z ∧ v6? a = some n ∧ '%' ∉ a ∧ '%' ∉ z ∧ z ≠ []) := by
  unfold zoned?
  by_cases hslash : '/' ∈ s
  · simp [hslash]
  · rw [if_neg (by simpa using hslash), withoutZone?, and_iff_right hslash]
    cases hsplit : splitFirst '%' s with
    | none =>
      have hz := splitFirst_eq_none.1 hsplit
      constructor
      · exact fun h => .inl ⟨hz, h⟩
      · rintro (⟨-, h⟩ | ⟨a, z, rfl, -⟩)
        · exact h
        · exact absurd (List.mem_append_right a List.mem_cons_self) hz
    | some p =>
      obtain ⟨a, z⟩ := p
      obtain ⟨rfl, ha⟩ := splitFirst_eq_some.1 hsplit
      have hmem : '%' ∈ a ++ '%' :: z := List.mem_append_right a List.mem_cons_self
      dsimp only
      constructor
      · intro h
        split at h
        · cases h
        · next hz =>
          simp only [Bool.or_eq_true, List.isEmpty_iff, List.contains_eq_mem, decide_eq_true_eq, not_or] at hz
          exact .inr ⟨a, z, rfl, h, ha, hz.2, hz.1⟩
      · rintro (⟨hz, -⟩ | ⟨a', z', heq, h, ha', hz', hne⟩)
        · exact absurd hmem hz
        · -- The first percent sign is the same on both sides.
          have hsame := splitFirst_eq_some.2 ⟨heq, ha'⟩
          rw [hsplit] at hsame
          cases hsame
          rw [if_neg (by simp [hne, hz'])]
          exact h

theorem isIp_v6_iff : isIp .v6 s = true ↔ v4? s = none ∧ ∃ n, zoned? s = some n := by
  unfold isIp Ip.ofText?
  cases v4? s with
  | some n => simp
  | none => cases zoned? s <;> simp

/-- Of the texts with a line feed, those are addresses that have it in their zone. -/
theorem isZoned_iff (hs : '\n' ∈ s) : IsZoned s ↔ ∃ n, zoned? s = some n := by
  constructor
  · rintro ⟨a, z, rfl, ha, hza, hzz, hslash, hz⟩
    obtain ⟨-, n, hn⟩ := isIp_v6_iff.1 ha
    rw [zoned?_plain hza fun h => hslash (List.mem_append_left _ h)] at hn
    exact ⟨n, zoned?_eq_some.2 ⟨hslash, .inr ⟨a, z, rfl, hn, hza, hzz, hz⟩⟩⟩
  · rintro ⟨n, hn⟩
    obtain ⟨hslash, ⟨-, h⟩ | ⟨a, z, rfl, h, ha, hz, hne⟩⟩ := zoned?_eq_some.1 hn
    · exact absurd hs (not_mem_v6 h).1
    · refine ⟨a, z, rfl, isIp_v6_iff.2 ⟨v4?_eq_none (.inr (mem_v6 h)), n, ?_⟩, ha, hz, hslash, hne⟩
      rw [zoned?_plain ha fun h => hslash (List.mem_append_left _ h)]
      exact h

theorem isIp_iff_isZoned (hs : '\n' ∈ s) : isIp .v6 s = true ↔ IsZoned s := by
  rw [isIp_v6_iff, isZoned_iff hs, and_iff_right (v4?_eq_none (.inl hs))]

theorem isIp_v4 (h : isIp .v4 s = true) : '\n' ∉ s ∧ ':' ∉ s ∧ '[' ∉ s := by
  refine not_mem_v4 ?_
  unfold isIp Ip.ofText? at h
  cases hv4 : v4? s with
  | some n => rfl
  | none => cases hz : zoned? s <;> simp [hv4, hz] at h

theorem ofText?_isSome_iff (hs : '\n' ∈ s) : (Ip.ofText? s).isSome = true ↔ IsZoned s := by
  rw [isZoned_iff hs, Ip.ofText?, v4?_eq_none (.inl hs)]
  simp [Option.isSome_iff_exists]

end Conformance.Address
