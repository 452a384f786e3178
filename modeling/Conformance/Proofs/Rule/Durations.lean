import Conformance.Proofs.Decimal.Numerals
import Conformance.Rule.Render

/-!
# Durations in texts

A duration parameter is written in seconds as a binary number with six digits. That is the exact value for durations of
up to six digits, and a rounded one for all others, so that several durations may share a text.
-/

namespace Conformance.Calendar.Span

open Decimal

variable {s : Span}

/-- Whether the span is one that can be held. -/
def InRange (s : Span) : Prop := least ≤ s.micros ∧ s.micros ≤ greatest

instance (s : Span) : Decidable s.InRange := inferInstanceAs (Decidable (_ ∧ _))

/-- The number of seconds. -/
def inSeconds (s : Span) : ℚ := s.micros / 10 ^ 6

/-- The number of seconds without its sign. -/
def magnitude (s : Span) : ℚ := s.micros.natAbs / 10 ^ 6

/-- Whether the span can be written with six digits, zeros and a point. -/
def HasSixDigits (s : Span) : Prop := ∃ n k : Nat, n < 10 ^ 6 ∧ s.micros.natAbs = n * 10 ^ k

theorem inSeconds_inj {s t : Span} (h : s.inSeconds = t.inSeconds) : s = t := by
  have hmicros : (s.micros : ℚ) = t.micros := (div_left_inj' (by norm_num)).1 h
  cases s
  cases t
  exact congrArg _ (Int.cast_inj.1 hmicros)

theorem inSeconds_eq (s : Span) : s.inSeconds = (if s.micros < 0 then -1 else 1) * s.magnitude := by
  unfold inSeconds magnitude
  rw [Nat.cast_natAbs, Int.cast_abs]
  split
  · rename_i hneg
    rw [abs_of_neg (Int.cast_lt_zero.2 hneg)]
    ring
  · rename_i hneg
    rw [abs_of_nonneg (by exact_mod_cast not_lt.1 hneg), one_mul]

theorem abs_sign (s : Span) : |(if s.micros < 0 then -1 else 1 : ℚ)| = 1 := by
  split <;> simp

theorem magnitude_nonneg (s : Span) : 0 ≤ s.magnitude := by
  unfold magnitude
  positivity

/-! ## Digits -/

/-- A number of microseconds that six digits of seconds are enough for. -/
theorem hasSixDigits_of_eq {n : Nat} {j : Int} (hn : n < 10 ^ 6) (h : s.magnitude = n * 10 ^ j) : s.HasSixDigits := by
  have hmicros : (s.micros.natAbs : ℚ) = n * 10 ^ (j + 6) := by
    rw [zpow_add₀ (by norm_num), ← mul_assoc, ← h]
    exact (div_mul_cancel₀ _ (by norm_num)).symm
  cases hshift : j + 6 with
  | ofNat k =>
    refine ⟨n, k, hn, ?_⟩
    rw [hshift, Int.ofNat_eq_natCast, zpow_natCast] at hmicros
    exact_mod_cast hmicros
  | negSucc k =>
    refine ⟨s.micros.natAbs, 0, ?_, (mul_one _).symm⟩
    rw [hshift, zpow_negSucc, ← div_eq_mul_inv, eq_div_iff (by positivity)] at hmicros
    have hwhole : s.micros.natAbs * 10 ^ (k + 1) = n := by exact_mod_cast hmicros
    exact (Nat.le_mul_of_pos_right _ (by positivity)).trans_lt (hwhole ▸ hn)

theorem HasSixDigits.exists_eq (h : s.HasSixDigits) : ∃ (n : Nat) (j : Int), n < 10 ^ 6 ∧ s.magnitude = n * 10 ^ j := by
  obtain ⟨n, k, hn, hmicros⟩ := h
  refine ⟨n, k - 6, hn, ?_⟩
  rw [magnitude, hmicros, zpow_sub₀ (by norm_num), zpow_natCast, ← mul_div_assoc]
  push_cast
  rfl

theorem layOut_finite (negative : Bool) (m : Nat) (e : Int) (count : Nat) :
    layOut (.finite negative m e) (.general count) {} =
      placeForm (roundToCount (Binary64.scaled m e).1.natAbs (Binary64.scaled m e).2 (max 1 count))
        (.general (max 1 count)) {} :=
  rfl

/-- What is laid out is a ratio close to the seconds. -/
theorem exists_roundSeconds (hs : s.InRange) (hne : s.micros ≠ 0) :
    ∃ num den : Nat, num ≠ 0 ∧ den ≠ 0 ∧
      layOut (Binary64.ofRatio s.micros 1000000) (.general 6) {} = placeForm (roundToCount num den 6) (.general 6) {} ∧
      |(num : ℚ) / den - s.magnitude| * 2 ^ 52 ≤ s.magnitude := by
  have hnum : s.micros.natAbs ≠ 0 := Int.natAbs_ne_zero.2 hne
  have hlog : s.micros.natAbs.log2 < 67 := by
    refine (Nat.log2_lt hnum).2 ?_
    have hlow : -86399999913600000000 ≤ s.micros := hs.1
    have hhigh : s.micros ≤ 86399999999999999999 := hs.2
    norm_num
    omega
  have hden : (1000000 : Nat).log2 = 19 := by decide +kernel
  obtain ⟨m, e, hround, hnear⟩ := Binary64.exists_roundTo (f := Binary64.double) hnum (show 1000000 ≠ 0 by decide)
    (decide (s.micros < 0)) (by simp only [Binary64.double]; omega) (by simp only [Binary64.double]; omega) (by decide)
  have hclose : |(m : ℚ) * 2 ^ e - s.magnitude| * 2 ^ 52 ≤ s.magnitude := by
    have h : |(m : ℚ) * 2 ^ e - s.micros.natAbs / (1000000 : Nat)| * 2 ^ (52 : Int) ≤ s.micros.natAbs / (1000000 : Nat) := hnear
    rw [magnitude]
    norm_num at h ⊢
    exact h
  rw [← Binary64.scaled_natAbs_ratio] at hclose
  refine ⟨(Binary64.scaled m e).1.natAbs, (Binary64.scaled m e).2, ?_, (Binary64.scaled_snd_pos m e).ne', ?_, hclose⟩
  · intro hzero
    have hpos : 0 < s.magnitude := by
      unfold magnitude
      positivity
    rw [hzero, Nat.cast_zero, zero_div, zero_sub, abs_neg, abs_of_pos hpos] at hclose
    linarith
  · rw [Binary64.ofRatio, hround, layOut_finite]
    rfl

/-- The digits that are laid out are exactly the seconds if six of them are enough, and close to the seconds anyhow. -/
theorem exists_layOut (hs : s.InRange) :
    ∃ d : Digits, layOut (Binary64.ofRatio s.micros 1000000) (.general 6) {} = placeForm d (.general 6) {} ∧
      AreDigits d.digits ∧ |d.value - s.magnitude| * 10 ^ 5 ≤ s.magnitude ∧ (d.value = s.magnitude ↔ s.HasSixDigits) := by
  by_cases hne : s.micros = 0
  · have hmagnitude : s.magnitude = 0 := by simp [magnitude, hne]
    have hvalue : (roundToCount 0 1 6).value = 0 := by
      simp [Digits.roundToCount_zero, Digits.value, ofDigits]
    refine ⟨roundToCount 0 1 6, ?_, Digits.areDigits_roundToCount _ _ _, ?_, ?_⟩
    · have hzero : Binary64.ofRatio 0 1000000 = .finite false 0 (-1074) := rfl
      rw [hne, hzero, layOut_finite, Binary64.scaled_zero, Int.natAbs_zero, Digits.roundToCount_zero,
        Digits.roundToCount_zero]
      rfl
    · simp [hvalue, hmagnitude]
    · simp only [hvalue, hmagnitude, true_iff]
      exact ⟨0, 0, by decide, by simp [hne]⟩
  · obtain ⟨num, den, hnum, hden, hlayOut, hclose⟩ := exists_roundSeconds hs hne
    have hround := Digits.abs_value_roundToCount_sub hnum hden (show 6 ≠ 0 by decide)
    have hkept (n : Nat) (j : Int) (hn : n < 10 ^ 6) (h : s.magnitude = n * 10 ^ j) :
        (roundToCount num den 6).value = n * 10 ^ j := by
      refine Digits.value_roundToCount_eq hnum hden (by decide) hn ?_
      rw [← h]
      have hnonneg := abs_nonneg ((num : ℚ) / den - s.magnitude)
      linarith
    refine ⟨roundToCount num den 6, hlayOut, Digits.areDigits_roundToCount _ _ _, ?_, ?_⟩
    · have htriangle := abs_sub_le (roundToCount num den 6).value (num / den) s.magnitude
      have hsize := (abs_le.1 (le_refl |(num : ℚ) / den - s.magnitude|)).2
      have hnonneg := s.magnitude_nonneg
      norm_num at hround hclose ⊢
      linarith
    · constructor
      · intro h
        obtain ⟨n, hn, j, hvalue⟩ := Digits.exists_value_roundToCount hnum hden (show 6 ≠ 0 by decide)
        exact hasSixDigits_of_eq hn (h.symm.trans hvalue)
      · intro h
        obtain ⟨n, j, hn, hvalue⟩ := h.exists_eq
        rw [hkept n j hn hvalue, hvalue]

/-! ## Texts -/

theorem rendered_eq (s : Span) :
    s.rendered = String.ofList ((if s.micros < 0 then ['-'] else []) ++
      layOut (Binary64.ofRatio s.micros 1000000) (.general 6) {}) ++ "s" := by
  unfold rendered
  rw [String.ofList_append]
  split <;> rfl

/-- The text of a span, as a numeral whose value can be told. -/
theorem exists_numeral (hs : s.InRange) :
    ∃ numeral q, s.rendered = String.ofList numeral ++ "s" ∧ numeralValue? numeral = some q ∧
      |q - s.inSeconds| * 10 ^ 5 ≤ |s.inSeconds| ∧ (q = s.inSeconds ↔ s.HasSixDigits) := by
  obtain ⟨d, hlayOut, hdigits, hnear, hexact⟩ := exists_layOut hs
  have hread := numeralValue?_placeForm hdigits 6 (decide (s.micros < 0))
  simp only [decide_eq_true_eq] at hread
  refine ⟨_, _, rendered_eq s, (congrArg (fun t => numeralValue? (_ ++ t)) hlayOut).trans hread, ?_, ?_⟩
  · rw [inSeconds_eq, ← mul_sub, abs_mul, abs_mul, abs_sign, one_mul, one_mul, abs_of_nonneg s.magnitude_nonneg]
    exact hnear
  · rw [inSeconds_eq, mul_right_inj' (abs_ne_zero.1 (by rw [abs_sign]; exact one_ne_zero))]
    exact hexact

/-- The text of a duration is a numeral for seconds. Its value is off by a hundred-thousandth part at most, and it is exact
if and only if the duration has no more than six digits; durations of so few digits never share a text. -/
theorem render_exact (hs : s.InRange) :
    (∃ numeral q, (Value.span s).render = .ok (String.ofList numeral ++ "s") ∧ numeralValue? numeral = some q ∧
      |q - s.inSeconds| * 10 ^ 5 ≤ |s.inSeconds| ∧ (q = s.inSeconds ↔ s.HasSixDigits)) ∧
    ∀ t : Span, t.InRange → s.HasSixDigits → t.HasSixDigits → (Value.span s).render = (Value.span t).render → s = t := by
  have hrender (t : Span) : (Value.span t).render = .ok t.rendered := rfl
  simp only [hrender, Except.ok.injEq]
  refine ⟨exists_numeral hs, fun t ht hsix htsix h => ?_⟩
  obtain ⟨numeral, q, htext, hvalue, -, hexact⟩ := exists_numeral hs
  obtain ⟨numeral', q', htext', hvalue', -, hexact'⟩ := exists_numeral ht
  have hsame : numeral = numeral' := by
    rw [htext, htext'] at h
    have hlists := congrArg String.toList h
    simp only [String.toList_append, String.toList_ofList] at hlists
    exact List.append_cancel_right hlists
  apply inSeconds_inj
  rw [← hexact.2 hsix, ← hexact'.2 htsix]
  exact Option.some.inj (hvalue.symm.trans (hsame ▸ hvalue'))

/-- A second and a half has two digits, so its text stands for just that, and 90 seconds have another text. -/
theorem render_exact_of_fraction :
    (⟨1500000⟩ : Span).InRange ∧
      (∃ numeral, (Value.span ⟨1500000⟩).render = .ok (String.ofList numeral ++ "s") ∧
        numeralValue? numeral = some (3 / 2)) ∧
      (Value.span ⟨1500000⟩).render ≠ (Value.span ⟨90000000⟩).render := by
  have hrange : (⟨1500000⟩ : Span).InRange := by decide
  have hsix : (⟨1500000⟩ : Span).HasSixDigits := ⟨15, 5, by decide, rfl⟩
  obtain ⟨⟨numeral, q, htext, hvalue, -, hexact⟩, hapart⟩ := render_exact hrange
  have hq : q = 3 / 2 := by
    rw [hexact.2 hsix, inSeconds]
    norm_num
  refine ⟨hrange, ⟨numeral, htext, hq ▸ hvalue⟩, fun h => ?_⟩
  have hsame := hapart ⟨90000000⟩ (by decide) hsix ⟨9, 7, by decide, rfl⟩ h
  cases hsame

/-- Two weeks and some hours: of the nine digits of 1234567.89 seconds six are left, and with them it is no longer told from
a longer duration. -/
theorem render_rounded :
    (⟨1234567890000⟩ : Span).InRange ∧ (⟨1234570000000⟩ : Span).InRange ∧
      (Value.span ⟨1234567890000⟩).render = .ok "1.23457e+06s" ∧
      (Value.span ⟨1234570000000⟩).render = .ok "1.23457e+06s" ∧
      (⟨1234567890000⟩ : Span) ≠ ⟨1234570000000⟩ ∧
      numeralValue? "1.23457e+06".toList = some 1234570 ∧ (⟨1234567890000⟩ : Span).inSeconds ≠ 1234570 := by
  refine ⟨by decide, by decide, by decide +kernel, by decide +kernel, by decide, ?_, ?_⟩
  · have hread : readScientific? "1.23457e+06".toList = some (123457, 1) := by decide
    have hsign : takeSign "1.23457e+06".toList = (false, "1.23457e+06".toList) := rfl
    rw [numeralValue?, hsign, hread, Option.map_some]
    norm_num
  · rw [inSeconds]
    norm_num

end Conformance.Calendar.Span
