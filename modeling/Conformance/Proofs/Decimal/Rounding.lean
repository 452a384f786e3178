import Conformance.Decimal.Binary64
import Mathlib.Algebra.Order.Field.Power
import Mathlib.Algebra.Order.Ring.Abs
import Mathlib.Data.Rat.Cast.Order
import Mathlib.Tactic.FieldSimp
import Mathlib.Tactic.Linarith
import Mathlib.Tactic.Positivity
import Mathlib.Tactic.Ring

/-!
# Rounding

A ratio rounded to an integer is off by half at most, and rounded to a format whose range it is well inside of by a part in
as many as the format has significands, or two times as many.
-/

namespace Conformance.Decimal

theorem cast_natPow (b n : Nat) : ((Nat.pow b n : Nat) : ℚ) = (b : ℚ) ^ n :=
  Nat.cast_pow b n

theorem natPow_pos {b : Nat} (hb : 0 < b) (n : Nat) : 0 < Nat.pow b n :=
  Nat.pow_pos hb

namespace Binary64

/-! ## Ratios to integers -/

theorem roundDiv_bounds (num : Nat) {den : Nat} (hden : 0 < den) :
    2 * num ≤ 2 * (den * roundDiv num den) + den ∧ 2 * (den * roundDiv num den) ≤ 2 * num + den := by
  have hsplit := Nat.div_add_mod num den
  have hmod := Nat.mod_lt num hden
  have hnext : den * (num / den + 1) = den * (num / den) + den := Nat.mul_succ ..
  unfold roundDiv
  dsimp only
  split
  · omega
  · split
    · omega
    · split <;> omega

theorem abs_roundDiv_sub (num : Nat) {den : Nat} (hden : 0 < den) :
    |(roundDiv num den : ℚ) - num / den| ≤ 1 / 2 := by
  obtain ⟨hlow, hhigh⟩ := roundDiv_bounds num hden
  have hpos : (0 : ℚ) < den := Nat.cast_pos.2 hden
  have hlow' : 2 * (num : ℚ) ≤ 2 * (den * roundDiv num den) + den := by exact_mod_cast hlow
  have hhigh' : 2 * (den * (roundDiv num den : ℚ)) ≤ 2 * num + den := by exact_mod_cast hhigh
  have hcommon : (roundDiv num den : ℚ) - num / den = (2 * (den * roundDiv num den) - 2 * num) / (2 * den) := by
    field_simp
  rw [hcommon, abs_div, abs_of_pos (mul_pos two_pos hpos), div_le_iff₀ (mul_pos two_pos hpos), abs_le]
  constructor <;> linarith

theorem roundScaled_natCast (num den e : Nat) : roundScaled num den (e : Int) = roundDiv num (den * Nat.pow 2 e) :=
  rfl

theorem roundScaled_negSucc (num den e : Nat) :
    roundScaled num den (.negSucc e) = roundDiv (num * Nat.pow 2 (e + 1)) den :=
  rfl

theorem abs_roundScaled_sub (num : Nat) {den : Nat} (hden : 0 < den) (e : Int) :
    |(roundScaled num den e : ℚ) - num / den / 2 ^ e| ≤ 1 / 2 := by
  cases e with
  | ofNat e =>
    have h := abs_roundDiv_sub num (Nat.mul_pos hden (natPow_pos (b := 2) (by decide) e))
    rw [Nat.cast_mul, cast_natPow, ← div_div] at h
    simpa only [Int.ofNat_eq_natCast, roundScaled_natCast, zpow_natCast, Nat.cast_ofNat] using h
  | negSucc e =>
    have h := abs_roundDiv_sub (num * Nat.pow 2 (e + 1)) hden
    rw [Nat.cast_mul, cast_natPow, mul_div_right_comm] at h
    simpa only [roundScaled_negSucc, zpow_negSucc, div_inv_eq_mul, Nat.cast_ofNat] using h

/-- Of what is close enough to an integer, rounding makes this integer. -/
theorem roundDiv_eq {num den n : Nat} (hden : 0 < den) (h : |(num : ℚ) / den - n| < 1 / 2) : roundDiv num den = n := by
  have hround := abs_roundDiv_sub num hden
  have hdist : |(roundDiv num den : ℚ) - n| < 1 := by
    calc |(roundDiv num den : ℚ) - n| ≤ |(roundDiv num den : ℚ) - num / den| + |(num : ℚ) / den - n| :=
          abs_sub_le ..
      _ < 1 := by linarith
  have hint : |(roundDiv num den : ℤ) - n| < 1 := by exact_mod_cast hdist
  have hzero := Int.abs_lt_one_iff.1 hint
  omega

/-! ## Ratios to formats -/

theorem scaled_ratio (n e : Int) : ((scaled n e).1 : ℚ) / (scaled n e).2 = n * 2 ^ e := by
  cases e with
  | ofNat e =>
    have hpow : ((Int.pow 2 e : Int) : ℚ) = 2 ^ e := Int.cast_pow 2 e
    simp only [scaled, Int.cast_mul, hpow, Nat.cast_one, div_one, Int.ofNat_eq_natCast, zpow_natCast]
  | negSucc e =>
    simp only [scaled, cast_natPow, Nat.cast_ofNat, zpow_negSucc, div_eq_mul_inv]

theorem scaled_zero (e : Int) : (scaled (0 : Nat) e).1 = 0 := by
  cases e with
  | ofNat e => exact Int.zero_mul _
  | negSucc e => rfl

theorem scaled_natAbs_ratio (m : Nat) (e : Int) : ((scaled m e).1.natAbs : ℚ) / (scaled m e).2 = m * 2 ^ e := by
  have hnonneg : 0 ≤ (scaled m e).1 := by
    cases e with
    | ofNat e => exact Int.mul_nonneg (Int.natCast_nonneg m) (Int.pow_nonneg (by decide))
    | negSucc e => exact Int.natCast_nonneg m
  rw [← Int.cast_natCast, Int.natAbs_of_nonneg hnonneg, scaled_ratio, Int.cast_natCast]

theorem scaled_snd_pos (n e : Int) : 0 < (scaled n e).2 := by
  cases e with
  | ofNat e => exact Nat.one_pos
  | negSucc e => exact natPow_pos (by decide) _

theorem exists_canonical (negative : Bool) {m : Nat} (hm : m ≠ 0) (e : Int) :
    ∃ m' e', canonical negative m e = .finite negative m' e' ∧ (m' : ℚ) * 2 ^ e' = m * 2 ^ e := by
  refine ⟨_, _, if_neg hm, ?_⟩
  rw [Nat.cast_mul, cast_natPow, mul_assoc, Nat.cast_ofNat, ← zpow_natCast, ← zpow_add₀ (by norm_num)]
  congr 2
  omega

/-- The size of a ratio as the number of bits that its parts differ by. -/
theorem two_zpow_le_div {num den : Nat} (hnum : num ≠ 0) (hden : den ≠ 0) :
    (2 : ℚ) ^ ((num.log2 : Int) - den.log2 - 1) ≤ num / den := by
  have hlow : (2 : ℚ) ^ (num.log2 : Int) ≤ num := by
    rw [zpow_natCast]
    exact_mod_cast Nat.log2_self_le hnum
  have hhigh : (den : ℚ) ≤ 2 ^ ((den.log2 : Int) + 1) := by
    have h : den ≤ 2 ^ (den.log2 + 1) := Nat.lt_log2_self.le
    exact_mod_cast h
  have hpos : (0 : ℚ) < den := by exact_mod_cast Nat.pos_of_ne_zero hden
  calc (2 : ℚ) ^ ((num.log2 : Int) - den.log2 - 1) = 2 ^ (num.log2 : Int) / 2 ^ ((den.log2 : Int) + 1) := by
        rw [← zpow_sub₀ (by norm_num)]
        congr 1
        omega
    _ ≤ num / den := div_le_div₀ (by positivity) hlow hpos hhigh

/-- Half of the last place is a small part of a number that has many places. -/
theorem abs_sub_mul_le {v : ℚ} {m : Nat} {e p : Int} (hnear : |(m : ℚ) - v / 2 ^ e| ≤ 1 / 2)
    (hplaces : 2 ^ (p - 1) ≤ v / 2 ^ e) : |(m : ℚ) * 2 ^ e - v| * 2 ^ p ≤ v := by
  have hpos : (0 : ℚ) < 2 ^ e := by positivity
  have hshift : (m : ℚ) * 2 ^ e - v = (m - v / 2 ^ e) * 2 ^ e := by
    rw [sub_mul, div_mul_cancel₀ _ hpos.ne']
  have hdouble : (2 : ℚ) ^ p = 2 * 2 ^ (p - 1) := by
    rw [← zpow_one_add₀ (by norm_num), add_sub_cancel]
  rw [hshift, abs_mul, abs_of_pos hpos, hdouble]
  rw [le_div_iff₀ hpos] at hplaces
  calc |(m : ℚ) - v / 2 ^ e| * 2 ^ e * (2 * 2 ^ (p - 1)) ≤ 1 / 2 * 2 ^ e * (2 * 2 ^ (p - 1)) := by gcongr
    _ = 2 ^ (p - 1) * 2 ^ e := by ring
    _ ≤ v := hplaces

/-- A significand with one bit too many is halved, which changes nothing else. -/
theorem half_mul_zpow {p : Nat} (hp : p ≠ 0) (e : Int) :
    ((Nat.pow 2 p / 2 : Nat) : ℚ) * 2 ^ (e + 1) = (Nat.pow 2 p : Nat) * 2 ^ e := by
  obtain ⟨q, rfl⟩ := Nat.exists_eq_succ_of_ne_zero hp
  have hhalf : Nat.pow 2 (q + 1) / 2 = Nat.pow 2 q := Nat.mul_div_cancel _ two_pos
  rw [hhalf, cast_natPow, cast_natPow, zpow_add_one₀ (by norm_num), pow_succ]
  ring

/-- A ratio well inside the range of a format is rounded to a finite number. The exponent is chosen such that at least half
of the significands are used, so half of the last place is a small part of the number. -/
theorem exists_roundTo {f : Format} {num den : Nat} (hnum : num ≠ 0) (hden : den ≠ 0) (negative : Bool)
    (hleast : f.least ≤ (num.log2 : Int) - den.log2 - f.precision)
    (hgreatest : (num.log2 : Int) - den.log2 - f.precision + 2 ≤ f.greatest) (hprecision : 2 ≤ f.precision) :
    ∃ m e, roundTo f negative num den = .finite negative m e ∧
      |(m : ℚ) * 2 ^ e - num / den| * 2 ^ ((f.precision : Int) - 1) ≤ num / den := by
  unfold roundTo
  rw [if_neg hnum]
  dsimp only
  generalize hguess : (num.log2 : Int) - den.log2 - f.precision = guess at hleast hgreatest ⊢
  obtain ⟨e, he, hexp⟩ : ∃ e ≤ guess + 1, max f.least
      (if roundScaled num den (guess + 1) < Nat.pow 2 (f.precision - 1) then guess else guess + 1) = e := by
    refine ⟨_, ?_, rfl⟩
    split <;> omega
  rw [hexp]
  have hnear := abs_roundScaled_sub num (Nat.pos_of_ne_zero hden) e
  generalize roundScaled num den e = m at hnear ⊢
  have hplaces : (2 : ℚ) ^ ((f.precision : Int) - 1 - 1) ≤ num / den / 2 ^ e := by
    rw [le_div_iff₀ (by positivity), ← zpow_add₀ (by norm_num)]
    refine le_trans (zpow_le_zpow_right₀ (by norm_num) ?_) (two_zpow_le_div hnum hden)
    omega
  have herror := abs_sub_mul_le hnear hplaces
  have hm : m ≠ 0 := by
    rintro rfl
    have hone : (1 : ℚ) ≤ 2 ^ ((f.precision : Int) - 1 - 1) := one_le_zpow₀ (by norm_num) (by omega)
    rw [Nat.cast_zero, zero_sub, abs_neg, abs_of_nonneg (by positivity)] at hnear
    linarith
  by_cases hfull : m = Nat.pow 2 f.precision
  · simp only [if_pos hfull]
    rw [if_neg (by omega), hfull]
    have hhalf : Nat.pow 2 f.precision / 2 ≠ 0 := by
      have hfour : 2 ^ 2 ≤ Nat.pow 2 f.precision := Nat.pow_le_pow_right two_pos hprecision
      omega
    obtain ⟨m', e', hcanonical, hvalue⟩ := exists_canonical negative hhalf (e + 1)
    refine ⟨m', e', hcanonical, ?_⟩
    rwa [hvalue, half_mul_zpow (by omega), ← hfull]
  · simp only [if_neg hfull]
    rw [if_neg (by omega)]
    obtain ⟨m', e', hcanonical, hvalue⟩ := exists_canonical negative hm e
    exact ⟨m', e', hcanonical, by rwa [hvalue]⟩

end Binary64
end Conformance.Decimal
