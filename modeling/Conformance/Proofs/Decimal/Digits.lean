import Conformance.Decimal.Digits
import Conformance.Proofs.Decimal.Rounding
import Conformance.Text.Digit
import Mathlib.Data.List.DropRight

/-!
# Decimal digits

What digits stand for, exactly. Zeros in front and behind do not count, and a ratio rounded to a count of digits is
found again if it has no more of them.
-/

namespace Conformance.Decimal

open Text

variable {ds : List Char}

/-! ## Digits as numbers -/

theorem ofDigits_eq_ofDigitChars (ds : List Char) : ofDigits ds = Nat.ofDigitChars 10 ds 0 := by
  unfold ofDigits
  rw [Nat.ofDigitChars_eq_foldl]
  simp only [Nat.mul_comm 10]
  rfl

@[simp] theorem ofDigits_digitsOf (n : Nat) : ofDigits (digitsOf n) = n := by
  rw [ofDigits_eq_ofDigitChars, digitsOf, Nat.ofDigitChars_ten_toDigits]

theorem ofDigits_append (ds es : List Char) :
    ofDigits (ds ++ es) = Nat.pow 10 es.length * ofDigits ds + ofDigits es := by
  simp only [ofDigits_eq_ofDigitChars]
  rw [Nat.ofDigitChars_append, Nat.ofDigitChars_eq_ofDigitChars_zero]
  rfl

@[simp] theorem ofDigits_zeros (n : Nat) : ofDigits (List.replicate n '0') = 0 := by
  rw [ofDigits_eq_ofDigitChars, Nat.ofDigitChars_replicate_zero, Nat.mul_zero]

theorem ofDigits_zeros_append (n : Nat) (ds : List Char) : ofDigits (List.replicate n '0' ++ ds) = ofDigits ds := by
  rw [ofDigits_append, ofDigits_zeros, Nat.mul_zero, Nat.zero_add]

theorem digitsOf_ne_nil (n : Nat) : digitsOf n ≠ [] :=
  Nat.toDigits_ne_nil

/-- A list of decimal digits. -/
def AreDigits (ds : List Char) : Prop := ∀ c ∈ ds, isAsciiDigit c = true

theorem areDigits_digitsOf (n : Nat) : AreDigits (digitsOf n) :=
  fun _ hc => Nat.isDigit_of_mem_toDigits (by decide) (by decide) hc

theorem areDigits_zeros (n : Nat) : AreDigits (List.replicate n '0') := by
  intro c hc
  rw [List.eq_of_mem_replicate hc]
  rfl

theorem AreDigits.append {es : List Char} (hds : AreDigits ds) (hes : AreDigits es) : AreDigits (ds ++ es) := by
  intro c hc
  cases List.mem_append.1 hc with
  | inl hc => exact hds c hc
  | inr hc => exact hes c hc

theorem AreDigits.all (hds : AreDigits ds) : ds.all isAsciiDigit = true :=
  List.all_eq_true.2 hds

/-- As many digits as the number has, and one digit less is not enough. -/
theorem length_digitsOf_bounds {n : Nat} (hn : n ≠ 0) :
    (10 : ℚ) ^ (((digitsOf n).length : Int) - 1) ≤ n ∧ (n : ℚ) < 10 ^ ((digitsOf n).length : Int) := by
  have hlength : ∀ k, 0 < k → ((digitsOf n).length ≤ k ↔ n < 10 ^ k) := fun k hk =>
    Nat.length_toDigits_le_iff (by decide) hk
  obtain ⟨k, hk⟩ := Nat.exists_eq_add_of_le' (List.length_pos_of_ne_nil (digitsOf_ne_nil n))
  rw [hk] at hlength ⊢
  constructor
  · rw [Nat.cast_add_one, add_sub_cancel_right, zpow_natCast]
    by_cases hzero : k = 0
    · rw [hzero, pow_zero]
      exact_mod_cast Nat.pos_of_ne_zero hn
    · have hlow := mt (hlength k (Nat.pos_of_ne_zero hzero)).2 (by omega)
      exact_mod_cast Nat.not_lt.1 hlow
  · rw [zpow_natCast]
    exact_mod_cast (hlength (k + 1) k.succ_pos).1 le_rfl

/-! ## Rounding to digits -/

theorem unscale_ratio (num den : Nat) (scale : Int) :
    ((unscale num den scale).1 : ℚ) / (unscale num den scale).2 = num / den / 10 ^ scale := by
  cases scale with
  | ofNat s =>
    simp only [unscale, Nat.cast_mul, cast_natPow, Nat.cast_ofNat, Int.ofNat_eq_natCast, zpow_natCast, div_div]
  | negSucc s =>
    simp only [unscale, Nat.cast_mul, cast_natPow, Nat.cast_ofNat, zpow_negSucc, div_inv_eq_mul, mul_div_right_comm]

theorem unscale_snd_pos (num : Nat) {den : Nat} (hden : 0 < den) (scale : Int) : 0 < (unscale num den scale).2 := by
  cases scale with
  | ofNat s => exact Nat.mul_pos hden (natPow_pos (by decide) s)
  | negSucc s => exact hden

theorem leadingExponent_bounds {num den : Nat} (hnum : num ≠ 0) (hden : den ≠ 0) :
    (10 : ℚ) ^ leadingExponent num den ≤ num / den ∧ (num : ℚ) / den < 10 ^ (leadingExponent num den + 1) := by
  obtain ⟨hnumLow, hnumHigh⟩ := length_digitsOf_bounds hnum
  obtain ⟨hdenLow, hdenHigh⟩ := length_digitsOf_bounds hden
  have hpos : (0 : ℚ) < den := by exact_mod_cast Nat.pos_of_ne_zero hden
  have hratio := unscale_ratio num den ((digitsOf num).length - (digitsOf den).length)
  have hsnd := unscale_snd_pos num (Nat.pos_of_ne_zero hden) ((digitsOf num).length - (digitsOf den).length)
  unfold leadingExponent
  dsimp only
  generalize unscale num den ((digitsOf num).length - (digitsOf den).length) = u at hratio hsnd ⊢
  have hle : u.2 ≤ u.1 ↔ (10 : ℚ) ^ (((digitsOf num).length : Int) - (digitsOf den).length) ≤ num / den := by
    rw [← one_le_div₀ (by positivity : (0 : ℚ) < 10 ^ (((digitsOf num).length : Int) - (digitsOf den).length)), ← hratio,
      one_le_div₀ (Nat.cast_pos.2 hsnd), Nat.cast_le]
  by_cases h : u.2 ≤ u.1
  · rw [if_pos h]
    refine ⟨hle.1 h, ?_⟩
    rw [div_lt_iff₀ hpos]
    calc (num : ℚ) < 10 ^ ((digitsOf num).length : Int) := hnumHigh
      _ = 10 ^ (((digitsOf num).length : Int) - (digitsOf den).length + 1) * 10 ^ (((digitsOf den).length : Int) - 1) := by
        rw [← zpow_add₀ (by norm_num)]
        congr 1
        omega
      _ ≤ _ := by gcongr
  · rw [if_neg h]
    rw [sub_add_cancel]
    refine ⟨?_, not_le.1 (mt hle.2 h)⟩
    rw [le_div_iff₀ hpos]
    calc (10 : ℚ) ^ (((digitsOf num).length : Int) - (digitsOf den).length - 1) * den
        ≤ 10 ^ (((digitsOf num).length : Int) - (digitsOf den).length - 1) * 10 ^ ((digitsOf den).length : Int) := by gcongr
      _ = 10 ^ (((digitsOf num).length : Int) - 1) := by
        rw [← zpow_add₀ (by norm_num)]
        congr 1
        omega
      _ ≤ num := hnumLow

namespace Digits

/-- The number that the digits stand for. -/
def value (d : Digits) : ℚ := ofDigits d.digits * 10 ^ (d.point - d.digits.length)

theorem value_ofScaled (n : Nat) (scale : Int) : (ofScaled n scale).value = n * 10 ^ scale := by
  unfold value ofScaled
  dsimp only
  rw [ofDigits_digitsOf, add_sub_cancel_left]

theorem areDigits_trimmed {d : Digits} (hd : AreDigits d.digits) : AreDigits d.trimmed.digits := by
  have hrest : AreDigits (d.digits.rdropWhile (· == '0')) := fun c hc => hd c ((List.rdropWhile_prefix _ _).subset hc)
  unfold trimmed
  split
  · exact areDigits_zeros 1
  · exact hrest

theorem value_append_zeros (ds : List Char) (n : Nat) (point : Int) :
    value ⟨ds ++ List.replicate n '0', point⟩ = value ⟨ds, point⟩ := by
  unfold value
  dsimp only
  rw [ofDigits_append, ofDigits_zeros, List.length_append, List.length_replicate, Nat.add_zero, Nat.cast_mul, cast_natPow,
    mul_comm, ← mul_assoc, Nat.cast_ofNat, ← zpow_natCast, ← zpow_add₀ (by norm_num), mul_comm]
  congr 2
  omega

/-- Zeros at the end do not count. -/
theorem value_trimmed (d : Digits) : d.trimmed.value = d.value := by
  have hsplit : d.digits.rdropWhile (· == '0') ++ d.digits.rtakeWhile (· == '0') = d.digits :=
    List.rdropWhile_append_rtakeWhile
  have hzeros : d.digits.rtakeWhile (· == '0') = List.replicate (d.digits.rtakeWhile (· == '0')).length '0' :=
    List.eq_replicate_of_mem fun c hc => by simpa using List.mem_rtakeWhile_imp hc
  have hdigits : d.digits =
      d.digits.rdropWhile (· == '0') ++ List.replicate (d.digits.rtakeWhile (· == '0')).length '0' := by
    rw [← hzeros, hsplit]
  have hvalue : d.value = value ⟨d.digits.rdropWhile (· == '0'), d.point⟩ :=
    (congrArg (fun ds => value ⟨ds, d.point⟩) hdigits).trans (value_append_zeros ..)
  rw [hvalue]
  unfold trimmed
  split
  · rename_i hnil
    have hkept : d.digits.rdropWhile (· == '0') = [] := hnil
    rw [hkept]
    simp [value, ofDigits]
  · rfl

/-! ### Rounding to a count of digits -/

theorem roundToCount_zero (den count : Nat) : roundToCount 0 den count = ⟨List.replicate count '0', 1⟩ :=
  if_pos rfl

/-- Of a number that is not zero as many digits are kept as are asked for. -/
theorem value_roundToCount {num : Nat} (hnum : num ≠ 0) (den : Nat) {count : Nat} (hcount : count ≠ 0) {scale : Int}
    (hscale : leadingExponent num den - count + 1 = scale) :
    (roundToCount num den count).value =
      Binary64.roundDiv (unscale num den scale).1 (unscale num den scale).2 * 10 ^ scale := by
  unfold roundToCount
  rw [if_neg hnum]
  dsimp only
  rw [hscale]
  split
  · rename_i hfull
    rw [hfull, value_ofScaled]
    obtain ⟨k, rfl⟩ := Nat.exists_eq_succ_of_ne_zero hcount
    rw [Nat.succ_sub_one, cast_natPow, cast_natPow, zpow_add_one₀ (by norm_num), pow_succ]
    push_cast
    ring
  · rw [value_ofScaled]

/-- Half of the last digit is a small part of a number whose first digit is not zero. -/
theorem abs_value_roundToCount_sub {num den count : Nat} (hnum : num ≠ 0) (hden : den ≠ 0) (hcount : count ≠ 0) :
    |(roundToCount num den count).value - num / den| * (2 * 10 ^ ((count : Int) - 1)) ≤ num / den := by
  obtain ⟨scale, hscale⟩ : ∃ scale, leadingExponent num den - count + 1 = scale := ⟨_, rfl⟩
  obtain ⟨hlow, -⟩ := leadingExponent_bounds hnum hden
  have hnear := Binary64.abs_roundDiv_sub (unscale num den scale).1 (unscale_snd_pos num (Nat.pos_of_ne_zero hden) scale)
  have hpos : (0 : ℚ) < 10 ^ scale := by positivity
  rw [unscale_ratio] at hnear
  rw [value_roundToCount hnum den hcount hscale]
  generalize Binary64.roundDiv _ _ = n at hnear ⊢
  have hshift : (n : ℚ) * 10 ^ scale - num / den = (n - num / den / 10 ^ scale) * 10 ^ scale := by
    rw [sub_mul, div_mul_cancel₀ _ hpos.ne']
  rw [hshift, abs_mul, abs_of_pos hpos]
  calc |(n : ℚ) - num / den / 10 ^ scale| * 10 ^ scale * (2 * 10 ^ ((count : Int) - 1))
      ≤ 1 / 2 * 10 ^ scale * (2 * 10 ^ ((count : Int) - 1)) := by gcongr
    _ = 10 ^ (scale + (count - 1)) := by
      rw [zpow_add₀ (by norm_num)]
      ring
    _ = 10 ^ leadingExponent num den := by
      congr 1
      omega
    _ ≤ num / den := hlow

/-- A number with few digits is a multiple of the last place that is kept of anything close to it. -/
theorem lastPlace_le_of_near {x : ℚ} {n count : Nat} {j k : Int} (hlow : 10 ^ k ≤ x) (hn : n < 10 ^ count)
    (hnear : |x - n * 10 ^ j| * (4 * 10 ^ count) ≤ n * 10 ^ j) : k - count + 1 ≤ j := by
  by_contra hlt
  have hn' : (n : ℚ) + 1 ≤ 10 ^ count := by exact_mod_cast hn
  have hpos : (0 : ℚ) < 10 ^ j := by positivity
  have hlarge : (10 : ℚ) ^ count * 10 ^ j ≤ x := by
    rw [← zpow_natCast, ← zpow_add₀ (by norm_num)]
    exact (zpow_le_zpow_right₀ (by norm_num) (by omega)).trans hlow
  -- So the number is a unit of its own last place away.
  have hgap : ((n : ℚ) + 1) * 10 ^ j ≤ 10 ^ count * 10 ^ j := by gcongr
  have habove := (abs_le.1 (le_refl |x - n * 10 ^ j|)).2
  have hfar : 10 ^ j * (4 * 10 ^ count) ≤ |x - n * 10 ^ j| * (4 * 10 ^ count) := by
    gcongr
    linarith
  have hfull : (0 : ℚ) < 10 ^ count * 10 ^ j := by positivity
  linarith

/-- Numbers that are close to each other are less than half of the last place apart. -/
theorem abs_sub_lt_of_near {x y : ℚ} {count : Nat} {scale : Int} (hhigh : x < 10 ^ count * 10 ^ scale)
    (hnear : |x - y| * (4 * 10 ^ count) ≤ y) : |x - y| < 1 / 2 * 10 ^ scale := by
  by_contra hlarge
  have hbelow := (abs_le.1 (le_refl |x - y|)).1
  have hnonneg := abs_nonneg (x - y)
  have hone : (1 : ℚ) ≤ 10 ^ count := one_le_pow₀ (by norm_num)
  generalize |x - y| = error at hnear hlarge hbelow hnonneg
  have hsmall : error * (4 * 1) ≤ error * (4 * 10 ^ count) := by gcongr
  have hfar : 1 / 2 * 10 ^ scale * (4 * 10 ^ count) ≤ error * (4 * 10 ^ count) := by
    gcongr
    exact not_lt.1 hlarge
  have hfull : (0 : ℚ) < 10 ^ count * 10 ^ scale := by positivity
  linarith

/-- What has no more digits than are kept is found again in everything close to it. -/
theorem value_roundToCount_eq {num den count n : Nat} {j : Int} (hnum : num ≠ 0) (hden : den ≠ 0) (hcount : count ≠ 0)
    (hn : n < 10 ^ count) (hnear : |(num : ℚ) / den - n * 10 ^ j| * (4 * 10 ^ count) ≤ n * 10 ^ j) :
    (roundToCount num den count).value = n * 10 ^ j := by
  obtain ⟨scale, hscale⟩ : ∃ scale, leadingExponent num den - count + 1 = scale := ⟨_, rfl⟩
  obtain ⟨hlow, hhigh⟩ := leadingExponent_bounds hnum hden
  obtain ⟨t, ht⟩ : ∃ t : Nat, scale + t = j := Int.le.dest (hscale ▸ lastPlace_le_of_near hlow hn hnear)
  have hpos : (0 : ℚ) < 10 ^ scale := by positivity
  have hpow : (n : ℚ) * 10 ^ j = (n * 10 ^ t : Nat) * 10 ^ scale := by
    rw [← ht, zpow_add₀ (by norm_num), zpow_natCast]
    push_cast
    ring
  have hbound : (num : ℚ) / den < 10 ^ count * 10 ^ scale := by
    rw [← zpow_natCast, ← zpow_add₀ (by norm_num)]
    exact hhigh.trans_le (zpow_le_zpow_right₀ (by norm_num) (by omega))
  have hclose : |((unscale num den scale).1 : ℚ) / (unscale num den scale).2 - (n * 10 ^ t : Nat)| < 1 / 2 := by
    have hshift : (num : ℚ) / den / 10 ^ scale - (n * 10 ^ t : Nat) = (num / den - n * 10 ^ j) / 10 ^ scale := by
      rw [hpow, sub_div, mul_div_cancel_right₀ _ hpos.ne']
    rw [unscale_ratio, hshift, abs_div, abs_of_pos hpos, div_lt_iff₀ hpos]
    exact abs_sub_lt_of_near hbound hnear
  have hsnd := unscale_snd_pos num (Nat.pos_of_ne_zero hden) scale
  rw [value_roundToCount hnum den hcount hscale, Binary64.roundDiv_eq hsnd hclose, hpow]

/-- No more digits are kept than are asked for. -/
theorem exists_value_roundToCount {num den count : Nat} (hnum : num ≠ 0) (hden : den ≠ 0) (hcount : count ≠ 0) :
    ∃ n : Nat, n < 10 ^ count ∧ ∃ j : Int, (roundToCount num den count).value = n * 10 ^ j := by
  obtain ⟨scale, hscale⟩ : ∃ scale, leadingExponent num den - count + 1 = scale := ⟨_, rfl⟩
  obtain ⟨-, hhigh⟩ := leadingExponent_bounds hnum hden
  have hnear := Binary64.abs_roundDiv_sub (unscale num den scale).1 (unscale_snd_pos num (Nat.pos_of_ne_zero hden) scale)
  rw [unscale_ratio] at hnear
  rw [value_roundToCount hnum den hcount hscale]
  generalize Binary64.roundDiv _ _ = n at hnear ⊢
  have hbound : (num : ℚ) / den / 10 ^ scale < 10 ^ count := by
    rw [div_lt_iff₀ (by positivity), ← zpow_natCast, ← zpow_add₀ (by norm_num)]
    exact hhigh.trans_le (zpow_le_zpow_right₀ (by norm_num) (by omega))
  have hle : n < 10 ^ count + 1 := by
    have h := (abs_le.1 hnear).2
    have hlt : (n : ℚ) < 10 ^ count + 1 := by linarith
    exact_mod_cast hlt
  by_cases hfull : n = 10 ^ count
  · obtain ⟨k, rfl⟩ := Nat.exists_eq_succ_of_ne_zero hcount
    refine ⟨10 ^ k, Nat.pow_lt_pow_succ (n := k) (by decide : 1 < 10), scale + 1, ?_⟩
    rw [hfull, zpow_add_one₀ (by norm_num), pow_succ]
    push_cast
    ring
  · exact ⟨n, Nat.lt_of_le_of_ne (Nat.le_of_lt_succ hle) hfull, scale, rfl⟩

theorem areDigits_roundToCount (num den count : Nat) : AreDigits (roundToCount num den count).digits := by
  unfold roundToCount
  split
  · exact areDigits_zeros count
  · dsimp only
    split <;> exact areDigits_digitsOf _

end Digits

end Conformance.Decimal
