import Conformance.Proofs.Decimal.Rounding
import Conformance.Proofs.Value.Reliable
import Conformance.Value.Same

/-!
# What numbers stand for

A number stands for a real and an imaginary part, each of them a rational or an infinity; NaN stands for nothing. Two
numbers are equal if and only if they stand for the same (`sameNumber_iff`), so neither their types nor the signs of
zeros count.
-/

namespace Conformance

namespace Decimal

inductive Extended where
  | infinite (negative : Bool)
  | rational (q : ℚ)
  deriving DecidableEq

namespace Binary64

def extended? : Binary64 → Option Extended
  | .nan => none
  | .infinite n => some (.infinite n)
  | .finite n m e => some (.rational ((if n then -(m : Int) else m : Int) * 2 ^ e))

theorem compareRatio_eq_iff {a b : Int × Nat} (ha : 0 < a.2) (hb : 0 < b.2) :
    compareRatio a b = .eq ↔ (a.1 : ℚ) / a.2 = b.1 / b.2 := by
  rw [compareRatio, compare_eq_iff_eq, div_eq_div_iff (by positivity) (by positivity)]
  exact_mod_cast Iff.rfl

/-- Equality of floating point numbers is equality of what they stand for. -/
theorem same_iff {x y : Binary64} : x.same y = true ↔ ∃ z, x.extended? = some z ∧ y.extended? = some z := by
  rw [same, beq_iff_eq]
  cases x with
  | nan => simp [compare?, extended?]
  | infinite a =>
    cases y with
    | nan | finite => cases a <;> simp [compare?, extended?]
    | infinite b => cases a <;> cases b <;> simp [compare?, extended?]
  | finite a m e =>
    cases y with
    | nan => simp [compare?, extended?]
    | infinite b => cases b <;> simp [compare?, extended?]
    | finite b n f =>
      have hratio := compareRatio_eq_iff (scaled_snd_pos (if a then -(m : Int) else m) e)
        (scaled_snd_pos (if b then -(n : Int) else n) f)
      rw [scaled_ratio, scaled_ratio] at hratio
      simp only [compare?, extended?, Option.some.injEq, hratio, exists_eq_left', Extended.rational.injEq]
      exact eq_comm

theorem same_of_extended {x y : Binary64} {z : Extended} (h : x.extended? = some z) :
    x.same y = true ↔ y.extended? = some z := by
  rw [same_iff, h]
  simp

theorem compareInt?_eq_iff {x : Binary64} {n : Int} :
    x.compareInt? n = some .eq ↔ x.extended? = some (.rational n) := by
  cases x with
  | nan => simp [compareInt?, extended?]
  | infinite a => cases a <;> simp [compareInt?, extended?]
  | finite a m e =>
    have hratio := compareRatio_eq_iff (b := (n, 1)) (scaled_snd_pos (if a then -(m : Int) else m) e) one_pos
    rw [scaled_ratio, Nat.cast_one, div_one] at hratio
    simp only [compareInt?, extended?, Option.some.injEq, hratio, Extended.rational.injEq]

theorem isZero_iff {x : Binary64} : x.isZero = true ↔ x.extended? = some (.rational 0) := by
  cases x with
  | nan | infinite => simp [isZero, extended?]
  | finite a m e =>
    have hpow : (2 : ℚ) ^ e ≠ 0 := by positivity
    have hzero : isZero (.finite a m e) = true ↔ m = 0 := by cases m <;> simp [isZero]
    rw [hzero, extended?, Option.some.injEq, Extended.rational.injEq, mul_eq_zero, or_iff_left hpow, Int.cast_eq_zero]
    split <;> omega

theorem exists_extended {x : Binary64} (h : x.isNan = false) : ∃ z, x.extended? = some z := by
  cases x with
  | nan => cases h
  | infinite | finite => exact ⟨_, rfl⟩

theorem reliable {x : Binary64} (h : x.isNan = false) : Reliable same x := by
  obtain ⟨z, hz⟩ := exists_extended h
  exact Reliable.of_value (fun h _ => same_of_extended h) hz

end Binary64
end Decimal

namespace Value

open Decimal

/-- What a number without an imaginary part stands for. -/
def extended? : Value → Option Extended
  | float x => x.extended?
  | v => v.integer?.map fun n : Int => .rational n

/-- What a number stands for, by its real and its imaginary part. -/
def number? : Value → Option (Extended × Extended)
  | complex a b => Option.map₂ Prod.mk a.extended? b.extended?
  | v => v.extended?.map (·, .rational 0)

variable {a b : Value} {z : Extended × Extended}

theorem extended?_of_ne_float (h : ∀ x, a ≠ float x) :
    a.extended? = a.integer?.map fun n : Int => Extended.rational n := by
  unfold extended?
  split
  · exact absurd rfl (h _)
  · rfl

theorem number?_complex {x y : Binary64} :
    (complex x y).number? = some z ↔ x.extended? = some z.1 ∧ y.extended? = some z.2 := by
  simp [number?, Option.map₂_eq_some_iff, Prod.ext_iff]

theorem number?_of_ne_complex (h : ∀ x y, a ≠ complex x y) :
    a.number? = some z ↔ a.extended? = some z.1 ∧ .rational 0 = z.2 := by
  unfold number?
  split
  · exact absurd rfl (h _ _)
  · simp [Prod.ext_iff]

/-- An integer and a floating point number are compared without rounding. -/
theorem any_compareInt?_iff {x : Binary64} (h : ∀ y, a ≠ float y) :
    (a.integer?.any fun n => x.compareInt? n == some .eq) = true ↔
      ∃ z, x.extended? = some z ∧ a.extended? = some z := by
  rw [extended?_of_ne_float h]
  cases a.integer? with
  | none => simp
  | some n =>
    rw [Option.any_some, beq_iff_eq, Binary64.compareInt?_eq_iff]
    simp

theorem sameReal_iff : a.sameReal b = true ↔ ∃ z, a.extended? = some z ∧ b.extended? = some z := by
  unfold sameReal
  split
  · exact Binary64.same_iff
  · next hb => exact any_compareInt?_iff hb
  · next ha =>
    rw [any_compareInt?_iff ha]
    simp only [and_comm, extended?]
  · next ha hb _ =>
    rw [extended?_of_ne_float ha, extended?_of_ne_float hb]
    cases a.integer? with
    | none => simp
    | some m =>
      cases b.integer? with
      | none => simp
      | some n =>
        have hcast : (n : ℚ) = m ↔ m = n := by rw [Int.cast_inj, eq_comm]
        simp [hcast]

/-- Equality of numbers is equality of what they stand for, whatever their types. -/
theorem sameNumber_iff : a.sameNumber b = true ↔ ∃ z, a.number? = some z ∧ b.number? = some z := by
  rw [Prod.exists]
  unfold sameNumber
  split
  · simp only [number?_complex, Bool.and_eq_true, Binary64.same_iff]
    constructor
    · rintro ⟨⟨u, hp, hr⟩, v, hq, hs⟩
      exact ⟨u, v, ⟨hp, hq⟩, hr, hs⟩
    · rintro ⟨u, v, ⟨hp, hq⟩, hr, hs⟩
      exact ⟨⟨u, hp, hr⟩, v, hq, hs⟩
  · next hb =>
    simp only [number?_complex, number?_of_ne_complex hb, Bool.and_eq_true, Binary64.isZero_iff, sameReal_iff]
    constructor
    · rintro ⟨hq, u, hp, hu⟩
      exact ⟨u, _, ⟨hp, hq⟩, hu, rfl⟩
    · rintro ⟨u, _, ⟨hp, hq⟩, hu, rfl⟩
      exact ⟨hq, u, hp, hu⟩
  · next ha =>
    simp only [number?_complex, number?_of_ne_complex ha, Bool.and_eq_true, Binary64.isZero_iff, sameReal_iff]
    constructor
    · rintro ⟨hs, u, hu, hr⟩
      exact ⟨u, _, ⟨hu, rfl⟩, hr, hs⟩
    · rintro ⟨u, _, ⟨hu, rfl⟩, hr, hs⟩
      exact ⟨hs, u, hu, hr⟩
  · next ha hb _ =>
    simp only [number?_of_ne_complex ha, number?_of_ne_complex hb, sameReal_iff]
    constructor
    · rintro ⟨u, ha, hb⟩
      exact ⟨u, _, ⟨ha, rfl⟩, hb, rfl⟩
    · rintro ⟨u, _, ⟨ha, -⟩, hb, -⟩
      exact ⟨u, ha, hb⟩

theorem same_of_number (h : a.number? = some z) : a.same b = true ↔ b.number? = some z := by
  have hsame : a.same b = a.sameNumber b := by
    cases a with
    | bool | int | float | complex => rfl
    | _ => cases h
  rw [hsame, sameNumber_iff, h]
  simp

example : (bool true).same (float (.ofInt 1)) = true ∧ (float .zero).same (float Binary64.zero.neg) = true := by
  decide +kernel

theorem sameNumber_of_none (h : a.number? = Option.none) : a.sameNumber b = false := by
  rw [Bool.eq_false_iff, ne_eq, sameNumber_iff, h]
  simp

end Value
end Conformance
