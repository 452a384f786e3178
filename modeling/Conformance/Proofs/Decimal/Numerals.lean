import Conformance.Decimal.Layout
import Conformance.Decimal.Numeral
import Conformance.Proofs.Decimal.Digits

/-!
# Decimal numerals

Numerals are read exactly before they are rounded. The place of the point and an exponent are different ways to write
the same value, so the text of digits in a general layout is read as what the digits stand for.
-/

namespace Conformance.Decimal

open Text

variable {ds : List Char}

/-! ## Texts of digits -/

/-- Digits after a point; without digits there is no point. -/
def pointed (fraction : List Char) : List Char :=
  if fraction.isEmpty then [] else '.' :: fraction

theorem placeDigits_of_pos (ds : List Char) {point : Int} (hpoint : 0 < point) (last : Int) :
    placeDigits ds point last false =
      (ds ++ List.replicate (max last point - ds.length).toNat '0').take point.toNat ++
        pointed ((ds ++ List.replicate (max last point - ds.length).toNat '0').drop point.toNat) := by
  unfold placeDigits pointed
  simp only [if_pos hpoint, Bool.not_false, Bool.and_true]
  split <;> simp

theorem placeDigits_of_nonpos (ds : List Char) {point : Int} (hpoint : ¬0 < point) (last : Int) :
    placeDigits ds point last false =
      placeDigits (List.replicate (1 - point).toNat '0' ++ ds) 1 (last + 1 - point) false := by
  unfold placeDigits
  simp only [if_neg hpoint, if_pos one_pos]

theorem exists_placeDigits_of_pos (hds : AreDigits ds) {point : Int} (hpoint : 0 < point) :
    ∃ whole fraction, placeDigits ds point ds.length false = whole ++ pointed fraction ∧ whole ≠ [] ∧
      AreDigits whole ∧ AreDigits fraction ∧
      (ofDigits (whole ++ fraction) : ℚ) * 10 ^ (-fraction.length : Int) = Digits.value ⟨ds, point⟩ := by
  rw [placeDigits_of_pos ds hpoint]
  generalize hpadded : ds ++ List.replicate (max (ds.length : Int) point - ds.length).toNat '0' = padded
  have hall : AreDigits padded := hpadded ▸ hds.append (areDigits_zeros _)
  have hlength : (padded.length : Int) = max (ds.length : Int) point := by
    rw [← hpadded, List.length_append, List.length_replicate]
    omega
  have hvalue : Digits.value ⟨padded, point⟩ = Digits.value ⟨ds, point⟩ := by
    rw [← hpadded, Digits.value_append_zeros]
  refine ⟨_, _, rfl, ?_, fun c hc => hall c (List.mem_of_mem_take hc), fun c hc => hall c (List.mem_of_mem_drop hc), ?_⟩
  · rw [← List.length_pos_iff_ne_nil, List.length_take]
    omega
  · rw [List.take_append_drop, ← hvalue, Digits.value, List.length_drop]
    dsimp only
    congr 2
    omega

/-- Digits placed around a point stand for the same number, wherever the point is. -/
theorem exists_placeDigits (hds : AreDigits ds) (point : Int) :
    ∃ whole fraction, placeDigits ds point ds.length false = whole ++ pointed fraction ∧ whole ≠ [] ∧
      AreDigits whole ∧ AreDigits fraction ∧
      (ofDigits (whole ++ fraction) : ℚ) * 10 ^ (-fraction.length : Int) = Digits.value ⟨ds, point⟩ := by
  by_cases hpoint : 0 < point
  · exact exists_placeDigits_of_pos hds hpoint
  · have hlast : (ds.length : Int) + 1 - point = (List.replicate (1 - point).toNat '0' ++ ds).length := by
      rw [List.length_append, List.length_replicate]
      omega
    have hvalue : Digits.value ⟨List.replicate (1 - point).toNat '0' ++ ds, 1⟩ = Digits.value ⟨ds, point⟩ := by
      unfold Digits.value
      dsimp only
      rw [ofDigits_zeros_append, ← hlast]
      congr 2
      omega
    rw [placeDigits_of_nonpos ds hpoint, hlast, ← hvalue]
    exact exists_placeDigits_of_pos ((areDigits_zeros _).append hds) one_pos

/-! ## Reading numerals -/

theorem takeWhile_digits (hds : AreDigits ds) {rest : List Char} (hrest : ∀ c ∈ rest.head?, isAsciiDigit c = false) :
    (ds ++ rest).takeWhile isAsciiDigit = ds ∧ (ds ++ rest).dropWhile isAsciiDigit = rest := by
  rw [List.takeWhile_append_of_pos hds, List.dropWhile_append_of_pos hds]
  cases rest with
  | nil => simp
  | cons c rest =>
    have hc : ¬isAsciiDigit c = true := by simpa using hrest c rfl
    rw [List.takeWhile_cons_of_neg hc, List.dropWhile_cons_of_neg hc, List.append_nil]
    exact ⟨rfl, rfl⟩

theorem exists_exponentText (e : Int) :
    ∃ ds, exponentText false e = 'e' :: (if e < 0 then '-' else '+') :: ds ∧ ds ≠ [] ∧ AreDigits ds ∧
      ofDigits ds = e.natAbs := by
  refine ⟨_, rfl, ?_⟩
  split
  · refine ⟨List.cons_ne_nil _ _, (areDigits_zeros 1).append (areDigits_digitsOf _), ?_⟩
    exact (ofDigits_zeros_append 1 _).trans (ofDigits_digitsOf _)
  · exact ⟨digitsOf_ne_nil _, areDigits_digitsOf _, ofDigits_digitsOf _⟩

theorem takeSign_sign (negative : Bool) (s : List Char) :
    takeSign ((if negative then '-' else '+') :: s) = (negative, s) := by
  cases negative <;> rfl

theorem readExponent?_exponentText (e : Int) : readExponent? (exponentText false e) = some e := by
  obtain ⟨ds, htext, hne, hds, hvalue⟩ := exists_exponentText e
  have hsign := takeSign_sign (decide (e < 0)) ds
  simp only [decide_eq_true_eq] at hsign
  rw [htext]
  simp only [readExponent?, bne_self_eq_false, Bool.false_and, Bool.false_eq_true, if_false, hsign, hds.all, Bool.not_true,
    Bool.or_false, List.isEmpty_iff, hne, hvalue, decide_eq_true_eq]
  congr 1
  split <;> omega

/-- What may follow the digits of a numeral: nothing, or an exponent. -/
def IsExponent (rest : List Char) (e : Int) : Prop :=
  rest = [] ∧ e = 0 ∨ rest = exponentText false e

theorem IsExponent.head {rest : List Char} {e : Int} (h : IsExponent rest e) : ∀ c ∈ rest.head?, c = 'e' := by
  intro c hc
  obtain ⟨rfl, -⟩ | rfl := h
  · cases hc
  · exact (Option.mem_some_iff.1 hc).symm

theorem IsExponent.head_not_digit {rest : List Char} {e : Int} (h : IsExponent rest e) :
    ∀ c ∈ rest.head?, isAsciiDigit c = false := by
  intro c hc
  rw [h.head c hc]
  rfl

theorem IsExponent.readExponent? {rest : List Char} {e : Int} (h : IsExponent rest e) : readExponent? rest = some e := by
  obtain ⟨rfl, rfl⟩ | rfl := h
  · rfl
  · exact readExponent?_exponentText e

theorem takeFraction_pointed {fraction rest : List Char} {e : Int} (hfraction : AreDigits fraction)
    (hrest : IsExponent rest e) : takeFraction (pointed fraction ++ rest) = (fraction, rest) := by
  unfold pointed
  split
  · rename_i hempty
    rw [List.isEmpty_iff.1 hempty, List.nil_append]
    obtain ⟨rfl, -⟩ | rfl := hrest <;> rfl
  · obtain ⟨htake, hdrop⟩ := takeWhile_digits hfraction hrest.head_not_digit
    exact Prod.ext htake hdrop

/-- A numeral that is put together from digits, a point and an exponent is read as these. -/
theorem readScientific?_numeral {whole fraction rest : List Char} {e : Int} (hne : whole ≠ [])
    (hwhole : AreDigits whole) (hfraction : AreDigits fraction) (hrest : IsExponent rest e) :
    readScientific? (whole ++ (pointed fraction ++ rest)) = some (ofDigits (whole ++ fraction), e - fraction.length) := by
  have hhead : ∀ c ∈ (pointed fraction ++ rest).head?, isAsciiDigit c = false := by
    intro c hc
    unfold pointed at hc
    split at hc
    · exact hrest.head_not_digit c hc
    · rw [← Option.mem_some_iff.1 hc]
      rfl
  have hempty : whole.isEmpty = false := by simpa using hne
  obtain ⟨htake, hdrop⟩ := takeWhile_digits hwhole hhead
  unfold readScientific?
  rw [htake, hdrop, takeFraction_pointed hfraction hrest]
  simp only [hempty, Bool.false_and, Bool.false_eq_true, if_false, hrest.readExponent?, Option.map_some]

/-! ## Layouts -/

/-- The number that a numeral with or without a sign denotes, exactly. -/
def numeralValue? (s : List Char) : Option ℚ :=
  (readScientific? (takeSign s).2).map fun d => (if (takeSign s).1 then -1 else 1) * (d.1 * 10 ^ d.2)

theorem placeForm_general (d : Digits) (count : Nat) :
    placeForm d (.general count) {} =
      if d.trimmed.point ≤ -4 ∨ (count : Int) < d.trimmed.point then
        placeDigits d.trimmed.digits 1 d.trimmed.digits.length false ++ exponentText false (d.trimmed.point - 1)
      else placeDigits d.trimmed.digits d.trimmed.point d.trimmed.digits.length false := by
  simp only [placeForm, Bool.false_eq_true, if_false, sub_zero, Bool.or_eq_true, decide_eq_true_eq, Bool.false_and]

/-- A general layout drops the zeros at the end and may write an exponent. It stands for what the digits stand for. -/
theorem exists_placeForm {d : Digits} (hd : AreDigits d.digits) (count : Nat) :
    ∃ whole fraction rest e, placeForm d (.general count) {} = whole ++ (pointed fraction ++ rest) ∧ whole ≠ [] ∧
      AreDigits whole ∧ AreDigits fraction ∧ IsExponent rest e ∧
      (ofDigits (whole ++ fraction) : ℚ) * 10 ^ (e - fraction.length) = d.value := by
  have htrimmed := Digits.areDigits_trimmed hd
  rw [placeForm_general, ← Digits.value_trimmed]
  split
  · obtain ⟨whole, fraction, htext, hne, hwhole, hfraction, hvalue⟩ := exists_placeDigits htrimmed 1
    refine ⟨whole, fraction, _, _, by rw [htext, List.append_assoc], hne, hwhole, hfraction, .inr rfl, ?_⟩
    have hshift : d.trimmed.point - 1 - fraction.length = -fraction.length + (d.trimmed.point - 1) := by omega
    rw [hshift, zpow_add₀ (by norm_num), ← mul_assoc, hvalue, Digits.value, Digits.value, mul_assoc,
      ← zpow_add₀ (by norm_num)]
    dsimp only
    congr 2
    omega
  · obtain ⟨whole, fraction, htext, hne, hwhole, hfraction, hvalue⟩ := exists_placeDigits htrimmed d.trimmed.point
    refine ⟨whole, fraction, [], 0, by rw [htext, List.append_nil], hne, hwhole, hfraction, .inl ⟨rfl, rfl⟩, ?_⟩
    rw [zero_sub, hvalue]

theorem takeSign_of_digit {c : Char} (hc : isAsciiDigit c = true) (s : List Char) : takeSign (c :: s) = (false, c :: s) := by
  have hplus : c ≠ '+' := by
    rintro rfl
    cases hc
  have hminus : c ≠ '-' := by
    rintro rfl
    cases hc
  unfold takeSign
  split
  · rename_i heq
    cases heq
    exact absurd rfl hplus
  · rename_i heq
    cases heq
    exact absurd rfl hminus
  · rfl

/-- The value of a numeral can be read off its text. -/
theorem numeralValue?_placeForm {d : Digits} (hd : AreDigits d.digits) (count : Nat) (negative : Bool) :
    numeralValue? ((if negative then ['-'] else []) ++ placeForm d (.general count) {}) =
      some ((if negative then -1 else 1) * d.value) := by
  obtain ⟨whole, fraction, rest, e, htext, hne, hwhole, hfraction, hrest, hvalue⟩ := exists_placeForm hd count
  have hsign : takeSign ((if negative then ['-'] else []) ++ placeForm d (.general count) {}) =
      (negative, placeForm d (.general count) {}) := by
    obtain ⟨c, w, rfl⟩ := List.exists_cons_of_ne_nil hne
    cases negative with
    | false =>
      rw [htext]
      exact takeSign_of_digit (hwhole c List.mem_cons_self) _
    | true => rfl
  rw [numeralValue?, hsign, htext, readScientific?_numeral hne hwhole hfraction hrest, Option.map_some, hvalue]

end Conformance.Decimal
