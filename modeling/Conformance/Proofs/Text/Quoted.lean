import Conformance.Text.Quoted

/-!
# Reading JSON strings back

Each character of a JSON string is written in a way that can be read back from the front, whatever follows it
(`read?_jsonChar`). So a string is told from all that comes after its closing quotation mark (`jsonText_inj`).
-/

namespace Conformance.Text.Quoted

/-! ## Hexadecimal digits -/

def hexValue (c : Char) : Nat := if c.toNat < 58 then c.toNat - 48 else c.toNat - 87

def ofHex (cs : List Char) : Nat := cs.foldl (fun n c => 16 * n + hexValue c) 0

theorem hexValue_hexDigit : ∀ n < 16, hexValue (hexDigit n) = n := by decide

theorem ofHex_hex {n : Nat} (h : n < 0x10000) : ofHex (hex 4 n) = n := by
  have hdigit : ∀ k, hexValue (hexDigit (k % 16)) = k % 16 := fun k => hexValue_hexDigit _ (Nat.mod_lt _ (by decide))
  simp only [hex, ofHex, List.nil_append, List.cons_append, List.foldl_cons, List.foldl_nil, hdigit]
  omega

theorem exists_hex_four (n : Nat) : ∃ a b c d, hex 4 n = [a, b, c, d] := ⟨_, _, _, _, rfl⟩

/-! ## Characters -/

/-- The character that a letter after a backslash stands for. -/
def unescaped (c : Char) : Char :=
  match c with
  | 'n' => '\n'
  | 'r' => '\r'
  | 't' => '\t'
  | 'b' => '\x08'
  | 'f' => '\x0c'
  | c => c

def isHighSurrogate (n : Nat) : Bool := 0xD800 ≤ n && n < 0xDC00

/-- Reads a character from the front of what is left of a JSON string; two surrogates are one character. -/
def read? : List Char → Option (Char × List Char)
  | '\\' :: 'u' :: a :: b :: c :: d :: rest =>
    let high := ofHex [a, b, c, d]
    if isHighSurrogate high then
      match rest with
      | '\\' :: 'u' :: e :: f :: g :: h :: rest =>
        some (Char.ofNat (0x10000 + (high - 0xD800) * 0x400 + (ofHex [e, f, g, h] - 0xDC00)), rest)
      | _ => none
    else some (Char.ofNat high, rest)
  | '\\' :: c :: rest => some (unescaped c, rest)
  | '"' :: _ => none
  | c :: rest => some (c, rest)
  | [] => none

theorem read?_unit {n : Nat} (h : n < 0x10000) (hs : isHighSurrogate n = false) (rest : List Char) :
    read? ('\\' :: 'u' :: (hex 4 n ++ rest)) = some (Char.ofNat n, rest) := by
  obtain ⟨a, b, c, d, hd⟩ := exists_hex_four n
  have hn : ofHex [a, b, c, d] = n := by
    rw [← hd, ofHex_hex h]
  rw [hd]
  simp [read?, hn, hs]

theorem read?_pair {high low : Nat} (hh : isHighSurrogate high = true) (hl : low < 0x10000) (rest : List Char) :
    read? ('\\' :: 'u' :: (hex 4 high ++ '\\' :: 'u' :: (hex 4 low ++ rest))) =
      some (Char.ofNat (0x10000 + (high - 0xD800) * 0x400 + (low - 0xDC00)), rest) := by
  obtain ⟨a, b, c, d, hd⟩ := exists_hex_four high
  obtain ⟨e, f, g, k, hk⟩ := exists_hex_four low
  have hhigh : high < 0x10000 := by
    simp only [isHighSurrogate, Bool.and_eq_true, decide_eq_true_eq] at hh
    omega
  have hn : ofHex [a, b, c, d] = high := by
    rw [← hd, ofHex_hex hhigh]
  have hm : ofHex [e, f, g, k] = low := by
    rw [← hk, ofHex_hex hl]
  rw [hd, hk]
  simp [read?, hn, hm, hh]

theorem read?_plain {c : Char} (hq : c ≠ '"') (hb : c ≠ '\\') (rest : List Char) :
    read? (c :: rest) = some (c, rest) := by
  unfold read?
  split <;> simp_all

theorem not_surrogate (c : Char) : isHighSurrogate c.toNat = false := by
  have hvalid : c.toNat < 0xD800 ∨ 0xDFFF < c.toNat ∧ c.toNat < 0x110000 := c.valid
  simp only [isHighSurrogate, Bool.and_eq_false_iff, decide_eq_false_iff_not]
  omega

/-- A character is read back from its escape, whatever follows. -/
theorem read?_jsonChar (c : Char) (rest : List Char) : read? (jsonChar c ++ rest) = some (c, rest) := by
  unfold jsonChar
  dsimp only
  split
  · next h =>
    simp only [Bool.or_eq_true, decide_eq_true_eq] at h
    rcases h with rfl | rfl <;> rfl
  split
  · next h => subst h; rfl
  split
  · next h => subst h; rfl
  split
  · next h => subst h; rfl
  split
  · next h => subst h; rfl
  split
  · next h => subst h; rfl
  split
  · next h _ _ _ _ _ _ =>
    simp only [Bool.or_eq_true, decide_eq_true_eq, not_or] at h
    exact read?_plain h.1 h.2 rest
  split
  · next h =>
    rw [List.cons_append, List.cons_append, read?_unit h (not_surrogate c), Char.ofNat_toNat]
  · next h =>
    have hvalid : c.toNat < 0xD800 ∨ 0xDFFF < c.toNat ∧ c.toNat < 0x110000 := c.valid
    have hhigh : isHighSurrogate (0xD800 + (c.toNat - 0x10000) / 0x400) = true := by
      simp only [isHighSurrogate, Bool.and_eq_true, decide_eq_true_eq]
      omega
    have hlow : 0xDC00 + (c.toNat - 0x10000) % 0x400 < 0x10000 := by omega
    simp only [List.cons_append, List.append_assoc]
    rw [read?_pair hhigh hlow]
    have hn : 0x10000 + (0xD800 + (c.toNat - 0x10000) / 0x400 - 0xD800) * 0x400 +
        (0xDC00 + (c.toNat - 0x10000) % 0x400 - 0xDC00) = c.toNat := by omega
    rw [hn, Char.ofNat_toNat]

/-! ## Strings -/

theorem read?_quote (rest : List Char) : read? ('"' :: rest) = none := by simp [read?]

/-- Two strings that are followed by their closing marks are the same if all of it is the same. -/
theorem jsonText_inj : ∀ {s t x y : List Char},
    s.flatMap jsonChar ++ '"' :: x = t.flatMap jsonChar ++ '"' :: y → s = t ∧ x = y
  | [], [], _, _, h => ⟨rfl, (List.cons.inj h).2⟩
  | [], d :: t, x, y, h => by
    have hread := congrArg read? h
    rw [List.flatMap_cons, List.append_assoc, read?_jsonChar, List.flatMap_nil, List.nil_append, read?_quote] at hread
    cases hread
  | c :: s, [], x, y, h => by
    have hread := congrArg read? h
    rw [List.flatMap_cons, List.append_assoc, read?_jsonChar, List.flatMap_nil, List.nil_append, read?_quote] at hread
    cases hread
  | c :: s, d :: t, x, y, h => by
    have hread := congrArg read? h
    rw [List.flatMap_cons, List.flatMap_cons, List.append_assoc, List.append_assoc, read?_jsonChar,
      read?_jsonChar] at hread
    obtain ⟨rfl, hrest⟩ := Prod.mk.inj (Option.some.inj hread)
    obtain ⟨rfl, rfl⟩ := jsonText_inj hrest
    exact ⟨rfl, rfl⟩

end Conformance.Text.Quoted
