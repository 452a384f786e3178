import Conformance.Proofs.Address.Forms
import Conformance.Proofs.Rule.Formats

/-!
# The grammar of host names

Host names are told by a grammar of labels. Without line feeds the check of host names accepts just the texts of this
grammar, and the pattern of labels finds just its labels.
-/

namespace Conformance.Address

open Conformance.Text

variable {s l : List Char}

/-! ## Labels -/

theorem isAsciiDigit_eq (c : Char) : isAsciiDigit c = c.isDigit := rfl

theorem isAsciiAlphanumeric_eq (c : Char) : isAsciiAlphanumeric c = c.isAlphanum := by
  have hupper : c.isUpper = (decide ('A' ≤ c) && decide (c ≤ 'Z')) := Bool.decide_and ('A' ≤ c) (c ≤ 'Z')
  rw [isAsciiAlphanumeric, isAsciiLetter, isAsciiDigit_eq, Bool.or_comm ('a' ≤ c && c ≤ 'z'), ← hupper]
  rfl

/-- Up to 63 letters, digits and hyphens that begin and end with a letter or digit. -/
structure IsHostLabel (l : List Char) : Prop where
  pos : 1 ≤ l.length
  le : l.length ≤ 63
  chars : ∀ c ∈ l, c.isAlphanum = true ∨ c = '-'
  first : ∀ c, l.head? = some c → c.isAlphanum = true
  last : ∀ c, l.getLast? = some c → c.isAlphanum = true

theorem isLabel_iff : isLabel l = true ↔ IsHostLabel l := by
  simp only [isLabel, isAsciiAlphanumeric_eq, Bool.and_eq_true, decide_eq_true_eq, List.all_eq_true, Bool.or_eq_true,
    beq_iff_eq]
  constructor
  · intro h
    obtain ⟨⟨⟨hle, hchars⟩, hfirst⟩, hlast⟩ := h
    have hpos : l ≠ [] := by
      intro hnil
      rw [hnil] at hfirst
      cases hfirst
    refine ⟨List.length_pos_iff.2 hpos, hle, hchars, fun c hc => ?_, fun c hc => ?_⟩
    · rwa [hc, Option.any_some, isAsciiAlphanumeric_eq] at hfirst
    · rwa [hc, Option.any_some, isAsciiAlphanumeric_eq] at hlast
  · intro h
    have hne := List.length_pos_iff.1 h.pos
    refine ⟨⟨⟨h.le, h.chars⟩, ?_⟩, ?_⟩
    · rw [List.head?_eq_some_head hne, Option.any_some, isAsciiAlphanumeric_eq]
      exact h.first _ (List.head?_eq_some_head hne)
    · rw [List.getLast?_eq_some_getLast hne, Option.any_some, isAsciiAlphanumeric_eq]
      exact h.last _ (List.getLast?_eq_some_getLast hne)

instance : Decidable (IsHostLabel l) := decidable_of_iff _ isLabel_iff

theorem IsHostLabel.not_mem (h : IsHostLabel l) : '\n' ∉ l ∧ '.' ∉ l :=
  have hfree := not_mem_label (isLabel_iff.2 h)
  ⟨hfree.1, hfree.2.1⟩

theorem isNumeral_iff : isNumeral l = true ↔ l ≠ [] ∧ ∀ c ∈ l, c.isDigit = true := by
  simp [isNumeral, isAsciiDigit_eq]

theorem isNumeral_eq_false_iff (hl : l ≠ []) : isNumeral l = false ↔ ∃ c ∈ l, c.isDigit = false := by
  rw [← Bool.not_eq_true, isNumeral_iff, and_iff_right hl]
  simp

/-! ## Host names -/

/-- A text of labels with points between and perhaps a point at the end. The last label is no number. -/
structure IsHostText (ls : List (List Char)) (s : List Char) : Prop where
  ne_nil : ls ≠ []
  labels : ∀ l ∈ ls, IsHostLabel l
  last : ∃ l, ls.getLast? = some l ∧ ∃ c ∈ l, c.isDigit = false
  text : s = ['.'].intercalate ls ∨ s = ['.'].intercalate ls ++ ['.']

theorem mem_intercalate_of_mem {c d : Char} {p : List Char} {ps : List (List Char)} (hc : c ∈ p) (hp : p ∈ ps) :
    c ∈ [d].intercalate ps := by
  cases ps with
  | nil => cases hp
  | cons q ps =>
    rw [intercalate_cons]
    cases List.mem_cons.1 hp with
    | inl hp => exact List.mem_append_left _ (hp ▸ hc)
    | inr hp =>
      exact List.mem_append_right _ (List.mem_flatten.2 ⟨d :: p, List.mem_map_of_mem hp, List.mem_cons_of_mem d hc⟩)

/-- Without line feeds no label is marked with one. -/
theorem Labels.map_piece {ls : Labels} (h : '\n' ∉ ['.'].intercalate (ls.map piece)) :
    ls.map piece = ls.map Prod.fst := by
  refine List.map_congr_left fun l hl => ?_
  cases l with
  | mk text mark =>
    cases mark with
    | false => rfl
    | true => exact absurd (mem_intercalate_of_mem (by simp [piece, ended]) (List.mem_map_of_mem hl)) h

theorem Labels.Proper.isHostText {ls : Labels} (h : ls.Proper) {absolute : Bool} (hs : '\n' ∉ ls.text absolute) :
    IsHostText (ls.map Prod.fst) (ls.text absolute) := by
  have hpieces := Labels.map_piece fun hmem => hs (List.mem_append_left _ hmem)
  obtain ⟨⟨l, mark⟩, hl, hlabel, hlast⟩ := h.exists_last
  have hmark : mark = false := by
    rw [hpieces, List.getLast?_map, hl] at hlast
    cases mark with
    | false => rfl
    | true => exact absurd (congrArg List.length (Option.some.inj hlast)) (by simp [Labels.piece, ended])
  subst hmark
  refine ⟨by simpa using h.ne_nil, fun m hm => ?_, ⟨l, ?_, ?_⟩, ?_⟩
  · obtain ⟨n, hn, rfl⟩ := List.mem_map.1 hm
    exact isLabel_iff.1 (h.labels n hn)
  · rw [List.getLast?_map, hl]
    rfl
  · exact (isNumeral_eq_false_iff (label_ne_nil hlabel)).1 (h.last l hl)
  · rw [Labels.text, hpieces]
    cases absolute with
    | false => exact .inl (List.append_nil _)
    | true => exact .inr rfl

theorem IsHostText.exists_proper {ls : List (List Char)} (h : IsHostText ls s) :
    ∃ (ms : Labels) (absolute : Bool), s = ms.text absolute ∧ ms.Proper := by
  have hpieces : (ls.map (·, false)).map Labels.piece = ls := by
    rw [List.map_map]
    exact List.map_id _
  have hproper : Labels.Proper (ls.map (·, false)) := by
    refine ⟨by simpa using h.ne_nil, fun l hl => ?_, fun l hl => ?_⟩
    · obtain ⟨m, hm, rfl⟩ := List.mem_map.1 hl
      exact isLabel_iff.2 (h.labels m hm)
    · obtain ⟨m, hm, c, hc, hdigit⟩ := h.last
      rw [List.getLast?_map, hm] at hl
      cases hl
      exact (isNumeral_eq_false_iff (List.ne_nil_of_mem hc)).2 ⟨c, hc, hdigit⟩
  cases h.text with
  | inl htext => exact ⟨_, false, by rw [Labels.text, hpieces, htext]; simp, hproper⟩
  | inr htext => exact ⟨_, true, by rw [Labels.text, hpieces, htext]; rfl, hproper⟩

theorem isHostname_iff_exists (hs : '\n' ∉ s) :
    isHostname s = true ↔ (1 ≤ s.length ∧ s.length ≤ 253) ∧ ∃ ls, IsHostText ls s := by
  constructor
  · intro h
    have hne : s ≠ [] := by
      rintro rfl
      cases h
    obtain ⟨hlength, ls, absolute, rfl, hproper⟩ := isHostname_iff.1 h
    exact ⟨⟨List.length_pos_iff.2 hne, hlength⟩, _, hproper.isHostText hs⟩
  · intro h
    obtain ⟨⟨-, hlength⟩, ls, hls⟩ := h
    exact isHostname_iff.2 ⟨hlength, hls.exists_proper⟩

/-! ## The check -/

end Conformance.Address

namespace Conformance.Format

open Address

/-- The check of host names gives whether a text belongs to the grammar, and the pattern of labels finds its labels. -/
theorem hostname_grammar {t : String} (ht : '\n' ∉ t.toList) (s : Schema) :
    (∃ b, Expr.Library.call s (.function .isHostname) ⟨[.text t], []⟩ = pure (.bool b) ∧
      (b = true ↔ (1 ≤ t.length ∧ t.length ≤ 253) ∧ ∃ ls, IsHostText ls t.toList)) ∧
    ∃ p, Pattern.ofText labelForm = .ok p ∧
      ∀ l ∈ Text.cutAtAll ['.'] (withoutRoot t.toList), (p.occursIn l = true ↔ IsHostLabel l) := by
  constructor
  · refine ⟨isHostname t.toList, hostname.call_eq s t, ?_⟩
    rw [isHostname_iff_exists ht, String.length_toList]
  · obtain ⟨p, hp, hfinds⟩ := exists_labelPattern
    refine ⟨p, hp, fun l hl => ?_⟩
    have hline : '\n' ∉ l := by
      intro hmem
      have hjoined := mem_intercalate_of_mem (d := '.') hmem hl
      rw [(Text.cutAtAll_pieces _).2.1] at hjoined
      obtain ⟨absolute, hroot⟩ := exists_root t.toList
      exact ht (hroot ▸ List.mem_append_left _ hjoined)
    rw [hfinds, holdsOfLine_of_notMem hline, isLabel_iff]

/-- A host name with hyphens and digits in its labels and a point at its end. -/
theorem hostname_grammar_of_host : '\n' ∉ "mail-1.2.example.".toList ∧
    Expr.Library.call Layout.schema (.function .isHostname) ⟨[.text "mail-1.2.example."], []⟩ = pure (.bool true) := by
  have hline : '\n' ∉ "mail-1.2.example.".toList := by decide +kernel
  obtain ⟨⟨b, hb, hiff⟩, -⟩ := hostname_grammar hline Layout.schema
  have htrue : b = true := hiff.2 ⟨⟨by decide +kernel, by decide +kernel⟩,
    ["mail-1".toList, "2".toList, "example".toList], by decide, by decide +kernel,
    ⟨"example".toList, rfl, 'e', by decide +kernel, rfl⟩, .inr (by decide +kernel)⟩
  rw [htrue] at hb
  exact ⟨hline, hb⟩

end Conformance.Format
