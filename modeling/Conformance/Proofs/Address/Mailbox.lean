import Conformance.Proofs.Address.Hostname

/-!
# The grammar of mail addresses

A mail address is a name, an at sign and labels with points between. Without line feeds the check of mail addresses
accepts just these texts within its limits of length, the pattern of mail addresses finds all of them, and a text can be
taken apart in one way only.
-/

namespace Conformance.Address

open Conformance.Text

variable {s : List Char}

structure Mailbox where
  name : List Char
  labels : List (List Char)

namespace Mailbox

def text (m : Mailbox) : List Char := m.name ++ '@' :: ['.'].intercalate m.labels

/-- The grammar of mail addresses, whatever their length. -/
structure IsProper (m : Mailbox) : Prop where
  pos : 1 ≤ m.name.length
  chars : ∀ c ∈ m.name, c.isAlphanum = true ∨ c ∈ ".!#$%&'*+/=?^_\x60\x7b|\x7d~-".toList
  ne_nil : m.labels ≠ []
  labels : ∀ l ∈ m.labels, IsHostLabel l

theorem isLocalChar_iff {c : Char} :
    isLocalChar c = true ↔ c.isAlphanum = true ∨ c ∈ ".!#$%&'*+/=?^_\x60\x7b|\x7d~-".toList := by
  rw [isLocalChar, Bool.or_eq_true, isAsciiAlphanumeric_eq, List.contains_iff_mem]

section
variable {m n : Mailbox}

theorem IsProper.not_mem_name (h : m.IsProper) {c : Char} (hc : isLocalChar c = false) : c ∉ m.name := by
  intro hmem
  rw [isLocalChar_iff.2 (h.chars c hmem)] at hc
  cases hc

theorem IsProper.labels_eq (h : m.IsProper) : cutAtAll ['.'] (['.'].intercalate m.labels) = m.labels :=
  cutAtAll_eq_iff.2 ⟨h.ne_nil, rfl, fun l hl => (h.labels l hl).not_mem.2⟩

theorem IsProper.eq_of_text (hm : m.IsProper) (hn : n.IsProper) (h : m.text = n.text) : m = n := by
  -- No name has an at sign in it, so both names end before the first one.
  have hsplit : ∀ k : Mailbox, k.IsProper → splitFirst '@' k.text = some (k.name, ['.'].intercalate k.labels) := by
    intro k hk
    exact splitFirst_append (hk.not_mem_name (by decide))
  have hparts := hsplit n hn
  rw [← h, hsplit m hm] at hparts
  obtain ⟨hname, hdomain⟩ := Prod.mk.inj (Option.some.inj hparts)
  have hlabels : m.labels = n.labels := by rw [← hm.labels_eq, hdomain, hn.labels_eq]
  cases m
  cases n
  cases hname
  cases hlabels
  rfl

end

end Mailbox

theorem hasMailShape_iff_exists : hasMailShape s = true ↔ ∃ m : Mailbox, m.IsProper ∧ m.text = s := by
  rw [hasMailShape_iff]
  constructor
  · intro h
    obtain ⟨name, ls, rfl, ⟨hname, hchars⟩, hne, hlabels⟩ := h
    exact ⟨⟨name, ls⟩, ⟨List.length_pos_iff.2 hname,
      fun c hc => Mailbox.isLocalChar_iff.1 (List.all_eq_true.1 hchars c hc), hne,
      fun l hl => isLabel_iff.1 (hlabels l hl)⟩, rfl⟩
  · intro h
    obtain ⟨m, hm, rfl⟩ := h
    exact ⟨m.name, m.labels, rfl, ⟨List.length_pos_iff.1 hm.pos,
      List.all_eq_true.2 fun c hc => Mailbox.isLocalChar_iff.2 (hm.chars c hc)⟩, hm.ne_nil,
      fun l hl => isLabel_iff.2 (hm.labels l hl)⟩

theorem isMail_iff_exists (hs : '\n' ∉ s) :
    isMail s = true ↔ s.length ≤ 254 ∧ ∃ m : Mailbox, m.IsProper ∧ m.name.length ≤ 64 ∧ m.text = s := by
  have hname : ∀ m : Mailbox, m.IsProper → m.text.takeWhile (· != '@') = m.name := by
    intro m hm
    rw [Mailbox.text, List.takeWhile_append_of_pos fun c hc => by
      rw [bne_iff_ne]
      rintro rfl
      exact hm.not_mem_name (by decide) hc]
    simp
  rw [isMail, holdsOfLine_of_notMem hs, Bool.and_eq_true, Bool.and_eq_true, decide_eq_true_eq, decide_eq_true_eq,
    hasMailShape_iff_exists, and_assoc]
  refine and_congr_right fun _ => ?_
  constructor
  · intro h
    obtain ⟨⟨m, hm, rfl⟩, hlength⟩ := h
    rw [hname m hm] at hlength
    exact ⟨m, hm, hlength, rfl⟩
  · intro h
    obtain ⟨m, hm, hlength, rfl⟩ := h
    rw [hname m hm]
    exact ⟨⟨m, hm, rfl⟩, hlength⟩

end Conformance.Address

namespace Conformance.Format

open Address

/-- The check of mail addresses gives whether a text belongs to the grammar and is short enough, it belongs to it in one
way, and the pattern finds those that belong to it. -/
theorem mail_grammar {t : String} (ht : '\n' ∉ t.toList) (s : Schema) :
    (∃ b, Expr.Library.call s (.function .isEmail) ⟨[.text t], []⟩ = pure (.bool b) ∧
      (b = true ↔ t.length ≤ 254 ∧ ∃ m : Mailbox, m.IsProper ∧ m.name.length ≤ 64 ∧ m.text = t.toList)) ∧
    (∀ m n : Mailbox, m.IsProper → n.IsProper → m.text = t.toList → n.text = t.toList → m = n) ∧
    ∃ p, Pattern.ofText mailForm = .ok p ∧
      (p.occursIn t.toList = true ↔ ∃ m : Mailbox, m.IsProper ∧ m.text = t.toList) := by
  refine ⟨⟨isMail t.toList, email.call_eq s t, ?_⟩, fun m n hm hn htm htn => ?_, ?_⟩
  · rw [isMail_iff_exists ht, String.length_toList]
  · exact hm.eq_of_text hn (htm.trans htn.symm)
  · obtain ⟨p, hp, hfinds⟩ := exists_mailPattern
    refine ⟨p, hp, ?_⟩
    rw [hfinds, holdsOfLine_of_notMem ht, hasMailShape_iff_exists]

/-- An address whose name has a point at its end and whose domain is a number. -/
theorem mail_grammar_of_address : '\n' ∉ "ada.+tag.@mail-1.2".toList ∧
    Expr.Library.call Layout.schema (.function .isEmail) ⟨[.text "ada.+tag.@mail-1.2"], []⟩ = pure (.bool true) := by
  have hline : '\n' ∉ "ada.+tag.@mail-1.2".toList := by decide +kernel
  obtain ⟨⟨b, hb, hiff⟩, -⟩ := mail_grammar hline Layout.schema
  have hname : "ada.+tag.".toList.all isLocalChar = true := by decide +kernel
  have htrue : b = true := hiff.2 ⟨by decide +kernel, ⟨"ada.+tag.".toList, ["mail-1".toList, "2".toList]⟩,
    ⟨by decide +kernel, fun c hc => Mailbox.isLocalChar_iff.1 (List.all_eq_true.1 hname c hc), by decide,
      by decide +kernel⟩, by decide +kernel, by decide +kernel⟩
  rw [htrue] at hb
  exact ⟨hline, hb⟩

end Conformance.Format
