import Conformance.Proofs.Address.Shapes

/-!
# Line feeds in addresses

A text with a line feed is no address, except where a line-based form overlooks a line feed at its end or where the
zone of an IP address hides it. What is overlooked is told for each form.
-/

namespace Conformance.Address

open Conformance.Text

variable {s t : List Char}

theorem takeWhile_snoc {p : Char → Bool} {c d : Char} (hc : c ∈ t) (hp : p c = false) :
    (t ++ [d]).takeWhile p = t.takeWhile p := by
  rw [List.takeWhile_append, if_neg]
  intro hlength
  have hall : t.takeWhile p = t := (List.takeWhile_prefix p).eq_of_length hlength
  have hpc := List.all_eq_true.1 (List.all_takeWhile (p := p) (l := t)) c (by rwa [hall])
  rw [hp] at hpc
  cases hpc

/-! ## Mail addresses -/

theorem not_mem_mailShape (h : hasMailShape s = true) : '\n' ∉ s := by
  unfold hasMailShape at h
  split at h
  · cases h
  · next name domain hsplit =>
    obtain ⟨rfl, -⟩ := splitFirst_eq_some.1 hsplit
    simp only [Bool.and_eq_true] at h
    obtain ⟨⟨-, hname⟩, hdomain⟩ := h
    rw [List.mem_append, List.mem_cons, not_or, not_or]
    refine ⟨not_mem_of_all hname (by decide), by decide, fun hmem => ?_⟩
    obtain h | ⟨p, hp, hcp⟩ := mem_piece (d := '.') hmem
    · cases h
    · exact (not_mem_label (List.all_eq_true.1 hdomain p hp)).1 hcp

theorem mem_mailShape (h : hasMailShape s = true) : '@' ∈ s := by
  unfold hasMailShape at h
  split at h
  · cases h
  · next name domain hsplit =>
    obtain ⟨rfl, -⟩ := splitFirst_eq_some.1 hsplit
    exact List.mem_append_right _ List.mem_cons_self

theorem isMail_iff (hs : '\n' ∈ s) :
    isMail s = true ↔ ∃ t, s = t ++ ['\n'] ∧ '\n' ∉ t ∧ isMail t = true ∧ t.length < 254 := by
  unfold isMail
  simp only [Bool.and_eq_true, decide_eq_true_eq, holdsOfLine_iff (fun t => not_mem_mailShape) hs]
  constructor
  · rintro ⟨⟨hlength, t, rfl, ht⟩, hname⟩
    have hfree := not_mem_mailShape ht
    rw [List.length_append, List.length_singleton] at hlength
    refine ⟨t, rfl, hfree, ⟨⟨by omega, by rw [holdsOfLine_of_notMem hfree]; exact ht⟩, ?_⟩, by omega⟩
    rwa [takeWhile_snoc (mem_mailShape ht) (by decide)] at hname
  · rintro ⟨t, rfl, hfree, ⟨⟨-, ht⟩, hname⟩, hlength⟩
    rw [holdsOfLine_of_notMem hfree] at ht
    rw [takeWhile_snoc (mem_mailShape ht) (by decide), List.length_append, List.length_singleton]
    exact ⟨⟨by omega, t, rfl, ht⟩, hname⟩

/-! ## UUIDs -/

def hasUuidShape (s : List Char) : Bool :=
  (cutAtAll ['-'] s).map List.length == [8, 4, 4, 4, 12] && (cutAtAll ['-'] s).all (·.all isHexDigit)

theorem isUuid_eq (s : List Char) : isUuid s = holdsOfLine hasUuidShape s := rfl

theorem not_mem_uuidShape (h : hasUuidShape s = true) : '\n' ∉ s := by
  intro hmem
  simp only [hasUuidShape, Bool.and_eq_true] at h
  obtain hc | ⟨p, hp, hcp⟩ := mem_piece (d := '-') hmem
  · cases hc
  · exact not_mem_of_all (List.all_eq_true.1 h.2 p hp) (by decide) hcp

theorem isUuid_iff (hs : '\n' ∈ s) : isUuid s = true ↔ ∃ t, s = t ++ ['\n'] ∧ '\n' ∉ t ∧ isUuid t = true := by
  rw [isUuid_eq, holdsOfLine_iff (fun t => not_mem_uuidShape) hs]
  refine exists_congr fun t => and_congr_right fun _ => ?_
  rw [isUuid_eq]
  constructor
  · intro h
    exact ⟨not_mem_uuidShape h, by rw [holdsOfLine_of_notMem (not_mem_uuidShape h)]; exact h⟩
  · rintro ⟨hfree, h⟩
    rwa [holdsOfLine_of_notMem hfree] at h

/-! ## Host names -/

/-- The labels of a host name, each with a mark that says whether a line feed comes after it. -/
abbrev Labels := List (List Char × Bool)

namespace Labels

/-- A label with its line feed, if it has one. -/
def piece (l : List Char × Bool) : List Char := ended l.2 l.1

def text (ls : Labels) (absolute : Bool) : List Char :=
  ['.'].intercalate (ls.map piece) ++ if absolute then ['.'] else []

/-- All labels are labels; the last one is a number only if a line feed comes after it. -/
structure Proper (ls : Labels) : Prop where
  ne_nil : ls ≠ []
  labels : ∀ l ∈ ls, isLabel l.1 = true
  last : ∀ l, ls.getLast? = some (l, false) → isNumeral l = false

end Labels

theorem exists_labels {ps : List (List Char)} (h : ∀ p ∈ ps, holdsOfLine isLabel p = true) :
    ∃ ls : Labels, ls.map Labels.piece = ps ∧ ∀ l ∈ ls, isLabel l.1 = true := by
  induction ps with
  | nil => exact ⟨[], rfl, fun l hl => absurd hl List.not_mem_nil⟩
  | cons p ps ih =>
    obtain ⟨mark, l, rfl, hl⟩ := holdsOfLine_eq_true.1 (h p List.mem_cons_self)
    obtain ⟨ls, rfl, hls⟩ := ih fun q hq => h q (List.mem_cons_of_mem _ hq)
    exact ⟨(l, mark) :: ls, rfl, List.forall_mem_cons.2 ⟨hl, hls⟩⟩

theorem getLast?_intercalate {d : Char} {ps : List (List Char)} {q : List Char} (hq : ps.getLast? = some q)
    (hne : q ≠ []) : ([d].intercalate ps).getLast? = q.getLast? := by
  induction ps with
  | nil => cases hq
  | cons p ps ih =>
    cases ps with
    | nil =>
      obtain rfl : p = q := by simpa using hq
      rw [List.intercalate_singleton]
    | cons r ps =>
      rw [List.getLast?_cons_cons] at hq
      rw [List.intercalate_cons_cons, List.append_assoc, List.getLast?_append, List.singleton_append,
        List.getLast?_cons, ih hq]
      cases hlast : q.getLast? with
      | none => exact absurd (List.getLast?_eq_none_iff.1 hlast) hne
      | some c => rfl

theorem piece_ne_nil {l : List Char × Bool} (hl : isLabel l.1 = true) : Labels.piece l ≠ [] := by
  unfold Labels.piece ended
  split
  · simp
  · exact label_ne_nil hl

section
variable {ls : Labels}

/-- Nothing but points, line feeds and the characters of labels occurs. -/
theorem Labels.Proper.mem_text (h : ls.Proper) {absolute : Bool} {c : Char} (hc : c ∈ ls.text absolute) :
    c = '.' ∨ c = '\n' ∨ ∃ l, isLabel l = true ∧ c ∈ l := by
  rcases List.mem_append.1 hc with hc | hc
  · rcases mem_intercalate hc with rfl | ⟨p, hp, hc⟩
    · exact .inl rfl
    · obtain ⟨l, hl, rfl⟩ := List.mem_map.1 hp
      rcases mem_ended hc with ⟨rfl, -⟩ | hc
      · exact .inr (.inl rfl)
      · exact .inr (.inr ⟨l.1, h.labels l hl, hc⟩)
  · split at hc
    · exact .inl (List.mem_singleton.1 hc)
    · cases hc

theorem Labels.Proper.pieces (h : ls.Proper) : cutAtAll ['.'] (['.'].intercalate (ls.map Labels.piece)) =
    ls.map Labels.piece := by
  refine cutAtAll_eq_iff.2 ⟨by simpa using h.ne_nil, rfl, fun p hp hc => ?_⟩
  obtain ⟨l, hl, rfl⟩ := List.mem_map.1 hp
  exact not_mem_ended (by decide) (not_mem_label (h.labels l hl)).2.1 hc

theorem Labels.Proper.exists_last (h : ls.Proper) : ∃ l, ls.getLast? = some l ∧ isLabel l.1 = true ∧
    (ls.map Labels.piece).getLast? = some (Labels.piece l) := by
  refine ⟨ls.getLast h.ne_nil, List.getLast?_eq_some_getLast h.ne_nil, h.labels _ (List.getLast_mem h.ne_nil), ?_⟩
  rw [List.getLast?_map, List.getLast?_eq_some_getLast h.ne_nil]
  rfl

theorem Labels.Proper.withoutRoot_text (h : ls.Proper) (absolute : Bool) :
    withoutRoot (ls.text absolute) = ['.'].intercalate (ls.map Labels.piece) := by
  unfold withoutRoot Labels.text
  cases absolute with
  | true => simp
  | false =>
    obtain ⟨l, -, hl, hlast⟩ := h.exists_last
    simp only [Bool.false_eq_true, if_false, List.append_nil]
    rw [getLast?_intercalate hlast (piece_ne_nil hl), if_neg]
    intro hdot
    exact not_mem_ended (by decide) (not_mem_label hl).2.1 (List.mem_of_getLast? (beq_iff_eq.1 hdot))

end

theorem exists_root (s : List Char) : ∃ absolute : Bool, s = withoutRoot s ++ if absolute then ['.'] else [] := by
  unfold withoutRoot
  split
  · next h =>
    obtain ⟨t, rfl⟩ := List.getLast?_eq_some_iff.1 (beq_iff_eq.1 h)
    exact ⟨true, by simp⟩
  · exact ⟨false, by simp⟩

/-- What is a host name, or would be one without the line feeds after its labels. -/
def IsLooseHostname (s : List Char) : Prop :=
  s.length ≤ 253 ∧ ∃ (ls : Labels) (absolute : Bool), s = ls.text absolute ∧ ls.Proper

theorem isHostname_iff : isHostname s = true ↔ IsLooseHostname s := by
  unfold isHostname IsLooseHostname
  dsimp only
  simp only [Bool.and_eq_true, Bool.not_eq_true', decide_eq_true_eq, List.all_eq_true]
  constructor
  · rintro ⟨⟨⟨-, hlength⟩, hlabels⟩, hlast⟩
    obtain ⟨hne, hjoin, -⟩ := cutAtAll_pieces (c := '.') (withoutRoot s)
    obtain ⟨ls, hls, hproper⟩ := exists_labels hlabels
    obtain ⟨absolute, hroot⟩ := exists_root s
    rw [← hls] at hne hjoin hlast
    refine ⟨hlength, ls, absolute, by rw [Labels.text, hjoin]; exact hroot, by simpa using hne, hproper, fun l hl => ?_⟩
    rw [List.getLastD_eq_getLast?, List.getLast?_map, hl] at hlast
    exact hlast
  · rintro ⟨hlength, ls, absolute, rfl, h⟩
    obtain ⟨⟨l, mark⟩, hl, hlabel, hlast⟩ := h.exists_last
    have hend := getLast?_intercalate (d := '.') hlast (piece_ne_nil hlabel)
    rw [h.withoutRoot_text, h.pieces]
    refine ⟨⟨⟨?_, hlength⟩, fun p hp => ?_⟩, ?_⟩
    · rw [List.isEmpty_eq_false_iff]
      intro hempty
      rw [(List.append_eq_nil_iff.1 hempty).1] at hend
      exact piece_ne_nil hlabel (List.getLast?_eq_none_iff.1 hend.symm)
    · obtain ⟨l, hl, rfl⟩ := List.mem_map.1 hp
      exact holdsOfLine_eq_true.2 ⟨l.2, l.1, rfl, h.labels l hl⟩
    · rw [List.getLastD_eq_getLast?, hlast, Option.getD_some]
      cases mark with
      | false => exact h.last l hl
      | true =>
        -- What has a line feed in it is no number.
        rw [← Bool.not_eq_true]
        exact fun hnum => (not_mem_numeral hnum).1 (by simp [Labels.piece, ended])

/-! ## Hosts and ports -/

/-- The hosts that are admitted: names, whose labels may have line feeds after them, addresses of version 4, and in
brackets addresses of version 6, whose zone may have line feeds in it. -/
inductive LooseHost : List Char → Prop
  | name {s : List Char} (h : IsLooseHostname s) : LooseHost s
  | v4 {s : List Char} (h : isIp .v4 s = true) (hs : '\n' ∉ s) : LooseHost s
  | v6 {a : List Char} (h : isIp .v6 a = true) (hzone : '\n' ∈ a → IsZoned a) (ha : ']' ∉ a) :
      LooseHost ('[' :: (a ++ [']']))

/-- What may come after a host: nothing, or a colon and a port, after which there may be a line feed. -/
inductive LoosePort (required : Bool) : List Char → Prop
  | missing (h : required = false) : LoosePort required []
  | port {p : List Char} (mark : Bool) (h : isPort p = true) (hp : '\n' ∉ p) : LoosePort required (':' :: ended mark p)

theorem not_mem_hostname (h : isHostname s = true) : ':' ∉ s ∧ '[' ∉ s := by
  obtain ⟨-, ls, absolute, rfl, hproper⟩ := isHostname_iff.1 h
  refine ⟨fun hmem => ?_, fun hmem => ?_⟩
  · obtain heq | heq | ⟨l, hl, hmem⟩ := hproper.mem_text hmem
    · cases heq
    · cases heq
    · exact (not_mem_label hl).2.2.1 hmem
  · obtain heq | heq | ⟨l, hl, hmem⟩ := hproper.mem_text hmem
    · cases heq
    · cases heq
    · exact (not_mem_label hl).2.2.2 hmem

theorem not_mem_portNumeral (h : (isPortNumeral s && decide (decimal s ≤ 65535)) = true) :
    '\n' ∉ s ∧ ':' ∉ s ∧ '[' ∉ s := by
  simp only [Bool.and_eq_true, isPortNumeral] at h
  exact not_mem_numeral h.1.1.1

theorem isPort_iff : isPort s = true ↔ ∃ mark p, ended mark p = s ∧ isPort p = true ∧ '\n' ∉ p := by
  unfold isPort
  rw [holdsOfLine_eq_true]
  refine exists_congr fun mark => exists_congr fun p => and_congr_right fun _ => ⟨fun h => ?_, fun ⟨h, hfree⟩ => ?_⟩
  · have hfree := (not_mem_portNumeral h).1
    exact ⟨by rw [holdsOfLine_of_notMem hfree]; exact h, hfree⟩
  · rwa [holdsOfLine_of_notMem hfree] at h

theorem not_mem_port (h : isPort s = true) : ':' ∉ s ∧ '[' ∉ s := by
  obtain ⟨mark, p, rfl, hp⟩ := holdsOfLine_eq_true.1 h
  obtain ⟨-, hcolon, hbracket⟩ := not_mem_portNumeral hp
  exact ⟨not_mem_ended (by decide) hcolon, not_mem_ended (by decide) hbracket⟩

theorem loosePort_iff {required : Bool} : LoosePort required s ↔
    s = [] ∧ required = false ∨ ∃ port, s = ':' :: port ∧ isPort port = true := by
  constructor
  · rintro (h | ⟨mark, h, hp⟩)
    · exact .inl ⟨rfl, h⟩
    · exact .inr ⟨_, rfl, isPort_iff.2 ⟨mark, _, rfl, h, hp⟩⟩
  · rintro (⟨rfl, h⟩ | ⟨port, rfl, h⟩)
    · exact .missing h
    · obtain ⟨mark, p, rfl, hport, hline⟩ := isPort_iff.1 h
      exact .port mark hport hline

theorem looseHost_plain (h : (isHostname s || isIp .v4 s) = true) : LooseHost s := by
  rcases Bool.or_eq_true_iff.1 h with h | h
  · exact .name (isHostname_iff.1 h)
  · exact .v4 h (isIp_v4 h).1

theorem isHostAndPort_plain {required : Bool} {host rest : List Char} (h : (isHostname host || isIp .v4 host) = true)
    (hrest : LoosePort required rest) : isHostAndPort required (host ++ rest) = true := by
  have hfree : ':' ∉ host ∧ '[' ∉ host := by
    rcases Bool.or_eq_true_iff.1 h with h | h
    · exact not_mem_hostname h
    · exact (isIp_v4 h).2
  unfold isHostAndPort
  rcases loosePort_iff.1 hrest with ⟨rfl, hrequired⟩ | ⟨port, rfl, hport⟩
  · rw [List.append_nil]
    split
    · exact absurd List.mem_cons_self hfree.2
    · rw [splitLast_eq_none.2 hfree.1]
      simpa [hrequired] using h
  · split
    · next inner heq =>
      have hmem : '[' ∈ host ++ ':' :: port := heq ▸ List.mem_cons_self
      simp [hfree.2, (not_mem_port hport).2] at hmem
    · rw [splitLast_append (not_mem_port hport).1]
      simpa [hport] using h

theorem isHostAndPort_iff {required : Bool} : isHostAndPort required s = true ↔
    ∃ host rest, s = host ++ rest ∧ LooseHost host ∧ LoosePort required rest := by
  constructor
  · intro h
    unfold isHostAndPort at h
    split at h
    · split at h
      · cases h
      · next inner _ host rest hsplit =>
        obtain ⟨rfl, hhost⟩ := splitFirst_eq_some.1 hsplit
        obtain ⟨hip, hrest⟩ := Bool.and_eq_true_iff.1 h
        refine ⟨'[' :: (host ++ [']']), rest, by simp, .v6 hip (fun hs => (isIp_iff_isZoned hs).1 hip) hhost, ?_⟩
        rw [loosePort_iff]
        cases rest with
        | nil => exact .inl ⟨rfl, by simpa using hrest⟩
        | cons c port =>
          obtain ⟨hc, hport⟩ : c = ':' ∧ isPort port = true := by simpa using hrest
          exact .inr ⟨port, by rw [hc], hport⟩
    · split at h
      · obtain ⟨hrequired, hplain⟩ := Bool.and_eq_true_iff.1 h
        exact ⟨s, [], by simp, looseHost_plain hplain, .missing (by simpa using hrequired)⟩
      · next host port hsplit =>
        obtain ⟨rfl, -⟩ := splitLast_eq_some.1 hsplit
        obtain ⟨hplain, hport⟩ := Bool.and_eq_true_iff.1 h
        exact ⟨host, ':' :: port, rfl, looseHost_plain hplain, loosePort_iff.2 (.inr ⟨port, rfl, hport⟩)⟩
  · rintro ⟨host, rest, rfl, hname | ⟨hip, -⟩ | ⟨hip, -, ha⟩, hrest⟩
    · exact isHostAndPort_plain (by rw [isHostname_iff.2 hname]; rfl) hrest
    · exact isHostAndPort_plain (by rw [hip, Bool.or_true]) hrest
    · rw [List.cons_append, List.append_assoc, List.singleton_append, isHostAndPort, splitFirst_append ha]
      rcases loosePort_iff.1 hrest with ⟨rfl, hrequired⟩ | ⟨port, rfl, hport⟩
      · simp [hip, hrequired]
      · simp [hip, hport]

end Conformance.Address
