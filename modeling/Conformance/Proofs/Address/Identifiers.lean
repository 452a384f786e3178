import Conformance.Proofs.Address.Shapes

/-!
# Line feeds in URIs

A line feed may stand after the scheme of a URI and at the end of a URI or reference, the latter only where the
authority, if it goes on to the end, has no brackets and no port. It stands nowhere else.
-/

namespace Conformance.Address

open Conformance.Text

variable {s t : List Char}

/-! ## Characters and escapes -/

theorem percentsEscape_digits (a b : Char) (rest : List Char) : percentsEscape ('%' :: a :: b :: rest) =
    (isHexDigit a && isHexDigit b && percentsEscape (a :: b :: rest)) := rfl

theorem percentsEscape_snoc (s : List Char) : percentsEscape (s ++ ['\n']) = percentsEscape s := by
  induction s using percentsEscape.induct with
  | case1 => rfl
  | case2 rest ih =>
    match rest with
    | [] => decide
    | [a] =>
      have hdigit : isHexDigit '\n' = false := by decide
      have hcut : percentsEscape ['%', a] = false := rfl
      rw [hcut, List.cons_append, List.cons_append, List.nil_append, percentsEscape_digits, hdigit, Bool.and_false,
        Bool.false_and]
    | a :: b :: rest =>
      rw [percentsEscape_digits, ← ih]
      rfl
  | case3 c rest hc ih =>
    rw [List.cons_append, percentsEscape, percentsEscape, ih]
    · exact hc
    · exact hc

theorem percentsEscape_ended (mark : Bool) (s : List Char) : percentsEscape (ended mark s) = percentsEscape s := by
  cases mark with
  | false => rfl
  | true => exact percentsEscape_snoc s

theorem not_mem_uriChars (h : s.all isUriChar = true) : '\n' ∉ s := not_mem_of_all h (by decide)

theorem hasUriChars_of_notMem (hs : '\n' ∉ s) : hasUriChars s = (s.all isUriChar && percentsEscape s) := by
  rw [hasUriChars, holdsOfLine_of_notMem hs]

theorem hasUriChars_iff :
    hasUriChars s = true ↔ ∃ mark t, ended mark t = s ∧ '\n' ∉ t ∧ hasUriChars t = true := by
  constructor
  · intro h
    obtain ⟨hline, hescape⟩ := Bool.and_eq_true_iff.1 h
    obtain ⟨mark, t, rfl, ht⟩ := holdsOfLine_eq_true.1 hline
    have hfree := not_mem_uriChars ht
    rw [percentsEscape_ended] at hescape
    exact ⟨mark, t, rfl, hfree, by rw [hasUriChars_of_notMem hfree, ht, hescape]; rfl⟩
  · rintro ⟨mark, t, rfl, hfree, ht⟩
    rw [hasUriChars_of_notMem hfree] at ht
    obtain ⟨hall, hescape⟩ := Bool.and_eq_true_iff.1 ht
    rw [hasUriChars, percentsEscape_ended, hescape, Bool.and_true]
    exact holdsOfLine_eq_true.2 ⟨mark, t, rfl, hall⟩

/-! ## Authorities -/

def withoutUser (authority : List Char) : List Char := ((splitLast '@' authority).map (·.2)).getD authority

theorem hasAuthority_slashes (rest : List Char) :
    hasAuthority ('/' :: '/' :: rest) = isHostPort (withoutUser (firstSegment rest)) := rfl

/-- The text goes on to its end with a path, or with a host in which there are neither brackets nor colons. -/
def EndsOpen (s : List Char) : Prop :=
  ∀ rest, s = '/' :: '/' :: rest → firstSegment rest = rest →
    '[' ∉ withoutUser rest ∧ ']' ∉ withoutUser rest ∧ ':' ∉ withoutUser rest

theorem withoutUser_snoc (s : List Char) : withoutUser (s ++ ['\n']) = withoutUser s ++ ['\n'] := by
  unfold withoutUser
  by_cases hat : '@' ∈ s
  · cases hsplit : splitLast '@' s with
    | none => exact absurd hat (splitLast_eq_none.1 hsplit)
    | some p =>
      obtain ⟨a, b⟩ := p
      obtain ⟨rfl, hb⟩ := splitLast_eq_some.1 hsplit
      rw [List.append_assoc, List.cons_append, splitLast_append]
      · rfl
      · simpa using hb
  · rw [splitLast_eq_none.2 hat, splitLast_eq_none.2 (by simpa using hat)]
    rfl

theorem isNumeral_snoc (s : List Char) : isNumeral (s ++ ['\n']) = false := by
  rw [← Bool.not_eq_true]
  exact fun h => (not_mem_numeral h).1 (by simp)

theorem isPortPart_snoc (s : List Char) : isPortPart (s ++ ['\n']) = false := by
  cases s with
  | nil => decide
  | cons c s => rw [List.cons_append, isPortPart, isNumeral_snoc, Bool.and_false]

theorem isHostPort_snoc : isHostPort (s ++ ['\n']) = true ↔ '[' ∉ s ∧ ']' ∉ s ∧ ':' ∉ s := by
  unfold isHostPort
  split
  · next inner heq =>
    have hbracket : '[' ∈ s := by
      cases s with
      | nil => cases heq
      | cons c s => rw [(List.cons.inj heq).1]; exact List.mem_cons_self
    refine iff_of_false (fun h => ?_) fun h => h.1 hbracket
    -- The line feed is after the closing bracket, where only a port may be.
    split at h
    · cases h
    · next host rest hsplit =>
      obtain ⟨rfl, -⟩ := splitFirst_eq_some.1 hsplit
      obtain ⟨u, hu⟩ : ∃ u, rest = u ++ ['\n'] := by
        have hlast : (s ++ ['\n']).getLast? = ('[' :: (host ++ ']' :: rest)).getLast? := congrArg List.getLast? heq
        rw [List.getLast?_concat, ← List.cons_append, List.getLast?_append, List.getLast?_cons] at hlast
        cases hrest : rest.getLast? with
        | none => rw [hrest] at hlast; cases hlast
        | some d =>
          rw [hrest] at hlast
          cases hlast
          exact List.getLast?_eq_some_iff.1 hrest
      rw [hu, isPortPart_snoc, Bool.and_false] at h
      cases h
  · by_cases hcolon : ':' ∈ s
    · obtain ⟨a, b, rfl, ha⟩ := List.eq_append_cons_of_mem hcolon
      rw [List.append_assoc, List.cons_append, splitFirst_append ha]
      simp [isNumeral_snoc]
    · rw [splitFirst_eq_none.2 (by simpa using hcolon)]
      simp [hcolon]

theorem isHostPort_of_notMem (h : '[' ∉ s ∧ ']' ∉ s ∧ ':' ∉ s) : isHostPort s = true := by
  unfold isHostPort
  split
  · exact absurd List.mem_cons_self h.1
  · rw [splitFirst_eq_none.2 h.2.2]
    simp [h.1, h.2.1]

theorem firstSegment_snoc (s : List Char) :
    firstSegment (s ++ ['\n']) = if firstSegment s = s then s ++ ['\n'] else firstSegment s := by
  unfold firstSegment
  rw [List.takeWhile_append]
  by_cases hs : s.takeWhile (fun c => !(c == '/' || c == '?' || c == '#')) = s
  · rw [if_pos (congrArg List.length hs), if_pos hs]
    rfl
  · rw [if_neg (fun h => hs ((List.takeWhile_prefix _).eq_of_length h)), if_neg hs]

theorem hasAuthority_snoc : hasAuthority (s ++ ['\n']) = true ↔ hasAuthority s = true ∧ EndsOpen s := by
  by_cases hslashes : ∃ rest, s = '/' :: '/' :: rest
  · obtain ⟨rest, rfl⟩ := hslashes
    have hopen : EndsOpen ('/' :: '/' :: rest) ↔ (firstSegment rest = rest →
        '[' ∉ withoutUser rest ∧ ']' ∉ withoutUser rest ∧ ':' ∉ withoutUser rest) :=
      ⟨fun h => h rest rfl, fun h r hr => by cases hr; exact h⟩
    rw [List.cons_append, List.cons_append, hasAuthority_slashes, hasAuthority_slashes, firstSegment_snoc, hopen]
    split
    · next hend =>
      rw [withoutUser_snoc, isHostPort_snoc, hend]
      exact ⟨fun h => ⟨isHostPort_of_notMem h, fun _ => h⟩, fun h => h.2 rfl⟩
    · next hend => exact ⟨fun h => ⟨h, fun heq => absurd heq hend⟩, And.left⟩
  · have hplain : ∀ u : List Char, (¬∃ rest, u = '/' :: '/' :: rest) → hasAuthority u = true := by
      intro u hu
      unfold hasAuthority
      split
      · next rest => exact absurd ⟨rest, rfl⟩ hu
      · rfl
    refine iff_of_true (hplain _ ?_) ⟨hplain s hslashes, fun rest heq => absurd ⟨rest, heq⟩ hslashes⟩
    rintro ⟨rest, heq⟩
    match s with
    | [] => cases heq
    | [c] => cases heq
    | c :: d :: u =>
      cases heq
      exact hslashes ⟨u, rfl⟩

theorem hasAuthority_ended {mark : Bool} :
    hasAuthority (ended mark s) = true ↔ hasAuthority s = true ∧ (mark = true → EndsOpen s) := by
  cases mark with
  | false => exact ⟨fun h => ⟨h, fun hmark => by cases hmark⟩, And.left⟩
  | true => exact hasAuthority_snoc.trans (and_congr_right fun _ => ⟨fun h _ => h, fun h => h rfl⟩)

/-! ## URIs and references -/

theorem not_mem_scheme (h : isScheme s = true) : '\n' ∉ s ∧ ':' ∉ s := by
  cases s with
  | nil => exact ⟨List.not_mem_nil, List.not_mem_nil⟩
  | cons c s =>
    obtain ⟨hc, hs⟩ := Bool.and_eq_true_iff.1 h
    have hfree : ∀ d, isAsciiLetter d = false → (isAsciiAlphanumeric d || "+.-".toList.contains d) = false →
        d ∉ c :: s := by
      intro d hletter hchar hmem
      rcases List.mem_cons.1 hmem with rfl | hmem
      · rw [hletter] at hc
        cases hc
      · exact not_mem_of_all hs hchar hmem
    exact ⟨hfree _ (by decide) (by decide), hfree _ (by decide) (by decide)⟩

theorem isUri_append {scheme rest : List Char} (h : ':' ∉ scheme) :
    isUri (scheme ++ ':' :: rest) = (holdsOfLine isScheme scheme && hasUriChars rest && hasAuthority rest) := by
  rw [isUri, splitFirst_append h]

/-- What is a URI, or would be one without the line feeds that may end its scheme and the whole. -/
def IsLooseUri (s : List Char) : Prop :=
  ∃ sep scheme mark rest, s = ended sep scheme ++ ':' :: ended mark rest ∧ '\n' ∉ scheme ++ ':' :: rest ∧
    ':' ∉ scheme ∧ isUri (scheme ++ ':' :: rest) = true ∧ (mark = true → EndsOpen rest)

theorem isUri_iff : isUri s = true ↔ IsLooseUri s := by
  constructor
  · intro h
    cases hsplit : splitFirst ':' s with
    | none => rw [isUri, hsplit] at h; cases h
    | some p =>
      obtain ⟨a, b⟩ := p
      obtain ⟨rfl, ha⟩ := splitFirst_eq_some.1 hsplit
      rw [isUri_append ha, Bool.and_eq_true, Bool.and_eq_true] at h
      obtain ⟨⟨hscheme, hchars⟩, hauthority⟩ := h
      obtain ⟨sep, scheme, rfl, hs⟩ := holdsOfLine_eq_true.1 hscheme
      obtain ⟨mark, rest, rfl, hfree, hrest⟩ := hasUriChars_iff.1 hchars
      obtain ⟨hauth, hopen⟩ := hasAuthority_ended.1 hauthority
      obtain ⟨hline, hcolon⟩ := not_mem_scheme hs
      refine ⟨sep, scheme, mark, rest, rfl, by simp [hline, hfree], hcolon, ?_, hopen⟩
      rw [isUri_append hcolon, holdsOfLine_of_notMem hline, hs, hrest, hauth]
      rfl
  · rintro ⟨sep, scheme, mark, rest, rfl, hfree, hcolon, h, hopen⟩
    rw [isUri_append hcolon, Bool.and_eq_true, Bool.and_eq_true] at h
    obtain ⟨⟨hscheme, hchars⟩, hauth⟩ := h
    rw [List.mem_append, List.mem_cons, not_or, not_or] at hfree
    rw [holdsOfLine_of_notMem hfree.1] at hscheme
    rw [isUri_append (not_mem_ended (by decide) hcolon), Bool.and_eq_true, Bool.and_eq_true]
    exact ⟨⟨holdsOfLine_eq_true.2 ⟨sep, scheme, rfl, hscheme⟩, hasUriChars_iff.2 ⟨mark, rest, rfl, hfree.2.2, hchars⟩⟩,
      hasAuthority_ended.2 ⟨hauth, hopen⟩⟩

/-- A reference that is relative: its first segment has no colon. -/
def isRelative (s : List Char) : Bool := !(firstSegment s).contains ':' && hasUriChars s && hasAuthority s

theorem isUriReference_eq (s : List Char) : isUriReference s = (isUri s || isRelative s) := rfl

theorem mem_firstSegment_snoc {c : Char} (hc : c ≠ '\n') : c ∈ firstSegment (s ++ ['\n']) ↔ c ∈ firstSegment s := by
  rw [firstSegment_snoc]
  split
  · next h => rw [h]; simp [hc]
  · exact Iff.rfl

theorem isRelative_iff (hs : '\n' ∈ s) :
    isRelative s = true ↔ ∃ t, s = t ++ ['\n'] ∧ '\n' ∉ t ∧ isRelative t = true ∧ EndsOpen t := by
  unfold isRelative
  simp only [Bool.and_eq_true, Bool.not_eq_true', List.contains_eq_mem, decide_eq_false_iff_not]
  constructor
  · rintro ⟨⟨hcolon, hchars⟩, hauthority⟩
    obtain ⟨mark, t, rfl, hfree, ht⟩ := hasUriChars_iff.1 hchars
    rcases mem_ended hs with ⟨-, rfl⟩ | hmem
    · obtain ⟨hauth, hopen⟩ := hasAuthority_snoc.1 hauthority
      exact ⟨t, rfl, hfree, ⟨⟨mt (mem_firstSegment_snoc (by decide)).2 hcolon, ht⟩, hauth⟩, hopen⟩
    · exact absurd hmem hfree
  · rintro ⟨t, rfl, hfree, ⟨⟨hcolon, hchars⟩, hauth⟩, hopen⟩
    exact ⟨⟨mt (mem_firstSegment_snoc (by decide)).1 hcolon, hasUriChars_iff.2 ⟨true, t, rfl, hfree, hchars⟩⟩,
      hasAuthority_snoc.2 ⟨hauth, hopen⟩⟩

theorem isUriReference_iff (hs : '\n' ∈ s) : isUriReference s = true ↔ IsLooseUri s ∨
    ∃ t, s = t ++ ['\n'] ∧ '\n' ∉ t ∧ isRelative t = true ∧ EndsOpen t := by
  rw [isUriReference_eq, Bool.or_eq_true, isUri_iff, isRelative_iff hs]

end Conformance.Address
