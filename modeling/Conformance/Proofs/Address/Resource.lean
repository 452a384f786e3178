import Conformance.Proofs.Address.Components

/-!
# The syntax of URIs

The check of URIs cuts a text into components and looks at the characters of each, but does not ask whether a component
has delimiters in it that the generic syntax has nowhere else. What it accepts follows the syntax where none are left.
-/

namespace Conformance.Address

open Conformance.Text

variable {c : Char} {a b s : List Char} {without : List Char}

/-! ## Parts -/

/-- Before a delimiter a part ends. -/
theorem isPart_append_start (hb : b = [] ∨ ∃ c ∈ ['/', '?', '#'], ∃ rest, b = c :: rest) :
    IsPart [] (a ++ b) ↔ IsPart [] a ∧ IsPart [] b := by
  obtain rfl | ⟨c, hc, rest, rfl⟩ := hb
  · rw [List.append_nil, and_iff_left isPart_nil]
  · have hreserved : c ∈ reserved := by
      simp only [List.mem_cons, List.not_mem_nil, or_false] at hc
      obtain rfl | rfl | rfl := hc <;> decide
    rw [isPart_append hreserved List.not_mem_nil, isPart_cons hreserved List.not_mem_nil]

theorem hasUriChars_iff_isPart (hs : '\n' ∉ s) : hasUriChars s = true ↔ IsPart [] s := by
  rw [hasUriChars_of_notMem hs, Bool.and_eq_true, isPart_iff]
  exact (and_iff_left fun _ hc => absurd hc List.not_mem_nil).symm

theorem IsPart.line_notMem (h : IsPart without s) : '\n' ∉ s := not_mem_uriChars (isPart_iff.1 h).1.1

/-- A text is cut into a path, a query and a fragment. -/
theorem exists_target (h : IsPart [] s) : ∃ p q f, s = (p ++ led '?' q) ++ led '#' f ∧ IsPart ['?', '#'] p ∧
    (∀ x ∈ q, IsPart ['#'] x) ∧ ∀ x ∈ f, IsPart [] x := by
  obtain ⟨t, f, rfl, ht⟩ := exists_led '#' s
  obtain ⟨hpart, hf⟩ := (isPart_append_led (by decide) (by decide)).1 h
  obtain ⟨p, q, rfl, hp⟩ := exists_led '?' t
  obtain ⟨hpath, hq⟩ := (isPart_append_led (by decide) (by decide)).1 (isPart_without_cons.2 ⟨hpart, ht⟩)
  exact ⟨p, q, f, rfl, isPart_without_cons.2 ⟨hpath, hp⟩, hq, hf⟩

/-! ## Hosts with ports -/

/-- What the check asks of a host with a port: after brackets a port has a digit. -/
def UriHost.Takes (p : Option (List Char)) : UriHost → Prop
  | .literal a => (isIp .v6 a = true ∧ ']' ∉ a) ∧ ∀ x ∈ p, isNumeral x = true
  | .name n => ('[' ∉ n ∧ ']' ∉ n ∧ ':' ∉ n) ∧ ∀ x ∈ p, ∀ c ∈ x, c.isDigit = true

theorem isPortPart_iff : isPortPart s = true ↔ ∃ p : Option (List Char), s = led ':' p ∧ ∀ x ∈ p, isNumeral x = true := by
  cases s with
  | nil => exact ⟨fun _ => ⟨none, rfl, by simp⟩, fun _ => rfl⟩
  | cons c s =>
    rw [isPortPart, Bool.and_eq_true, beq_iff_eq]
    constructor
    · intro h
      exact ⟨some s, by rw [h.1]; rfl, by simpa using h.2⟩
    · intro h
      obtain ⟨p, hp, hnumeral⟩ := h
      cases p with
      | none => cases hp
      | some x =>
        cases hp
        exact ⟨rfl, hnumeral s rfl⟩

theorem isHostPort_literal (h : ']' ∉ a) : isHostPort ('[' :: (a ++ ']' :: b)) = (isIp .v6 a && isPortPart b) := by
  rw [isHostPort, splitFirst_append h]

theorem digits_iff : (s.isEmpty || isNumeral s) = true ↔ ∀ c ∈ s, c.isDigit = true := by
  rw [Bool.or_eq_true, isNumeral_iff, List.isEmpty_iff]
  by_cases hs : s = []
  · simp [hs]
  · simp [hs]

theorem isHostPort_name {p : Option (List Char)} (hcolon : ':' ∉ a) (hhead : (a ++ led ':' p).head? ≠ some '[') :
    isHostPort (a ++ led ':' p) = true ↔ ('[' ∉ a ∧ ']' ∉ a) ∧ ∀ x ∈ p, ∀ c ∈ x, c.isDigit = true := by
  unfold isHostPort
  split
  · next inner heq => exact absurd (by rw [heq]; rfl) hhead
  · have hcut : (splitFirst ':' (a ++ led ':' p)).getD (a ++ led ':' p, []) = (a, p.getD []) := by
      rw [splitFirst_led hcolon]
      cases p with
      | none => simp [led]
      | some x => rfl
    rw [hcut]
    dsimp only
    rw [Bool.and_eq_true, digits_iff]
    cases p <;> simp

theorem isHostPort_iff : isHostPort s = true ↔ ∃ (h : UriHost) (p : Option (List Char)),
    s = h.text ++ led ':' p ∧ h.Takes p := by
  constructor
  · intro h
    by_cases hhead : s.head? = some '['
    · obtain ⟨inner, rfl⟩ := List.head?_eq_some_iff.1 hhead
      cases hsplit : splitFirst ']' inner with
      | none => rw [isHostPort, hsplit] at h; cases h
      | some q =>
        obtain ⟨a, b⟩ := q
        obtain ⟨rfl, ha⟩ := splitFirst_eq_some.1 hsplit
        rw [isHostPort_literal ha, Bool.and_eq_true, isPortPart_iff] at h
        obtain ⟨hip, p, rfl, hp⟩ := h
        exact ⟨.literal a, p, by simp [UriHost.text], ⟨hip, ha⟩, hp⟩
    · obtain ⟨n, p, rfl, hn⟩ := exists_led ':' s
      obtain ⟨⟨hopen, hclose⟩, hp⟩ := (isHostPort_name hn hhead).1 h
      exact ⟨.name n, p, rfl, ⟨hopen, hclose, hn⟩, hp⟩
  · intro h
    obtain ⟨host, p, rfl, h⟩ := h
    cases host with
    | literal a =>
      obtain ⟨⟨hip, ha⟩, hp⟩ := h
      have htext : (UriHost.literal a).text ++ led ':' p = '[' :: (a ++ ']' :: led ':' p) := by simp [UriHost.text]
      rw [htext, isHostPort_literal ha, hip, isPortPart_iff.2 ⟨p, rfl, hp⟩]
      rfl
    | name n =>
      obtain ⟨⟨hopen, hclose, hcolon⟩, hp⟩ := h
      refine (isHostPort_name hcolon fun hhead => ?_).2 ⟨⟨hopen, hclose⟩, hp⟩
      cases n with
      | nil => cases p <;> cases hhead
      | cons c n =>
        cases hhead
        exact hopen List.mem_cons_self

/-! ## Authorities -/

/-- After brackets a colon needs a port, as it does not after a name. -/
def Authority.Ported (a : Authority) : Prop := ∀ s, a.host = .literal s → a.port ≠ some []

theorem UriHost.fits_cut_iff {h : UriHost} {p : Option (List Char)} :
    (h.Fits .cut ∧ (∀ s ∈ p, ∀ c ∈ s, c.isDigit = true) ∧ ∀ s, h = .literal s → p ≠ some []) ↔
      IsPart ['@', '/', '?', '#'] h.text ∧ h.Takes p := by
  rw [isPart_text (by decide)]
  cases h with
  | literal a =>
    have hport : ((∀ s ∈ p, ∀ c ∈ s, c.isDigit = true) ∧ p ≠ some []) ↔ ∀ s ∈ p, isNumeral s = true := by
      cases p <;> simp [isNumeral_iff, and_comm]
    have hpart : IsPart Delimiters.cut.literal a ↔ IsPart ['@', '/', '?', '#'] a ∧ ']' ∉ a := isPart_without_cons
    simp only [Fits, Takes, hpart, ← hport]
    simp
    tauto
  | name n =>
    simp only [Fits, Takes, isPart_without_cons (c := '['), isPart_without_cons (c := ']'), isPart_without_cons (c := ':')]
    simp
    tauto

/-- What the check asks of an authority is that it is one after a cut. -/
theorem Authority.fits_cut_iff {a : Authority} :
    (a.Fits .cut ∧ a.Ported) ↔ IsPart ['/', '?', '#'] a.text ∧ '@' ∉ a.hostPort ∧ a.host.Takes a.port := by
  constructor
  · intro h
    obtain ⟨h, hported⟩ := h
    exact ⟨h.isPart, h.isPart_hostPort.without _ (by simp), (UriHost.fits_cut_iff.1 ⟨h.host, h.port, hported⟩).2⟩
  · intro h
    obtain ⟨hpart, hat, htakes⟩ := h
    obtain ⟨huser, hhost⟩ := (isPart_text (by decide)).1 hpart
    obtain ⟨hhost, -⟩ := (isPart_append_led (by decide) (by decide)).1 (isPart_without_cons.2 ⟨hhost, hat⟩)
    obtain ⟨hhost, hport, hported⟩ := UriHost.fits_cut_iff.2 ⟨hhost, htakes⟩
    exact ⟨⟨huser, hhost, hport⟩, hported⟩

theorem withoutUser_text {a : Authority} (h : '@' ∉ a.hostPort) : withoutUser a.text = a.hostPort := by
  unfold withoutUser Authority.text
  cases a.user with
  | none => rw [Option.elim_none, splitLast_eq_none.2 h]; rfl
  | some s => rw [Option.elim_some, splitLast_append h]; rfl

theorem exists_authority (h : isHostPort (withoutUser s) = true) :
    ∃ a : Authority, s = a.text ∧ '@' ∉ a.hostPort ∧ a.host.Takes a.port := by
  unfold withoutUser at h
  cases hsplit : splitLast '@' s with
  | none =>
    rw [hsplit, Option.map_none, Option.getD_none] at h
    obtain ⟨host, port, rfl, htakes⟩ := isHostPort_iff.1 h
    exact ⟨⟨none, host, port⟩, rfl, splitLast_eq_none.1 hsplit, htakes⟩
  | some p =>
    obtain ⟨u, v⟩ := p
    obtain ⟨rfl, hv⟩ := splitLast_eq_some.1 hsplit
    rw [hsplit, Option.map_some, Option.getD_some] at h
    obtain ⟨host, port, rfl, htakes⟩ := isHostPort_iff.1 h
    exact ⟨⟨some u, host, port⟩, rfl, hv, htakes⟩

/-! ## URIs -/

/-- What the check accepts: a text whose components fit after a cut. -/
structure Uri.Passes (u : Uri) : Prop where
  fits : u.Fits .cut
  ported : ∀ a ∈ u.authority, a.Ported

theorem hasAuthority_of_ne (h : ∀ r, s ≠ '/' :: '/' :: r) : hasAuthority s = true := by
  unfold hasAuthority
  split
  · next r => exact absurd rfl (h r)
  · rfl

namespace Uri

variable {d : Delimiters} {u : Uri}

theorem isPart_target (u : Uri) : IsPart [] u.target ↔ (IsPart [] u.path ∧ ∀ s ∈ u.query, IsPart [] s) ∧
    ∀ s ∈ u.fragment, IsPart [] s := by
  rw [target, isPart_append_led (by decide) (by decide), isPart_append_led (by decide) (by decide)]

theorem hasAuthority_rest (h : u.Fits .cut) :
    hasAuthority u.rest = true ↔ ∀ a ∈ u.authority, isHostPort a.hostPort = true := by
  cases ha : u.authority with
  | none =>
    rw [rest, ha]
    exact iff_of_true (hasAuthority_of_ne (h.not_slashes ha)) (by simp)
  | some a =>
    have hat := (h.authority a ha).isPart_hostPort.without '@' (by simp)
    rw [rest, ha, Option.elim_some, hasAuthority_slashes, h.firstSegment_text ha, withoutUser_text hat]
    simp

theorem isPart_rest_iff (h : u.Fits d) : IsPart [] u.rest ↔ (∀ a ∈ u.authority, IsPart [] a.text) ∧ IsPart [] u.target := by
  cases ha : u.authority with
  | none => simp [rest, ha]
  | some a =>
    rw [rest, ha, Option.elim_some, isPart_cons (by decide) (by decide), isPart_cons (by decide) (by decide),
      isPart_append_start (h.target_start (by rw [ha]; rfl))]
    simp

theorem Fits.isPart_rest (h : u.Fits .cut) : IsPart [] u.rest :=
  (isPart_rest_iff h).2 ⟨fun a ha => (h.authority a ha).isPart.mono (by simp),
    (isPart_target u).2 ⟨⟨h.path.mono (by simp), fun s hs => (h.query s hs).mono (by simp)⟩, h.fragment⟩⟩

theorem isUri_text (h : u.Fits .cut) : isUri u.text = true ↔ ∀ a ∈ u.authority, isHostPort a.hostPort = true := by
  have hscheme : holdsOfLine isScheme u.scheme = true := by rw [holdsOfLine, h.scheme, Bool.true_or]
  have hrest := h.isPart_rest
  rw [text, isUri_append h.scheme_notMem, hscheme, (hasUriChars_iff_isPart hrest.line_notMem).2 hrest, Bool.true_and,
    Bool.true_and, hasAuthority_rest h]

/-- What passes is accepted. -/
theorem Passes.isUri (h : u.Passes) : isUri u.text = true :=
  (isUri_text h.fits).2 fun a ha => isHostPort_iff.2
    ⟨a.host, a.port, rfl, (Authority.fits_cut_iff.1 ⟨h.fits.authority a ha, h.ported a ha⟩).2.2⟩

end Uri

/-- A text is cut into what can be an authority and what may come after it. -/
theorem exists_start (s : List Char) : ∃ b, s = firstSegment s ++ b ∧ (∀ c ∈ ['/', '?', '#'], c ∉ firstSegment s) ∧
    (b = [] ∨ ∃ c ∈ ['/', '?', '#'], ∃ rest, b = c :: rest) := by
  refine ⟨_, List.takeWhile_append_dropWhile.symm, fun c hc hmem => ?_, ?_⟩
  · have h := List.all_eq_true.1 List.all_takeWhile c hmem
    simp only [List.mem_cons, List.not_mem_nil, or_false] at hc
    obtain rfl | rfl | rfl := hc <;> cases h
  · cases hdrop : s.dropWhile fun c => !(c == '/' || c == '?' || c == '#') with
    | nil => exact .inl rfl
    | cons c rest =>
      have h := List.head?_dropWhile_not (fun c => !(c == '/' || c == '?' || c == '#')) s
      rw [hdrop] at h
      exact .inr ⟨c, by simp at h ⊢; tauto, rest, rfl⟩

/-- A path after an authority is rooted. -/
theorem rooted_of_start {p b : List Char} (hp : IsPart ['?', '#'] p)
    (h : p ++ b = [] ∨ ∃ c ∈ ['/', '?', '#'], ∃ rest, p ++ b = c :: rest) : p = [] ∨ p.head? = some '/' := by
  cases p with
  | nil => exact .inl rfl
  | cons d p =>
    obtain h | ⟨c, hc, rest, h⟩ := h
    · cases h
    · cases h
      have hfree := hp.without
      simp only [List.mem_cons, List.not_mem_nil, or_false] at hc
      obtain rfl | rfl | rfl := hc
      · exact .inr rfl
      · exact absurd List.mem_cons_self (hfree _ (by simp))
      · exact absurd List.mem_cons_self (hfree _ (by simp))

theorem exists_passes (hs : '\n' ∉ s) (h : isUri s = true) : ∃ u : Uri, s = u.text ∧ u.Passes := by
  cases hsplit : splitFirst ':' s with
  | none => rw [isUri, hsplit] at h; cases h
  | some q =>
    obtain ⟨scheme, rest⟩ := q
    obtain ⟨rfl, hcolon⟩ := splitFirst_eq_some.1 hsplit
    rw [List.mem_append, List.mem_cons, not_or, not_or] at hs
    rw [isUri_append hcolon, holdsOfLine_of_notMem hs.1, Bool.and_eq_true, Bool.and_eq_true,
      hasUriChars_iff_isPart hs.2.2] at h
    obtain ⟨⟨hscheme, hrest⟩, hauthority⟩ := h
    by_cases hslashes : ∃ r, rest = '/' :: '/' :: r
    · obtain ⟨r, rfl⟩ := hslashes
      obtain ⟨b, hr, hfree, hstart⟩ := exists_start r
      rw [isPart_cons (by decide) (by decide), isPart_cons (by decide) (by decide), hr, isPart_append_start hstart] at hrest
      obtain ⟨a, ha, hat, htakes⟩ := exists_authority hauthority
      obtain ⟨p, q, f, rfl, hp, hq, hf⟩ := exists_target hrest.2
      have hpart : IsPart ['/', '?', '#'] a.text := ha ▸ ⟨hrest.1.chars, hrest.1.escapes, hfree⟩
      obtain ⟨hfits, hported⟩ := Authority.fits_cut_iff.2 ⟨hpart, hat, htakes⟩
      rw [List.append_assoc] at hstart
      refine ⟨⟨scheme, some a, p, q, f⟩, ?_, ⟨hscheme, by simpa using hfits, hp, hq, hf,
        fun _ => rooted_of_start hp hstart, by simp⟩, by simpa using hported⟩
      rw [Uri.text, Uri.rest, Option.elim_some, ← ha]
      exact congrArg (scheme ++ ':' :: '/' :: '/' :: ·) hr
    · obtain ⟨p, q, f, rfl, hp, hq, hf⟩ := exists_target hrest
      refine ⟨⟨scheme, none, p, q, f⟩, rfl, ⟨hscheme, by simp, hp, hq, hf, by simp, fun _ hstart => ?_⟩, by simp⟩
      obtain ⟨r, rfl⟩ := hstart
      exact hslashes ⟨(r ++ led '?' q) ++ led '#' f, rfl⟩

theorem isUri_iff_exists (hs : '\n' ∉ s) : isUri s = true ↔ ∃ u : Uri, s = u.text ∧ u.Passes := by
  constructor
  · exact exists_passes hs
  · intro h
    obtain ⟨u, rfl, h⟩ := h
    exact h.isUri

/-! ## Line feeds -/

theorem Authority.Fits.hostPort_plain {a : Authority} (h : a.Fits .cut) :
    ('[' ∉ a.hostPort ∧ ']' ∉ a.hostPort ∧ ':' ∉ a.hostPort) ↔ (∃ n, a.host = .name n) ∧ a.port = none := by
  have hhost := h.host
  unfold hostPort
  cases hh : a.host with
  | literal s => simp [UriHost.text]
  | name n =>
    rw [hh] at hhost
    have hfree := IsPart.without hhost
    simp only [List.forall_mem_cons] at hfree
    cases a.port with
    | none => simp [UriHost.text, led, hfree]
    | some p => simp [UriHost.text, led]

namespace Uri

variable {u : Uri}

theorem Fits.line_notMem (h : u.Fits .cut) : '\n' ∉ u.text := by
  rw [text, List.mem_append, List.mem_cons, not_or, not_or]
  exact ⟨(not_mem_scheme h.scheme).1, by decide, h.isPart_rest.line_notMem⟩

/-- A text that ends with its authority ends with a name. -/
def EndsWithName (u : Uri) : Prop := ∀ a ∈ u.authority, u.target = [] → (∃ n, a.host = .name n) ∧ a.port = none

theorem Fits.endsOpen_iff (h : u.Fits .cut) : EndsOpen u.rest ↔ u.EndsWithName := by
  cases ha : u.authority with
  | none =>
    refine iff_of_true (fun r hr => ?_) fun a hmem => ?_
    · rw [rest, ha] at hr
      exact absurd hr (h.not_slashes ha r)
    · rw [ha] at hmem
      cases hmem
  | some a =>
    have hfits := h.authority a ha
    have hrest : u.rest = '/' :: '/' :: (a.text ++ u.target) := by rw [rest, ha]; rfl
    have hend : firstSegment (a.text ++ u.target) = a.text ++ u.target ↔ u.target = [] := by
      rw [h.firstSegment_text ha, List.self_eq_append_right]
    have hopen : EndsOpen u.rest ↔ (u.target = [] → (∃ n, a.host = .name n) ∧ a.port = none) := by
      rw [← hfits.hostPort_plain]
      constructor
      · intro hopen htarget
        have hplain := hopen _ hrest (hend.2 htarget)
        rwa [htarget, List.append_nil, withoutUser_text (hfits.isPart_hostPort.without '@' (by simp))] at hplain
      · intro hplain r hr hsegment
        rw [hrest] at hr
        cases hr
        have htarget := hend.1 hsegment
        rw [htarget, List.append_nil, withoutUser_text (hfits.isPart_hostPort.without '@' (by simp))]
        exact hplain htarget
    simp [hopen, EndsWithName, ha]

end Uri

theorem isUri_iff_components : isUri s = true ↔ ∃ (u : Uri) (sep mark : Bool),
    s = ended sep u.scheme ++ ':' :: ended mark u.rest ∧ u.Passes ∧ (mark = true → u.EndsWithName) := by
  rw [isUri_iff]
  constructor
  · intro h
    obtain ⟨sep, scheme, mark, rest, rfl, hline, hcolon, huri, hopen⟩ := h
    obtain ⟨u, htext, hu⟩ := exists_passes hline huri
    obtain ⟨rfl, hrest⟩ := led_injective (p := some rest) (q := some u.rest) hcolon hu.fits.scheme_notMem htext
    cases hrest
    exact ⟨u, sep, mark, rfl, hu, fun hmark => hu.fits.endsOpen_iff.1 (hopen hmark)⟩
  · intro h
    obtain ⟨u, sep, mark, rfl, hu, hopen⟩ := h
    exact ⟨sep, u.scheme, mark, u.rest, rfl, hu.fits.line_notMem, hu.fits.scheme_notMem, hu.isUri,
      fun hmark => hu.fits.endsOpen_iff.2 (hopen hmark)⟩

end Conformance.Address

namespace Conformance.Format

open Address

/-- What the check of URIs accepts is told by components: without line feeds, each accepted text is cut in one way into
components that do without the delimiters at which it is cut, and all such texts are accepted, except for a colon without
a port after brackets. So it follows the generic syntax if and only if, moreover, the components do without those at which
it is not cut. A line feed after the scheme or at the end is overlooked. -/
theorem uri_components (t : String) (s : Schema) :
    ∃ b, Expr.Library.call s (.function .isUri) ⟨[.text t], []⟩ = pure (.bool b) ∧
      (b = true ↔ ∃ (u : Uri) (sep mark : Bool), t.toList = ended sep u.scheme ++ ':' :: ended mark u.rest ∧
        u.Passes ∧ (mark = true → u.EndsWithName)) ∧
      ('\n' ∉ t.toList → (b = true ↔ ∃! u : Uri, t.toList = u.text ∧ u.Passes)) ∧
      (b = true → ((∃ u : Uri, t.toList = u.text ∧ u.Fits .generic) ↔
        '\n' ∉ t.toList ∧ ∀ u : Uri, t.toList = u.text → u.Passes → u.Lacks .surplus)) := by
  refine ⟨isUri t.toList, uri.call_eq s t, isUri_iff_components, fun hline => ?_, fun h => ?_⟩
  · rw [isUri_iff_exists hline]
    constructor
    · intro h
      obtain ⟨u, htext, hu⟩ := h
      exact ⟨u, ⟨htext, hu⟩, fun w hw => hw.2.fits.text_injective hu.fits (hw.1.symm.trans htext)⟩
    · intro h
      obtain ⟨u, hu, -⟩ := h
      exact ⟨u, hu⟩
  · constructor
    · intro hgeneric
      obtain ⟨u, htext, hu⟩ := hgeneric
      obtain ⟨hcut, hlacks⟩ := Uri.fits_generic_iff.1 hu
      refine ⟨htext ▸ hcut.line_notMem, fun w hw hpasses => ?_⟩
      rwa [hpasses.fits.text_injective hcut (hw.symm.trans htext)]
    · intro hplain
      obtain ⟨hline, hlacks⟩ := hplain
      obtain ⟨u, htext, hu⟩ := exists_passes hline h
      exact ⟨u, htext, Uri.fits_generic_iff.2 ⟨hu.fits, hlacks u htext hu⟩⟩

/-- A fragment with a number sign in it is accepted. -/
theorem call_twoFragments : Expr.Library.call Layout.schema (.function .isUri) ⟨[.text "http://a#b#c"], []⟩ =
      pure (.bool true) ∧ "http://a#b#c".toList.count '#' = 2 ∧
    ¬∃ u : Uri, "http://a#b#c".toList = u.text ∧ u.Fits .generic := by
  have haccepted : uri.holds "http://a#b#c".toList = true := by decide +kernel
  have hpart {ds s : List Char} (h : (s.all isUriChar && percentsEscape s && ds.all (!s.contains ·)) = true) :
      IsPart ds s := by
    rw [isPart_iff]
    simpa using h
  have hcut : Uri.Fits .cut ⟨"http".toList, some ⟨none, .name ['a'], none⟩, [], none, some ['b', '#', 'c']⟩ := by
    refine ⟨by decide +kernel, ?_, hpart (by decide +kernel), by simp, ?_, fun _ => .inl rfl, by simp⟩
    · rintro a ⟨⟩
      exact ⟨by simp, hpart (by decide +kernel), by simp⟩
    · rintro s ⟨⟩
      exact hpart (by decide +kernel)
  refine ⟨haccepted ▸ uri.call_eq Layout.schema "http://a#b#c", by decide +kernel, fun hgeneric => ?_⟩
  obtain ⟨u, htext, hu⟩ := hgeneric
  obtain ⟨hfits, hlacks⟩ := Uri.fits_generic_iff.1 hu
  have hsame := hfits.text_injective hcut (htext.symm.trans (by decide +kernel))
  subst hsame
  exact hlacks.fragment _ rfl '#' (by decide) (by decide)

end Conformance.Format
