import Conformance.Proofs.Address.Hostname

/-!
# Components of URIs

A URI is made of a scheme, an authority, a path, a query and a fragment, and an authority of user information, a host and
a port. What delimits a component does not occur in it, so that a text is cut into components in one way. The generic
syntax of RFC 3986 is told component by component: by the reserved characters that each of them does without.
-/

namespace Conformance.Address

open Conformance.Text

variable {c : Char} {a b s : List Char}

/-! ## Characters and escapes -/

def isUnreserved (c : Char) : Bool := isAsciiAlphanumeric c || ['-', '.', '_', '~'].contains c

/-- The delimiters of the generic syntax, and those that schemes may use inside of components. -/
def reserved : List Char :=
  [':', '/', '?', '#', '[', ']', '@', '!', '$', '&', '\'', '(', ')', '*', '+', ',', ';', '=']

theorem isUriChar_iff : isUriChar c = true ↔ isUnreserved c = true ∨ c ∈ reserved ∨ c = '%' := by
  have hmarks : "-._~!$&'()*+,;=:@/?#[]%".toList = ['-', '.', '_', '~'] ++ ['!', '$', '&', '\'', '(', ')', '*', '+', ',',
      ';', '='] ++ [':', '@', '/', '?', '#', '[', ']'] ++ ['%'] := by decide +kernel
  rw [isUriChar, isUnreserved, hmarks]
  simp only [Bool.or_eq_true, List.contains_iff_mem, reserved, List.mem_append, List.mem_cons, List.not_mem_nil]
  grind

/-- What a percent sign is followed by in an escape. -/
def HexPair (s : List Char) : Prop := ∃ x y rest, s = x :: y :: rest ∧ isHexDigit x = true ∧ isHexDigit y = true

theorem percentsEscape_percent : percentsEscape ('%' :: s) = true ↔ HexPair s ∧ percentsEscape s = true := by
  match s with
  | [] => simp [percentsEscape, HexPair]
  | [x] =>
    have hcut : percentsEscape ['%', x] = false := rfl
    simp [hcut, HexPair]
  | x :: y :: rest =>
    rw [percentsEscape_digits]
    simp [HexPair, and_assoc]

theorem percentsEscape_cons (hc : c ≠ '%') : percentsEscape (c :: s) = percentsEscape s := by
  rw [percentsEscape]
  exact hc

/-- Each percent sign begins an escape. -/
theorem percentsEscape_iff : percentsEscape s = true ↔ ∀ a b, s = a ++ '%' :: b → HexPair b := by
  induction s with
  | nil => simp [percentsEscape]
  | cons c s ih =>
    have hcons : (∀ a b, c :: s = a ++ '%' :: b → HexPair b) ↔
        (c = '%' → HexPair s) ∧ ∀ a b, s = a ++ '%' :: b → HexPair b := by
      constructor
      · intro h
        exact ⟨fun hc => h [] s (by rw [hc]; rfl), fun a b hs => h (c :: a) b (by rw [hs]; rfl)⟩
      · intro h a b hs
        obtain ⟨-, heq⟩ | ⟨a, rfl, heq⟩ := List.cons_eq_append_iff.1 hs
        · cases heq
          exact h.1 rfl
        · exact h.2 a b heq
    rw [hcons, ← ih]
    by_cases hc : c = '%'
    · subst hc
      rw [percentsEscape_percent]
      simp
    · rw [percentsEscape_cons hc]
      simp [hc]

theorem hexPair_append (hc : isHexDigit c = false) : HexPair (a ++ c :: b) ↔ HexPair a := by
  match a with
  | [] => cases b <;> simp [HexPair, hc]
  | [x] => simp [HexPair, hc]
  | x :: y :: rest => simp [HexPair]

/-- Escapes do not reach over a character that is neither a percent sign nor a digit. -/
theorem percentsEscape_append (hc : isHexDigit c = false) (hpercent : c ≠ '%') :
    percentsEscape (a ++ c :: b) = true ↔ percentsEscape a = true ∧ percentsEscape b = true := by
  induction a with
  | nil => simp [percentsEscape_cons hpercent, percentsEscape]
  | cons d a ih =>
    rw [List.cons_append]
    by_cases hd : d = '%'
    · subst hd
      rw [percentsEscape_percent, percentsEscape_percent, hexPair_append hc, ih, and_assoc]
    · rw [percentsEscape_cons hd, percentsEscape_cons hd, ih]

/-! ## Parts -/

/-- A text of the characters of URIs with proper escapes, without some of the reserved characters. -/
structure IsPart (without : List Char) (s : List Char) : Prop where
  chars : ∀ c ∈ s, isUnreserved c = true ∨ c ∈ reserved ∨ c = '%'
  escapes : ∀ a b, s = a ++ '%' :: b → HexPair b
  without : ∀ c ∈ without, c ∉ s

variable {without : List Char}

theorem isPart_iff : IsPart without s ↔ (s.all isUriChar = true ∧ percentsEscape s = true) ∧ ∀ c ∈ without, c ∉ s := by
  simp only [List.all_eq_true, isUriChar_iff, percentsEscape_iff]
  exact ⟨fun h => ⟨⟨h.chars, h.escapes⟩, h.without⟩, fun h => ⟨h.1.1, h.1.2, h.2⟩⟩

theorem IsPart.mono {fewer : List Char} (h : IsPart without s) (hsub : ∀ c ∈ fewer, c ∈ without) : IsPart fewer s :=
  ⟨h.chars, h.escapes, fun c hc => h.without c (hsub c hc)⟩

theorem reserved_not_hex (hc : c ∈ reserved) : isHexDigit c = false ∧ c ≠ '%' ∧ isUriChar c = true := by
  have hall : reserved.all (fun c => !isHexDigit c && c != '%' && isUriChar c) = true := by decide +kernel
  have h := List.all_eq_true.1 hall c hc
  simpa [and_assoc] using h

theorem isPart_append (hc : c ∈ reserved) (hwithout : c ∉ without) :
    IsPart without (a ++ c :: b) ↔ IsPart without a ∧ IsPart without b := by
  obtain ⟨hhex, hpercent, hchar⟩ := reserved_not_hex hc
  have hfree : (∀ d ∈ without, d ∉ a ++ c :: b) ↔ (∀ d ∈ without, d ∉ a) ∧ ∀ d ∈ without, d ∉ b := by
    rw [← forall₂_and]
    refine forall₂_congr fun d hd => ?_
    have hne : d ≠ c := fun heq => hwithout (heq ▸ hd)
    simp [hne]
  rw [isPart_iff, isPart_iff, isPart_iff, percentsEscape_append hhex hpercent, hfree, List.all_append, List.all_cons, hchar,
    Bool.true_and, Bool.and_eq_true]
  tauto

theorem isPart_nil : IsPart without [] := isPart_iff.2 ⟨⟨rfl, rfl⟩, fun _ _ => List.not_mem_nil⟩

theorem isPart_cons (hc : c ∈ reserved) (hwithout : c ∉ without) : IsPart without (c :: s) ↔ IsPart without s :=
  (isPart_append (a := []) hc hwithout).trans (and_iff_right isPart_nil)

theorem isPart_without_cons : IsPart (c :: without) s ↔ IsPart without s ∧ c ∉ s := by
  rw [isPart_iff, isPart_iff, List.forall_mem_cons, and_comm (a := c ∉ s)]
  exact and_assoc.symm

theorem not_mem_digits {x : Char} (hx : x.isDigit = false) (h : ∀ c ∈ s, c.isDigit = true) : x ∉ s := by
  intro hmem
  rw [h x hmem] at hx
  cases hx

theorem isPart_digits (h : ∀ c ∈ s, c.isDigit = true) (hwithout : ∀ c ∈ without, c.isDigit = false) :
    IsPart without s := by
  refine ⟨fun c hc => .inl ?_, fun a b hs => ?_, fun c hc => not_mem_digits (hwithout c hc) h⟩
  · rw [isUnreserved, isAsciiAlphanumeric, isAsciiDigit_eq, h c hc, Bool.or_true, Bool.true_or]
  · exact absurd (hs ▸ List.mem_append_right a List.mem_cons_self) (not_mem_digits (by decide) h)

/-- What a character leads, or nothing. -/
def led (c : Char) (part : Option (List Char)) : List Char := part.elim [] (c :: ·)

theorem isPart_append_led {part : Option (List Char)} (hc : c ∈ reserved) (hwithout : c ∉ without) :
    IsPart without (a ++ led c part) ↔ IsPart without a ∧ ∀ b ∈ part, IsPart without b := by
  cases part with
  | none => simp [led]
  | some b => simp [led, isPart_append hc hwithout]

/-- At its first occurrence a character cuts what it leads off. -/
theorem exists_led (c : Char) (s : List Char) : ∃ a part, s = a ++ led c part ∧ c ∉ a := by
  by_cases hc : c ∈ s
  · obtain ⟨a, b, rfl, ha⟩ := List.eq_append_cons_of_mem hc
    exact ⟨a, some b, rfl, ha⟩
  · exact ⟨s, none, (List.append_nil s).symm, hc⟩

theorem splitFirst_led {part : Option (List Char)} (h : c ∉ a) : splitFirst c (a ++ led c part) = part.map (a, ·) := by
  cases part with
  | none => rw [led, Option.elim_none, List.append_nil, splitFirst_eq_none.2 h]; rfl
  | some b => exact splitFirst_append h

theorem led_injective {p q : Option (List Char)} (ha : c ∉ a) (hb : c ∉ b) (h : a ++ led c p = b ++ led c q) :
    a = b ∧ p = q := by
  have hsplit := congrArg (splitFirst c) h
  rw [splitFirst_led ha, splitFirst_led hb] at hsplit
  cases p with
  | none =>
    cases q with
    | none => exact ⟨List.append_cancel_right h, rfl⟩
    | some y => cases hsplit
  | some x =>
    cases q with
    | none => cases hsplit
    | some y =>
      cases hsplit
      exact ⟨rfl, rfl⟩

/-! ## Components -/

inductive UriHost where
  | literal (address : List Char)
  | name (name : List Char)
  deriving DecidableEq

structure Authority where
  user : Option (List Char)
  host : UriHost
  port : Option (List Char)
  deriving DecidableEq

structure Uri where
  scheme : List Char
  authority : Option Authority
  path : List Char
  query : Option (List Char)
  fragment : Option (List Char)
  deriving DecidableEq

def UriHost.text : UriHost → List Char
  | literal a => '[' :: (a ++ [']'])
  | name n => n

namespace Authority

def hostPort (a : Authority) : List Char := a.host.text ++ led ':' a.port

def text (a : Authority) : List Char := a.user.elim a.hostPort (· ++ '@' :: a.hostPort)

end Authority

namespace Uri

/-- The path with what comes after it. -/
def target (u : Uri) : List Char := (u.path ++ led '?' u.query) ++ led '#' u.fragment

/-- What comes after the scheme and its colon. -/
def rest (u : Uri) : List Char := u.authority.elim u.target fun a => '/' :: '/' :: (a.text ++ u.target)

def text (u : Uri) : List Char := u.scheme ++ ':' :: u.rest

end Uri

/-- Reserved characters, given for each component. -/
structure Delimiters where
  user : List Char
  literal : List Char
  path : List Char
  query : List Char
  fragment : List Char

namespace Delimiters

/-- Those that the components of the generic syntax do without. -/
def generic : Delimiters where
  user := ['/', '?', '#', '@', '[', ']']
  literal := [']', '@', '/', '?', '#', '[']
  path := ['?', '#', '[', ']']
  query := ['#', '[', ']']
  fragment := ['#', '[', ']']

/-- Those at which a text is cut into components. -/
def cut : Delimiters where
  user := ['/', '?', '#']
  literal := [']', '@', '/', '?', '#']
  path := ['?', '#']
  query := ['#']
  fragment := []

/-- Those of the generic syntax at which a text is not cut. -/
def surplus : Delimiters where
  user := ['@', '[', ']']
  literal := ['[']
  path := ['[', ']']
  query := ['[', ']']
  fragment := ['#', '[', ']']

def append (d e : Delimiters) : Delimiters where
  user := d.user ++ e.user
  literal := d.literal ++ e.literal
  path := d.path ++ e.path
  query := d.query ++ e.query
  fragment := d.fragment ++ e.fragment

theorem generic_eq : generic = cut.append surplus := rfl

end Delimiters

variable {d e : Delimiters}

namespace UriHost

/-- An address of version 6 in brackets, or a text without any delimiter of the syntax. -/
def Fits (d : Delimiters) : UriHost → Prop
  | literal a => isIp .v6 a = true ∧ IsPart d.literal a
  | name n => IsPart ['[', ']', ':', '@', '/', '?', '#'] n

def Lacks (d : Delimiters) : UriHost → Prop
  | literal a => ∀ c ∈ d.literal, c ∉ a
  | name _ => True

end UriHost

namespace Authority

structure Fits (d : Delimiters) (a : Authority) : Prop where
  user : ∀ s ∈ a.user, IsPart d.user s
  host : a.host.Fits d
  port : ∀ s ∈ a.port, ∀ c ∈ s, c.isDigit = true

structure Lacks (d : Delimiters) (a : Authority) : Prop where
  user : ∀ s ∈ a.user, ∀ c ∈ d.user, c ∉ s
  host : a.host.Lacks d

end Authority

namespace Uri

/-- The components are what the syntax makes them, where each does without its delimiters. After an authority there is no
path or one that begins with a slash, and without an authority the path does not begin with two. -/
structure Fits (d : Delimiters) (u : Uri) : Prop where
  scheme : isScheme u.scheme = true
  authority : ∀ a ∈ u.authority, a.Fits d
  path : IsPart d.path u.path
  query : ∀ s ∈ u.query, IsPart d.query s
  fragment : ∀ s ∈ u.fragment, IsPart d.fragment s
  rooted : u.authority.isSome = true → u.path = [] ∨ u.path.head? = some '/'
  unrooted : u.authority = none → ¬ ['/', '/'] <+: u.path

/-- None of the delimiters occurs in its component. -/
structure Lacks (d : Delimiters) (u : Uri) : Prop where
  authority : ∀ a ∈ u.authority, a.Lacks d
  path : ∀ c ∈ d.path, c ∉ u.path
  query : ∀ s ∈ u.query, ∀ c ∈ d.query, c ∉ s
  fragment : ∀ s ∈ u.fragment, ∀ c ∈ d.fragment, c ∉ s

end Uri

theorem isPart_without_append {fewer more : List Char} :
    IsPart (fewer ++ more) s ↔ IsPart fewer s ∧ ∀ c ∈ more, c ∉ s := by
  rw [isPart_iff, isPart_iff, List.forall_mem_append]
  exact and_assoc.symm

theorem forall_mem_and {α : Type} {o : Option α} {p q r : α → Prop} (h : ∀ x, p x ↔ q x ∧ r x) :
    (∀ x ∈ o, p x) ↔ (∀ x ∈ o, q x) ∧ ∀ x ∈ o, r x := by
  cases o <;> simp [h]

theorem UriHost.fits_append {h : UriHost} : h.Fits (d.append e) ↔ h.Fits d ∧ h.Lacks e := by
  cases h with
  | literal a => exact (and_congr_right fun _ => isPart_without_append).trans and_assoc.symm
  | name n => exact (and_iff_left trivial).symm

theorem Authority.fits_append {a : Authority} : a.Fits (d.append e) ↔ a.Fits d ∧ a.Lacks e := by
  constructor
  · intro h
    obtain ⟨huser, husers⟩ := (forall_mem_and fun _ => isPart_without_append).1 h.user
    obtain ⟨hhost, hhosts⟩ := UriHost.fits_append.1 h.host
    exact ⟨⟨huser, hhost, h.port⟩, ⟨husers, hhosts⟩⟩
  · intro h
    obtain ⟨h, hlacks⟩ := h
    exact ⟨(forall_mem_and fun _ => isPart_without_append).2 ⟨h.user, hlacks.user⟩,
      UriHost.fits_append.2 ⟨h.host, hlacks.host⟩, h.port⟩

theorem Uri.fits_append {u : Uri} : u.Fits (d.append e) ↔ u.Fits d ∧ u.Lacks e := by
  constructor
  · intro h
    obtain ⟨hauthority, hauthorities⟩ := (forall_mem_and fun _ => Authority.fits_append).1 h.authority
    obtain ⟨hpath, hpaths⟩ := isPart_without_append.1 h.path
    obtain ⟨hquery, hqueries⟩ := (forall_mem_and fun _ => isPart_without_append).1 h.query
    obtain ⟨hfragment, hfragments⟩ := (forall_mem_and fun _ => isPart_without_append).1 h.fragment
    exact ⟨⟨h.scheme, hauthority, hpath, hquery, hfragment, h.rooted, h.unrooted⟩,
      ⟨hauthorities, hpaths, hqueries, hfragments⟩⟩
  · intro h
    obtain ⟨h, hlacks⟩ := h
    exact ⟨h.scheme, (forall_mem_and fun _ => Authority.fits_append).2 ⟨h.authority, hlacks.authority⟩,
      isPart_without_append.2 ⟨h.path, hlacks.path⟩,
      (forall_mem_and fun _ => isPart_without_append).2 ⟨h.query, hlacks.query⟩,
      (forall_mem_and fun _ => isPart_without_append).2 ⟨h.fragment, hlacks.fragment⟩, h.rooted, h.unrooted⟩

/-- The components of a cut text are those of the generic syntax if no delimiters are left in them. -/
theorem Uri.fits_generic_iff {u : Uri} : u.Fits .generic ↔ u.Fits .cut ∧ u.Lacks .surplus := by
  rw [Delimiters.generic_eq, fits_append]

/-! ## Cuts -/

theorem UriHost.isPart_text {h : UriHost} (hbrackets : '[' ∉ without ∧ ']' ∉ without) :
    IsPart without h.text ↔ ∀ s, h = .literal s ∨ h = .name s → IsPart without s := by
  cases h with
  | literal a =>
    rw [text, isPart_cons (by decide) hbrackets.1, isPart_append (by decide) hbrackets.2, and_iff_left isPart_nil]
    simp
  | name n => simp [text]

theorem UriHost.Fits.isPart {h : UriHost} (hfits : h.Fits .cut) : IsPart ['@', '/', '?', '#'] h.text := by
  rw [isPart_text (by decide)]
  intro s hs
  cases h with
  | literal a =>
    obtain rfl : a = s := by simpa using hs
    exact (isPart_without_cons.1 hfits.2).1
  | name n =>
    obtain rfl : n = s := by simpa using hs
    exact IsPart.mono hfits (by simp)

theorem Authority.isPart_text {a : Authority} (hat : '@' ∉ without) :
    IsPart without a.text ↔ (∀ s ∈ a.user, IsPart without s) ∧ IsPart without a.hostPort := by
  unfold text
  cases a.user with
  | none => simp
  | some s => simp [isPart_append (c := '@') (by decide) hat]

namespace Authority

variable {a : Authority}

theorem Fits.isPart_hostPort (h : a.Fits .cut) : IsPart ['@', '/', '?', '#'] a.hostPort :=
  (isPart_append_led (by decide) (by decide)).2 ⟨h.host.isPart, fun s hs => isPart_digits (h.port s hs) (by simp)⟩

theorem Fits.isPart (h : a.Fits .cut) : IsPart ['/', '?', '#'] a.text :=
  (isPart_text (by decide)).2 ⟨h.user, (isPart_without_cons.1 h.isPart_hostPort).1⟩

theorem Fits.splitLast_text (h : a.Fits .cut) : splitLast '@' a.text = a.user.map (·, a.hostPort) := by
  have hat := h.isPart_hostPort.without '@' (by simp)
  cases huser : a.user with
  | none => rw [text, huser]; exact splitLast_eq_none.2 hat
  | some s => rw [text, huser]; exact splitLast_append hat

end Authority

theorem UriHost.Fits.head_ne {h : UriHost} {n : List Char} (hh : h = .name n) (hfits : h.Fits .cut)
    (part : Option (List Char)) : (h.text ++ led ':' part).head? ≠ some '[' := by
  subst hh
  have hfree := IsPart.without hfits '[' (by simp)
  intro hhead
  cases n with
  | nil => cases part <;> cases hhead
  | cons c n =>
    cases hhead
    exact hfree List.mem_cons_self

theorem UriHost.Fits.text_injective {h k : UriHost} {p q : Option (List Char)} (hh : h.Fits .cut) (hk : k.Fits .cut)
    (heq : h.text ++ led ':' p = k.text ++ led ':' q) : h = k ∧ p = q := by
  cases h with
  | literal a =>
    cases k with
    | literal b =>
      have hsplit : splitFirst ']' (a ++ ']' :: led ':' p) = splitFirst ']' (b ++ ']' :: led ':' q) := by
        simp only [text, List.cons_append, List.append_assoc, List.nil_append, List.cons.injEq, true_and] at heq
        rw [heq]
      rw [splitFirst_append (hh.2.without ']' (by simp [Delimiters.cut])),
        splitFirst_append (hk.2.without ']' (by simp [Delimiters.cut])), Option.some.injEq, Prod.mk.injEq] at hsplit
      obtain ⟨rfl, hport⟩ := hsplit
      exact ⟨rfl, (led_injective List.not_mem_nil List.not_mem_nil hport).2⟩
    | name n => exact absurd (heq ▸ rfl) (hk.head_ne rfl q)
  | name m =>
    cases k with
    | literal b => exact absurd (heq ▸ rfl) (hh.head_ne rfl p)
    | name n =>
      obtain ⟨rfl, hport⟩ := led_injective (IsPart.without hh ':' (by simp)) (IsPart.without hk ':' (by simp)) heq
      exact ⟨rfl, hport⟩

theorem Authority.Fits.text_injective {a b : Authority} (ha : a.Fits .cut) (hb : b.Fits .cut) (h : a.text = b.text) :
    a = b := by
  have hsplit := ha.splitLast_text.symm.trans ((congrArg (splitLast '@') h).trans hb.splitLast_text)
  have hparts : a.user = b.user ∧ a.hostPort = b.hostPort := by
    cases hu : a.user with
    | none =>
      cases hv : b.user with
      | none => exact ⟨rfl, by simpa [text, hu, hv] using h⟩
      | some t => simp [hu, hv] at hsplit
    | some s =>
      cases hv : b.user with
      | none => simp [hu, hv] at hsplit
      | some t => simpa [hu, hv] using hsplit
  obtain ⟨hhost, hport⟩ := ha.host.text_injective hb.host hparts.2
  obtain ⟨u, host, port⟩ := a
  obtain ⟨v, host', port'⟩ := b
  cases hparts.1
  cases hhost
  cases hport
  rfl

theorem firstSegment_append (ha : ∀ c ∈ ['/', '?', '#'], c ∉ a)
    (hb : b = [] ∨ ∃ c ∈ ['/', '?', '#'], ∃ rest, b = c :: rest) : firstSegment (a ++ b) = a := by
  simp only [List.forall_mem_cons] at ha
  have hpos : ∀ c ∈ a, (!(c == '/' || c == '?' || c == '#')) = true := by
    intro c hc
    simp only [Bool.not_eq_true', Bool.or_eq_false_iff, beq_eq_false_iff_ne]
    exact ⟨⟨fun h => ha.1 (h ▸ hc), fun h => ha.2.1 (h ▸ hc)⟩, fun h => ha.2.2.1 (h ▸ hc)⟩
  rw [firstSegment, List.takeWhile_append_of_pos hpos]
  obtain rfl | ⟨c, hc, rest, rfl⟩ := hb
  · exact List.append_nil a
  · have hstop : (!(c == '/' || c == '?' || c == '#')) = false := by
      simp only [List.mem_cons, List.not_mem_nil, or_false] at hc
      obtain rfl | rfl | rfl := hc <;> rfl
    rw [List.takeWhile_cons_of_neg (by rw [hstop]; decide), List.append_nil]

namespace Uri

variable {u w : Uri}

/-- What comes after a path is led by a question mark or a number sign. -/
theorem tail_start (u : Uri) : led '?' u.query ++ led '#' u.fragment = [] ∨
    ∃ c ∈ ['/', '?', '#'], c ≠ '/' ∧ ∃ rest, led '?' u.query ++ led '#' u.fragment = c :: rest := by
  cases u.query with
  | none =>
    cases u.fragment with
    | none => exact .inl rfl
    | some f => exact .inr ⟨'#', by simp, by decide, f, rfl⟩
  | some q => exact .inr ⟨'?', by simp, by decide, _, rfl⟩

theorem target_eq (u : Uri) : u.target = u.path ++ (led '?' u.query ++ led '#' u.fragment) := List.append_assoc ..

/-- After an authority comes a slash, a question mark or a number sign, if anything. -/
theorem Fits.target_start (h : u.Fits d) (hsome : u.authority.isSome = true) :
    u.target = [] ∨ ∃ c ∈ ['/', '?', '#'], ∃ rest, u.target = c :: rest := by
  rw [target_eq]
  obtain hpath | hpath := h.rooted hsome
  · rw [hpath]
    obtain htail | ⟨c, hc, -, hrest⟩ := u.tail_start
    · exact .inl htail
    · exact .inr ⟨c, hc, hrest⟩
  · obtain ⟨p, hp⟩ := List.head?_eq_some_iff.1 hpath
    exact .inr ⟨'/', by simp, p ++ (led '?' u.query ++ led '#' u.fragment), by rw [hp]; rfl⟩

theorem Fits.firstSegment_text {a : Authority} (h : u.Fits .cut) (ha : u.authority = some a) :
    firstSegment (a.text ++ u.target) = a.text :=
  firstSegment_append (h.authority a ha).isPart.without (h.target_start (by rw [ha]; rfl))

/-- Without an authority there are no two slashes after the scheme. -/
theorem Fits.not_slashes (h : u.Fits d) (hnone : u.authority = none) (r : List Char) : u.target ≠ '/' :: '/' :: r := by
  rw [target_eq]
  intro heq
  have hpath := h.unrooted hnone
  obtain htail | ⟨c, -, hc, rest, htail⟩ := u.tail_start
  · rw [htail, List.append_nil] at heq
    exact hpath ⟨r, heq.symm⟩
  · rw [htail] at heq
    match hp : u.path with
    | [] =>
      rw [hp] at heq
      cases heq
      exact hc rfl
    | [x] =>
      rw [hp] at heq
      cases heq
      exact hc rfl
    | x :: y :: p =>
      rw [hp] at heq hpath
      cases heq
      exact hpath ⟨p, rfl⟩

theorem Fits.target_injective (hu : u.Fits .cut) (hw : w.Fits .cut) (h : u.target = w.target) :
    u.path = w.path ∧ u.query = w.query ∧ u.fragment = w.fragment := by
  have hhash {v : Uri} (hv : v.Fits .cut) : '#' ∉ v.path ++ led '?' v.query :=
    ((isPart_append_led (by decide) (by decide)).2 ⟨hv.path.mono (by simp [Delimiters.cut]), hv.query⟩).without '#'
      (by simp [Delimiters.cut])
  have hmark {v : Uri} (hv : v.Fits .cut) : '?' ∉ v.path := hv.path.without _ (by simp [Delimiters.cut])
  obtain ⟨hpath, hfragment⟩ := led_injective (hhash hu) (hhash hw) h
  obtain ⟨hpath, hquery⟩ := led_injective (hmark hu) (hmark hw) hpath
  exact ⟨hpath, hquery, hfragment⟩

theorem Fits.rest_injective (hu : u.Fits .cut) (hw : w.Fits .cut) (h : u.rest = w.rest) :
    u.authority = w.authority ∧ u.target = w.target := by
  cases ha : u.authority with
  | none =>
    cases hb : w.authority with
    | none => exact ⟨rfl, by simpa [rest, ha, hb] using h⟩
    | some b =>
      rw [rest, rest, ha, hb] at h
      exact absurd h (hu.not_slashes ha _)
  | some a =>
    cases hb : w.authority with
    | none =>
      rw [rest, rest, ha, hb] at h
      exact absurd h.symm (hw.not_slashes hb _)
    | some b =>
      have htext : a.text ++ u.target = b.text ++ w.target := by simpa [rest, ha, hb] using h
      have hauthority : a.text = b.text := by
        rw [← hu.firstSegment_text ha, htext, hw.firstSegment_text hb]
      rw [hauthority] at htext
      rw [(hu.authority a ha).text_injective (hw.authority b hb) hauthority]
      exact ⟨rfl, List.append_cancel_left htext⟩

theorem Fits.scheme_notMem (h : u.Fits d) : ':' ∉ u.scheme := (not_mem_scheme h.scheme).2

/-- A text is cut in one way. -/
theorem Fits.text_injective (hu : u.Fits .cut) (hw : w.Fits .cut) (h : u.text = w.text) : u = w := by
  have hsplit := congrArg (splitFirst ':') h
  rw [text, text, splitFirst_append hu.scheme_notMem, splitFirst_append hw.scheme_notMem, Option.some.injEq,
    Prod.mk.injEq] at hsplit
  obtain ⟨hscheme, hrest⟩ := hsplit
  obtain ⟨hauthority, htarget⟩ := hu.rest_injective hw hrest
  obtain ⟨hpath, hquery, hfragment⟩ := hu.target_injective hw htarget
  cases u
  cases w
  cases hscheme
  cases hauthority
  cases hpath
  cases hquery
  cases hfragment
  rfl

end Uri
end Conformance.Address
