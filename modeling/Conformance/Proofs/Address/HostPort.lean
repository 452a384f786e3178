import Conformance.Proofs.Address.Hostname

/-!
# The grammar of hosts with ports

A port is a number written without superfluous zeros, so it is told by the number alone. Without a bracket in front a
host has no colon, so that the colon before the port is the only one.
-/

namespace Conformance.Address

open Conformance.Text

variable {s : List Char}

/-! ## Numerals -/

theorem decimal_eq_ofDigitChars (s : List Char) : decimal s = Nat.ofDigitChars 10 s 0 := by
  unfold decimal
  rw [Nat.ofDigitChars_eq_foldl]
  simp only [Nat.mul_comm 10]
  rfl

section
variable {c : Char} (h : c.isDigit = true)
include h

theorem digit_bounds : '0'.toNat ≤ c.toNat ∧ c.toNat - '0'.toNat < 10 := by
  obtain ⟨hlow, hhigh⟩ := Char.isDigit_iff_toNat.1 h
  exact ⟨hlow, Nat.lt_succ_of_le (Nat.sub_le_sub_right hhigh _)⟩

theorem digit_pos (hc : c ≠ '0') : 0 < c.toNat - '0'.toNat :=
  Nat.sub_pos_of_lt (Nat.lt_of_le_of_ne (digit_bounds h).1 fun heq => hc (Char.toNat_inj.1 heq.symm))

theorem digitChar_digit : (c.toNat - '0'.toNat).digitChar = c := by
  obtain ⟨hlow, hlt⟩ := digit_bounds h
  apply Char.toNat_inj.1
  rw [Nat.toNat_digitChar_of_lt_ten hlt]
  exact Nat.add_sub_cancel' hlow

end

/-- Reading on from a number writes the digits read behind those of the number. -/
theorem toDigits_ofDigitChars {n : Nat} (hs : ∀ c ∈ s, c.isDigit = true) (hn : 0 < n) :
    Nat.toDigits 10 (Nat.ofDigitChars 10 s n) = Nat.toDigits 10 n ++ s := by
  induction s generalizing n with
  | nil => simp
  | cons c s ih =>
    obtain ⟨hc, hs⟩ := List.forall_mem_cons.1 hs
    have hlt := (digit_bounds hc).2
    have hstep : Nat.toDigits 10 (10 * n + (c.toNat - '0'.toNat)) = Nat.toDigits 10 n ++ [c] := by
      rw [← Nat.toDigits_append_toDigits (by decide) hn hlt, Nat.toDigits_of_lt_base hlt, digitChar_digit hc]
    rw [Nat.ofDigitChars_cons, ih hs (by omega), hstep, List.append_assoc]
    rfl

theorem head?_toDigits {n : Nat} (hn : n ≠ 0) : (Nat.toDigits 10 n).head? ≠ some '0' := by
  -- The first digit of a number with several digits is that of its tenth.
  induction n using Nat.strongRecOn with
  | ind n ih =>
    rw [Nat.toDigits_eq_if (by decide)]
    split
    · next hlt =>
      intro h
      rw [List.head?_singleton, Option.some.injEq, Nat.digitChar_eq_zero] at h
      exact hn h
    · next hle =>
      have hne : Nat.toDigits 10 (n / 10) ≠ [] := Nat.toDigits_ne_nil
      rw [List.head?_append_of_ne_nil _ hne]
      exact ih (n / 10) (by omega) (by omega)

/-- A numeral without superfluous zeros is what is written for its value. -/
theorem toDigits_decimal (h : isNumeral s = true) (hzero : s = ['0'] ∨ s.head? ≠ some '0') :
    Nat.toDigits 10 (decimal s) = s := by
  rw [decimal_eq_ofDigitChars]
  cases hzero with
  | inl hzero =>
    subst hzero
    rfl
  | inr hzero =>
    obtain ⟨hne, hdigits⟩ := isNumeral_iff.1 h
    cases s with
    | nil => exact absurd rfl hne
    | cons c s =>
      obtain ⟨hc, hs⟩ := List.forall_mem_cons.1 hdigits
      have hpos := digit_pos hc fun heq => hzero (by rw [heq]; rfl)
      rw [Nat.ofDigitChars_cons, Nat.mul_zero, Nat.zero_add, toDigits_ofDigitChars hs hpos,
        Nat.toDigits_of_lt_base (digit_bounds hc).2, digitChar_digit hc]
      rfl

theorem isNumeral_toDigits (n : Nat) : isNumeral (Nat.toDigits 10 n) = true :=
  isNumeral_iff.2 ⟨Nat.toDigits_ne_nil, fun _ hc => Nat.isDigit_of_mem_toDigits (by decide) (by decide) hc⟩

theorem decimal_toDigits (n : Nat) : decimal (Nat.toDigits 10 n) = n := by
  rw [decimal_eq_ofDigitChars, Nat.ofDigitChars_ten_toDigits]

/-! ## Ports -/

theorem isPortNumeral_iff :
    (isPortNumeral s && decide (decimal s ≤ 65535)) = true ↔ ∃ n ≤ 65535, s = Nat.toDigits 10 n := by
  simp only [isPortNumeral, Bool.and_eq_true, Bool.or_eq_true, decide_eq_true_eq, beq_iff_eq, bne_iff_ne]
  constructor
  · intro h
    obtain ⟨⟨⟨hnumeral, -⟩, hzero⟩, hle⟩ := h
    exact ⟨decimal s, hle, (toDigits_decimal hnumeral hzero).symm⟩
  · intro h
    obtain ⟨n, hn, rfl⟩ := h
    have hlength : (Nat.toDigits 10 n).length ≤ 5 := (Nat.length_toDigits_le_iff (by decide) (by decide)).2 (by omega)
    refine ⟨⟨⟨isNumeral_toDigits n, hlength⟩, ?_⟩, by rwa [decimal_toDigits]⟩
    by_cases hzero : n = 0
    · subst hzero
      exact .inl rfl
    · exact .inr (head?_toDigits hzero)

theorem isPort_iff_exists (hs : '\n' ∉ s) : isPort s = true ↔ ∃ n ≤ 65535, s = Nat.toDigits 10 n := by
  rw [isPort, holdsOfLine_of_notMem hs, isPortNumeral_iff]

/-! ## Hosts -/

theorem holds_ip (v : Version) : (Format.ip (some (.int v.number))).holds s = isIp v s := by
  unfold Format.holds isIp
  cases Ip.ofText? s with
  | none => rfl
  | some ip =>
    obtain ⟨version, value⟩ := ip
    cases v <;> cases version <;> rfl

/-- A host is a host name, a version 4 address, or a version 6 address in brackets without a closing bracket in it. -/
inductive IsHost : List Char → Prop
  | name {s : List Char} (h : Format.hostname.holds s = true) : IsHost s
  | v4 {s : List Char} (h : (Format.ip (some (.int 4))).holds s = true) : IsHost s
  | v6 {a : List Char} (h : (Format.ip (some (.int 6))).holds a = true) (ha : ']' ∉ a) : IsHost ('[' :: (a ++ [']']))

theorem LooseHost.isHost (h : LooseHost s) : IsHost s := by
  cases h with
  | name h => exact .name (isHostname_iff.2 h)
  | v4 h => exact .v4 ((holds_ip .v4).trans h)
  | v6 h _ ha => exact .v6 ((holds_ip .v6).trans h) ha

theorem IsHost.looseHost (h : IsHost s) : LooseHost s := by
  cases h with
  | name h => exact .name (isHostname_iff.1 h)
  | v4 h =>
    have hip := (holds_ip .v4).symm.trans h
    exact .v4 hip (isIp_v4 hip).1
  | v6 h ha =>
    have hip := (holds_ip .v6).symm.trans h
    exact .v6 hip (fun hline => (isIp_iff_isZoned hline).1 hip) ha

/-- Outside of brackets a host has no colon. -/
theorem IsHost.bracketed_or_notMem (h : IsHost s) : s.head? = some '[' ∨ ':' ∉ s := by
  cases h with
  | name h => exact .inr (not_mem_hostname h).1
  | v4 h => exact .inr (isIp_v4 ((holds_ip .v4).symm.trans h)).2.1
  | v6 => exact .inl rfl

/-! ## Hosts with ports -/

/-- A host, with a colon and a port after it or, unless a port is required, without. -/
def IsHostAndPort (required : Bool) (s : List Char) : Prop :=
  ∃ host, IsHost host ∧ (required = false ∧ s = host ∨ ∃ n ≤ 65535, s = host ++ ':' :: Nat.toDigits 10 n)

theorem isHostAndPort_iff_grammar {required : Bool} (hs : '\n' ∉ s) :
    isHostAndPort required s = true ↔ IsHostAndPort required s := by
  rw [isHostAndPort_iff]
  constructor
  · intro h
    obtain ⟨host, rest, rfl, hhost, hrest⟩ := h
    refine ⟨host, hhost.isHost, ?_⟩
    obtain ⟨rfl, hrequired⟩ | ⟨port, rfl, hport⟩ := loosePort_iff.1 hrest
    · exact .inl ⟨hrequired, List.append_nil host⟩
    · have hline : '\n' ∉ port := fun hmem => hs (List.mem_append_right _ (List.mem_cons_of_mem _ hmem))
      obtain ⟨n, hn, rfl⟩ := (isPort_iff_exists hline).1 hport
      exact .inr ⟨n, hn, rfl⟩
  · intro h
    obtain ⟨host, hhost, ⟨hrequired, rfl⟩ | ⟨n, hn, rfl⟩⟩ := h
    · exact ⟨_, [], (List.append_nil _).symm, hhost.looseHost, .missing hrequired⟩
    · have hline : '\n' ∉ Nat.toDigits 10 n := fun hmem => hs (List.mem_append_right _ (List.mem_cons_of_mem _ hmem))
      exact ⟨host, _, rfl, hhost.looseHost, loosePort_iff.2 (.inr ⟨_, rfl, (isPort_iff_exists hline).2 ⟨n, hn, rfl⟩⟩)⟩

theorem IsHostAndPort.optional {required : Bool} (h : IsHostAndPort required s) : IsHostAndPort false s := by
  obtain ⟨host, hhost, ⟨-, hs⟩ | hs⟩ := h
  · exact ⟨host, hhost, .inl ⟨rfl, hs⟩⟩
  · exact ⟨host, hhost, .inr hs⟩

/-- Without a bracket in front there is at most the colon before the port. -/
theorem IsHostAndPort.count_le_one {required : Bool} (h : IsHostAndPort required s) (hs : s.head? ≠ some '[') :
    s.count ':' ≤ 1 := by
  obtain ⟨host, hhost, ⟨-, rfl⟩ | ⟨n, -, rfl⟩⟩ := h
  · have hcolon := hhost.bracketed_or_notMem.resolve_left hs
    rw [List.count_eq_zero.2 hcolon]
    exact Nat.zero_le 1
  · have hport : ':' ∉ Nat.toDigits 10 n := (not_mem_numeral (isNumeral_toDigits n)).2.1
    have hhead : host.head? ≠ some '[' := by
      intro hhead
      apply hs
      rw [List.head?_append, hhead]
      rfl
    have hcolon := hhost.bracketed_or_notMem.resolve_left hhead
    rw [List.count_append, List.count_cons_self, List.count_eq_zero.2 hcolon, List.count_eq_zero.2 hport]

theorem exists_v6_prefix (h : isIp .v6 s = true) : ∃ a z n, s = a ++ z ∧ v6? a = some n := by
  obtain ⟨-, n, hn⟩ := isIp_v6_iff.1 h
  obtain ⟨-, ⟨-, h⟩ | ⟨a, z, rfl, h, -⟩⟩ := zoned?_eq_some.1 hn
  · exact ⟨s, [], n, (List.append_nil s).symm, h⟩
  · exact ⟨a, _, n, rfl, h⟩

theorem not_isHostAndPort_of_v6 {required : Bool} (h : isIp .v6 s = true) : ¬ IsHostAndPort required s := by
  intro hport
  -- The zone may have brackets and colons in it, the part in front of it has no bracket and more colons than one.
  obtain ⟨a, z, n, rfl, hv6⟩ := exists_v6_prefix h
  have hhead : (a ++ z).head? ≠ some '[' := by
    rw [List.head?_append_of_ne_nil _ (List.ne_nil_of_mem (mem_v6 hv6))]
    exact fun hbracket => (not_mem_v6 hv6).2 (List.mem_of_head? hbracket)
  have hcount := hport.count_le_one hhead
  have htwo := two_le_count_v6 hv6
  rw [List.count_append] at hcount
  omega

end Conformance.Address

namespace Conformance.Format

open Address

/-- The check of hosts with ports gives whether a text belongs to the grammar, whether a port is required or not. It
finds no bare version 6 address, and nothing with a required port that it does not find with an optional one. -/
theorem hostAndPort_grammar {t : String} (ht : '\n' ∉ t.toList) (s : Schema) :
    (∃ accepts : Bool → Bool,
      (∀ required, Expr.Library.call s (.function .isHostAndPort) ⟨[.text t, .bool required], []⟩ =
        pure (.bool (accepts required))) ∧
      (∀ required, accepts required = true ↔ ∃ host, IsHost host ∧
        (required = false ∧ t.toList = host ∨ ∃ n ≤ 65535, t.toList = host ++ ':' :: Nat.toDigits 10 n)) ∧
      ((Format.ip (some (.int 6))).holds t.toList = true → ∀ required, accepts required = false) ∧
      (accepts true = true → accepts false = true)) ∧
    ∃ p, Pattern.ofText portForm = .ok p ∧
      ∀ port, '\n' ∉ port → (p.occursIn port = true ∧ decimal port ≤ 65535 ↔ ∃ n ≤ 65535, port = Nat.toDigits 10 n) := by
  constructor
  · refine ⟨(isHostAndPort · t.toList), fun required => (hostAndPort (some (.bool required))).call_eq s t,
      fun required => isHostAndPort_iff_grammar ht, fun hip required => ?_, fun h => ?_⟩
    · rw [← Bool.not_eq_true, isHostAndPort_iff_grammar ht]
      exact not_isHostAndPort_of_v6 ((holds_ip .v6).symm.trans hip)
    · exact (isHostAndPort_iff_grammar ht).2 ((isHostAndPort_iff_grammar ht).1 h).optional
  · obtain ⟨p, hp, hfinds⟩ := exists_portPattern
    refine ⟨p, hp, fun port hline => ?_⟩
    rw [hfinds, holdsOfLine_of_notMem hline, ← isPortNumeral_iff, Bool.and_eq_true, decide_eq_true_eq]

/-- An address of version 6 in brackets with a port, which does as a required and as an optional one. -/
theorem hostAndPort_grammar_of_v6 : '\n' ∉ "[fe80::1]:443".toList ∧ ∀ required : Bool,
    Expr.Library.call Layout.schema (.function .isHostAndPort) ⟨[.text "[fe80::1]:443", .bool required], []⟩ =
      pure (.bool true) := by
  have hline : '\n' ∉ "[fe80::1]:443".toList := by decide +kernel
  obtain ⟨⟨accepts, hcall, haccepts, -⟩, -⟩ := hostAndPort_grammar hline Layout.schema
  refine ⟨hline, fun required => ?_⟩
  have hhost : IsHost ('[' :: ("fe80::1".toList ++ [']'])) := .v6 (by decide +kernel) (by decide +kernel)
  have htrue : accepts required = true := (haccepts required).2 ⟨_, hhost, .inr ⟨443, by decide, by decide +kernel⟩⟩
  rw [hcall, htrue]

end Conformance.Format
