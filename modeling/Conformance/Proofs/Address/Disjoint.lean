import Conformance.Proofs.Address.HostPort

/-!
# Kinds of hosts

A host is a name, a version 4 address or a version 6 address, and never two of them: a version 4 address ends with a
number, as no name does, and a version 6 address has colons. A text with a host and a port is cut into them in one way.
-/

namespace Conformance.Address

open Conformance.Text

variable {s : List Char}

/-! ## Names and addresses -/

theorem octets_of_v4 {n : Nat} (h : v4? s = some n) : ∀ p ∈ cutAtAll ['.'] s, isNumeral p = true := by
  obtain ⟨_, _, _, _, hoctets, -⟩ := v4?_eq_some h
  intro p hp
  obtain ⟨m, hm⟩ := (exists_of_mapM hoctets).1 p hp
  exact (octet?_eq_some hm).1

theorem numeral_ne_nil (h : isNumeral s = true) : s ≠ [] := (isNumeral_iff.1 h).1

/-- An address of version 4 has no point at its end. -/
theorem withoutRoot_of_v4 {n : Nat} (h : v4? s = some n) : withoutRoot s = s := by
  obtain ⟨hne, hjoin, hpieces⟩ := cutAtAll_pieces (c := '.') s
  have hlast := List.getLast?_eq_some_getLast hne
  have hmem := List.getLast_mem hne
  have hend := getLast?_intercalate (d := '.') hlast (numeral_ne_nil (octets_of_v4 h _ hmem))
  rw [hjoin] at hend
  rw [withoutRoot, if_neg]
  intro hdot
  rw [hend, beq_iff_eq] at hdot
  exact hpieces _ hmem (List.mem_of_getLast? hdot)

theorem isHostname_of_v4 {n : Nat} (h : v4? s = some n) : isHostname s = false := by
  have hne := (cutAtAll_pieces (c := '.') s).1
  have hnumeral := octets_of_v4 h _ (List.getLast_mem hne)
  unfold isHostname
  dsimp only
  rw [withoutRoot_of_v4 h, List.getLastD_eq_getLast?, List.getLast?_eq_some_getLast hne, Option.getD_some, hnumeral,
    Bool.not_true, Bool.and_false]

theorem isHostname_of_zoned {n : Nat} (h : zoned? s = some n) : isHostname s = false := by
  rw [← Bool.not_eq_true]
  intro hname
  have hcolon := (not_mem_hostname hname).1
  obtain ⟨-, ⟨-, h⟩ | ⟨a, z, rfl, h, -⟩⟩ := zoned?_eq_some.1 h
  · exact hcolon (mem_v6 h)
  · exact hcolon (List.mem_append_left _ (mem_v6 h))

theorem ofText?_of_isHostname (h : isHostname s = true) : Ip.ofText? s = none := by
  unfold Ip.ofText?
  cases h4 : v4? s with
  | some n => rw [isHostname_of_v4 h4] at h; cases h
  | none =>
    cases h6 : zoned? s with
    | some n => rw [isHostname_of_zoned h6] at h; cases h
    | none => rfl

/-! ## Kinds of hosts -/

/-- The kinds of hosts: names and the addresses of each version. -/
inductive HostKind where
  | name
  | ip (version : Version)
  deriving DecidableEq

namespace HostKind

/-- The check that tells the hosts of a kind. -/
def format : HostKind → Format
  | name => .hostname
  | ip v => .ip (some (.int v.number))

def fits (k : HostKind) (s : List Char) : Bool := k.format.holds s

theorem fits_ip (v : Version) : (ip v).fits s = isIp v s := holds_ip v

theorem isIp_iff {v : Version} : isIp v s = true ↔ ∃ n, Ip.ofText? s = some ⟨v, n⟩ := by
  unfold isIp
  cases Ip.ofText? s with
  | none => simp
  | some a =>
    obtain ⟨w, n⟩ := a
    cases v <;> cases w <;> simp

/-- A host is of one kind only. -/
theorem eq_of_fits {k l : HostKind} (hk : k.fits s = true) (hl : l.fits s = true) : k = l := by
  cases k with
  | name =>
    cases l with
    | name => rfl
    | ip v =>
      obtain ⟨n, hn⟩ := isIp_iff.1 ((fits_ip v).symm.trans hl)
      rw [ofText?_of_isHostname hk] at hn
      cases hn
  | ip v =>
    obtain ⟨n, hn⟩ := isIp_iff.1 ((fits_ip v).symm.trans hk)
    cases l with
    | name =>
      rw [ofText?_of_isHostname hl] at hn
      cases hn
    | ip w =>
      obtain ⟨m, hm⟩ := isIp_iff.1 ((fits_ip w).symm.trans hl)
      rw [hn] at hm
      cases hm
      rfl

theorem isAddress_iff : isAddress s = true ↔ ∃ k : HostKind, k.fits s = true := by
  rw [isAddress, Bool.or_eq_true, Option.isSome_iff_exists]
  constructor
  · rintro (h | ⟨⟨v, n⟩, h⟩)
    · exact ⟨name, h⟩
    · exact ⟨ip v, (fits_ip v).trans (isIp_iff.2 ⟨n, h⟩)⟩
  · rintro ⟨name | v, h⟩
    · exact .inl h
    · obtain ⟨n, hn⟩ := isIp_iff.1 ((fits_ip v).symm.trans h)
      exact .inr ⟨_, hn⟩

/-! ## Hosts before ports -/

/-- How a host is written before a port: an address of version 6 in brackets. -/
def written : HostKind → List Char → List Char
  | ip .v6, s => '[' :: (s ++ [']'])
  | _, s => s

/-- The text is a host of the kind, followed by a port or, unless one is required, by nothing. -/
structure IsCut (required : Bool) (s : List Char) (k : HostKind) (host rest : List Char) : Prop where
  text : s = k.written host ++ rest
  fits : k.fits host = true
  bracket : k = ip .v6 → ']' ∉ host
  port : LoosePort required rest

theorem written_plain {k : HostKind} {host : List Char} (hk : k ≠ ip .v6) : k.written host = host := by
  unfold written
  split
  · exact absurd rfl hk
  · rfl

theorem not_mem_of_fits {k : HostKind} (hk : k ≠ ip .v6) (h : k.fits s = true) : ':' ∉ s ∧ '[' ∉ s := by
  cases k with
  | name => exact not_mem_hostname h
  | ip v =>
    cases v with
    | v4 => exact (isIp_v4 ((fits_ip .v4).symm.trans h)).2
    | v6 => exact absurd rfl hk

theorem exists_isCut_iff {required : Bool} :
    isHostAndPort required s = true ↔ ∃ k host rest, IsCut required s k host rest := by
  rw [isHostAndPort_iff]
  constructor
  · rintro ⟨_, rest, rfl, hname | ⟨hip, -⟩ | ⟨hip, -, ha⟩, hrest⟩
    · exact ⟨name, _, rest, rfl, isHostname_iff.2 hname, by simp, hrest⟩
    · exact ⟨ip .v4, _, rest, rfl, (fits_ip .v4).trans hip, by simp, hrest⟩
    · exact ⟨ip .v6, _, rest, rfl, (fits_ip .v6).trans hip, fun _ => ha, hrest⟩
  · rintro ⟨k, host, rest, rfl, hfits, hbracket, hrest⟩
    refine ⟨_, rest, rfl, ?_, hrest⟩
    cases k with
    | name => exact .name (isHostname_iff.1 hfits)
    | ip v =>
      have hip := (fits_ip v).symm.trans hfits
      cases v with
      | v4 => exact .v4 hip (isIp_v4 hip).1
      | v6 => exact .v6 hip (fun hline => (isIp_iff_isZoned hline).1 hip) (hbracket rfl)

theorem not_mem_loosePort {required : Bool} {rest : List Char} (h : LoosePort required rest) : '[' ∉ rest := by
  rcases loosePort_iff.1 h with ⟨rfl, -⟩ | ⟨port, rfl, hport⟩
  · exact List.not_mem_nil
  · simp [(not_mem_port hport).2]

/-- The brackets tell an address of version 6. -/
theorem IsCut.mem_iff {required : Bool} {k : HostKind} {host rest : List Char} (h : IsCut required s k host rest) :
    '[' ∈ s ↔ k = ip .v6 := by
  constructor
  · intro hmem
    refine Decidable.not_not.1 fun hk => ?_
    rw [h.text, written_plain hk, List.mem_append] at hmem
    exact hmem.elim (not_mem_of_fits hk h.fits).2 (not_mem_loosePort h.port)
  · rintro rfl
    rw [h.text]
    exact List.mem_cons_self

/-- A port begins with the first colon. -/
theorem takeWhile_loosePort {required : Bool} {host rest : List Char} (hhost : ':' ∉ host) (h : LoosePort required rest) :
    (host ++ rest).takeWhile (· != ':') = host := by
  have hpos : ∀ c ∈ host, (c != ':') = true := fun c hc => bne_iff_ne.2 fun heq => hhost (heq ▸ hc)
  rw [List.takeWhile_append_of_pos hpos]
  rcases loosePort_iff.1 h with ⟨rfl, -⟩ | ⟨port, rfl, -⟩
  · exact List.append_nil host
  · exact List.append_nil host

/-- There is one way to cut a text into a host and what follows it. -/
theorem IsCut.unique {required : Bool} {k l : HostKind} {a b u v : List Char} (h : IsCut required s k a u)
    (h' : IsCut required s l b v) : k = l ∧ a = b ∧ u = v := by
  by_cases hk : k = ip .v6
  · have hl := h'.mem_iff.1 (h.mem_iff.2 hk)
    subst hk hl
    -- The first closing bracket is the one after the host.
    have hsplit : splitFirst ']' (a ++ ']' :: u) = splitFirst ']' (b ++ ']' :: v) := by
      have htext := h.text.symm.trans h'.text
      simp only [written, List.cons_append, List.append_assoc, List.nil_append, List.cons.injEq, true_and] at htext
      rw [htext]
    rw [splitFirst_append (h.bracket rfl), splitFirst_append (h'.bracket rfl)] at hsplit
    cases hsplit
    exact ⟨rfl, rfl, rfl⟩
  · have hl : l ≠ ip .v6 := fun hl => hk (h.mem_iff.1 (h'.mem_iff.2 hl))
    have htext := h.text.symm.trans h'.text
    rw [written_plain hk, written_plain hl] at htext
    have hhost : a = b := by
      rw [← takeWhile_loosePort (not_mem_of_fits hk h.fits).1 h.port, htext,
        takeWhile_loosePort (not_mem_of_fits hl h'.fits).1 h'.port]
    subst hhost
    exact ⟨eq_of_fits h.fits h'.fits, rfl, List.append_cancel_left htext⟩

end HostKind
end Conformance.Address

namespace Conformance.Format

open Address Expr.Library

/-- No text passes both for a host name and for an IP address, whatever version is asked for. What passes for an address
is a host of one kind, and what passes for a host with a port is cut in one way into a host, of one kind, and its port. -/
theorem hosts_disjoint (t : String) (s : Schema) :
    (∃ name, call s (.function .isHostname) ⟨[.text t], []⟩ = pure (.bool name) ∧
      ∀ version : Option Value, ∃ ip, call s (.function .isIp) ⟨.text t :: version.toList, []⟩ = pure (.bool ip) ∧
        ¬(name = true ∧ ip = true)) ∧
    (∃ b, call s (.function .isAddress) ⟨[.text t], []⟩ = pure (.bool b) ∧
      (b = true → ∃! k : HostKind, k.fits t.toList = true) ∧ (b = false → ∀ k : HostKind, k.fits t.toList = false)) ∧
    ∀ required : Option Value,
      ∃ b, call s (.function .isHostAndPort) ⟨.text t :: required.toList, []⟩ = pure (.bool b) ∧
        (b = true → ∃! cut : HostKind × List Char × List Char,
          HostKind.IsCut (required.any Value.truth) t.toList cut.1 cut.2.1 cut.2.2) ∧
        (b = false → ∀ k host rest, ¬ HostKind.IsCut (required.any Value.truth) t.toList k host rest) := by
  refine ⟨⟨isHostname t.toList, hostname.call_eq s t, fun version => ?_⟩, ?_, fun required => ?_⟩
  · refine ⟨_, (ip version).call_eq s t, fun h => ?_⟩
    obtain ⟨hname, hip⟩ := h
    rw [holds, ofText?_of_isHostname hname] at hip
    cases hip
  · refine ⟨isAddress t.toList, address.call_eq s t, fun h => ?_, fun h k => ?_⟩
    · obtain ⟨k, hk⟩ := HostKind.isAddress_iff.1 h
      exact ⟨k, hk, fun l hl => HostKind.eq_of_fits hl hk⟩
    · rw [← Bool.not_eq_true] at h ⊢
      exact fun hk => h (HostKind.isAddress_iff.2 ⟨k, hk⟩)
  · refine ⟨isHostAndPort (required.any Value.truth) t.toList, (hostAndPort required).call_eq s t, fun h => ?_,
      fun h => ?_⟩
    · obtain ⟨k, host, rest, hcut⟩ := HostKind.exists_isCut_iff.1 h
      refine ⟨(k, host, rest), hcut, fun cut hcut' => ?_⟩
      obtain ⟨hkind, hhost, hrest⟩ := hcut'.unique hcut
      exact Prod.ext hkind (Prod.ext hhost hrest)
    · rw [← Bool.not_eq_true] at h
      exact fun k host rest hcut => h (HostKind.exists_isCut_iff.2 ⟨k, host, rest, hcut⟩)

/-- With a line feed at its end an address of version 4 passes for a host name, but no longer for an address. -/
example : isHostname "1.2.3.4\n".toList = true ∧ Ip.ofText? "1.2.3.4\n".toList = none := by decide +kernel

end Conformance.Format
