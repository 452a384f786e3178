import Conformance.Proofs.Address.HostPort

/-!
# Networks

A network is an address, a slash and the number of bits that name the network. A version 4 network may show this number
by a mask, which has ones for the bits of the network or for those of its hosts.
-/

namespace Conformance.Address

open Conformance.Text

variable {s l : List Char} {n m k : Nat}

/-! ## Bits -/

theorem mod_two_pow_eq_zero_iff : n % Nat.pow 2 k = 0 ↔ ∀ i < k, n.testBit i = false := by
  rw [Nat.pow_eq]
  constructor
  · intro h i hi
    have hbit := Nat.testBit_mod_two_pow n k i
    rw [h, Nat.zero_testBit, decide_eq_true hi, Bool.true_and] at hbit
    exact hbit.symm
  · intro h
    apply Nat.eq_of_testBit_eq
    intro i
    rw [Nat.testBit_mod_two_pow, Nat.zero_testBit]
    by_cases hi : i < k
    · rw [h i hi, Bool.and_false]
    · rw [decide_eq_false hi, Bool.false_and]

theorem isAligned_iff {net : Network} : net.isAligned = true ↔
    ∀ i < net.address.version.bits - net.length, net.address.value.testBit i = false := by
  rw [Network.isAligned, beq_iff_eq, mod_two_pow_eq_zero_iff]

/-! ## Masks -/

/-- The first `k` of 32 bits are ones, the others zeros. -/
def IsNetmask (k m : Nat) : Prop := ∀ i, m.testBit i = decide (32 - k ≤ i ∧ i < 32)

/-- The first `k` of 32 bits are zeros, the others ones. -/
def IsHostmask (k m : Nat) : Prop := ∀ i, m.testBit i = decide (i < 32 - k)

theorem isNetmask_iff : IsNetmask k m ↔ m = 4294967296 - Nat.pow 2 (32 - k) := by
  have hpow : 0 < 2 ^ (32 - k) := Nat.two_pow_pos _
  have hle : 2 ^ (32 - k) ≤ 2 ^ 32 := Nat.pow_le_pow_right (by decide) (Nat.sub_le 32 k)
  have hbits (i : Nat) : (4294967296 - Nat.pow 2 (32 - k)).testBit i = decide (32 - k ≤ i ∧ i < 32) := by
    have hones : 4294967296 - Nat.pow 2 (32 - k) = 2 ^ 32 - ((2 ^ (32 - k) - 1) + 1) := by
      rw [Nat.sub_add_cancel hpow]
      rfl
    rw [hones, Nat.testBit_two_pow_sub_succ (by omega), Nat.testBit_two_pow_sub_one, Bool.eq_iff_iff]
    simp [and_comm]
  constructor
  · intro h
    apply Nat.eq_of_testBit_eq
    intro i
    rw [h i, hbits]
  · rintro rfl
    exact hbits

theorem IsNetmask.le (h : IsNetmask k m) (hk : k ≤ 32) (h' : IsNetmask n m) : k ≤ n := by
  by_contra hlt
  have hbit := (h (32 - k)).symm.trans (h' (32 - k))
  rw [decide_eq_decide] at hbit
  omega

theorem maskLength?_eq_some : Network.maskLength? m = some k ↔ k ≤ 32 ∧ IsNetmask k m := by
  unfold Network.maskLength?
  rw [List.find?_range_eq_some, beq_iff_eq, ← isNetmask_iff, List.mem_range, Nat.lt_succ_iff]
  constructor
  · intro h
    exact ⟨h.2.1, h.1⟩
  · intro h
    -- No shorter network has the same mask, so the search does not end before.
    refine ⟨h.2, h.1, fun j hj => ?_⟩
    rw [Bool.not_eq_true', beq_eq_false_iff_ne, Ne, ← isNetmask_iff]
    intro hmask
    exact absurd (h.2.le h.1 hmask) (by omega)

theorem v4?_lt (h : v4? s = some m) : m < 2 ^ 32 := by
  obtain ⟨a, b, c, d, hmap, rfl⟩ := v4?_eq_some h
  have hle : ∀ n ∈ [a, b, c, d], n ≤ 255 := by
    intro n hn
    obtain ⟨p, -, hp⟩ := (exists_of_mapM hmap).2 n hn
    exact (octet?_eq_some hp).2
  simp only [List.forall_mem_cons] at hle
  omega

/-- The complement of a mask of the hosts is a mask of the network. -/
theorem isNetmask_complement (hm : m < 2 ^ 32) : IsNetmask k (4294967295 - m) ↔ IsHostmask k m := by
  have hbits (i : Nat) : (4294967295 - m).testBit i = (decide (i < 32) && !m.testBit i) := by
    have hones : 4294967295 - m = 2 ^ 32 - (m + 1) := by omega
    rw [hones, Nat.testBit_two_pow_sub_succ hm]
  have hhigh (i : Nat) (hi : ¬ i < 32) : m.testBit i = false :=
    Nat.testBit_lt_two_pow (Nat.lt_of_lt_of_le hm (Nat.pow_le_pow_right (by decide) (Nat.not_lt.1 hi)))
  refine forall_congr' fun i => ?_
  rw [hbits]
  by_cases hi : i < 32
  · cases hbit : m.testBit i
    · simp [hi]
    · simp [hi]
      omega
  · simp [hi, hhigh i hi]
    omega

theorem not_isNetmask_of_isHostmask (h : IsHostmask k m) (hk : 0 < k ∧ k < 32) : ¬ IsNetmask n m := by
  intro hmask
  -- The lowest bit is a one, so all would be, but the highest is a zero.
  have hfirst := (h 0).symm.trans (hmask 0)
  have hlast := (h 31).symm.trans (hmask 31)
  rw [decide_eq_decide] at hfirst hlast
  omega

/-- A mask that is one of hosts only has ones and zeros. -/
theorem IsHostmask.isNetmask_or (h : IsHostmask k m) (hk : k ≤ 32) : (∃ n ≤ 32, IsNetmask n m) ∨ 0 < k ∧ k < 32 := by
  by_cases hzero : k = 0
  · refine .inl ⟨32, Nat.le_refl 32, fun i => (h i).trans ?_⟩
    simp [hzero]
  · by_cases hall : k = 32
    · refine .inl ⟨0, Nat.zero_le 32, fun i => (h i).trans ?_⟩
      simp [hall]
    · exact .inr (by omega)

theorem masks_eq_some (hm : m < 2 ^ 32) :
    (Network.maskLength? m).or (Network.maskLength? (4294967295 - m)) = some k ↔
      k ≤ 32 ∧ IsNetmask k m ∨ (0 < k ∧ k < 32) ∧ IsHostmask k m := by
  rw [Option.or_eq_some_iff, maskLength?_eq_some, maskLength?_eq_some, isNetmask_complement hm,
    Option.eq_none_iff_forall_ne_some]
  refine or_congr_right ⟨fun h => ?_, fun h => ?_⟩
  · obtain ⟨hnone, hk, hmask⟩ := h
    refine ⟨(hmask.isNetmask_or hk).resolve_left fun hnet => ?_, hmask⟩
    obtain ⟨n, hn⟩ := hnet
    exact hnone n (maskLength?_eq_some.2 hn)
  · obtain ⟨hk, hmask⟩ := h
    exact ⟨fun n hn => not_isNetmask_of_isHostmask hmask hk (maskLength?_eq_some.1 hn).2, hk.2.le, hmask⟩

/-! ## Lengths -/

/-- What is written for the number of network bits: the number, with up to 4300 digits, or in version 4 a mask. Where all
bits are alike the mask is one of the network. -/
inductive IsLength (l : List Char) : Version → Nat → Prop
  | number {v : Version} (hl : l ≠ []) (hdigits : ∀ c ∈ l, c.isDigit = true) (hlength : l.length ≤ Decimal.digitLimit)
      (hle : Nat.ofDigitChars 10 l 0 ≤ v.bits) : IsLength l v (Nat.ofDigitChars 10 l 0)
  | netmask {k m : Nat} (hl : v4? l = some m) (hk : k ≤ 32) (hm : IsNetmask k m) : IsLength l .v4 k
  | hostmask {k m : Nat} (hl : v4? l = some m) (hk : 0 < k ∧ k < 32) (hm : IsHostmask k m) : IsLength l .v4 k

theorem numberLength?_eq_some {v : Version} : Network.numberLength? v l = some k ↔
    isNumeral l = true ∧ l.length ≤ Decimal.digitLimit ∧ decimal l ≤ v.bits ∧ decimal l = k := by
  unfold Network.numberLength?
  simp [and_assoc]

theorem mem_v4 (h : v4? l = some m) : '.' ∈ l := by
  by_contra hdot
  obtain ⟨a, b, c, d, hmap, -⟩ := v4?_eq_some h
  rw [cutAtAll_of_notMem hdot] at hmap
  cases hl : octet? l <;> simp [hl] at hmap

theorem numberLength?_of_v4 {v : Version} (h : v4? l = some m) : Network.numberLength? v l = none := by
  rw [Option.eq_none_iff_forall_ne_some]
  intro k hk
  have hdigit := (isNumeral_iff.1 (numberLength?_eq_some.1 hk).1).2 '.' (mem_v4 h)
  cases hdigit

theorem length?_of_v4 (h : v4? l = some m) :
    Network.length? .v4 l = (Network.maskLength? m).or (Network.maskLength? (4294967295 - m)) := by
  rw [Network.length?, numberLength?_of_v4 h]
  simp only [h, Option.bind_eq_bind, Option.bind_some]
  cases Network.maskLength? m <;> rfl

theorem length?_eq_some {v : Version} : Network.length? v l = some k ↔ IsLength l v k := by
  constructor
  · intro h
    cases hnumber : Network.numberLength? v l with
    | some n =>
      rw [Network.length?.eq_def, hnumber] at h
      cases h
      obtain ⟨hnumeral, hlength, hle, rfl⟩ := numberLength?_eq_some.1 hnumber
      rw [decimal_eq_ofDigitChars] at hle ⊢
      obtain ⟨hl, hdigits⟩ := isNumeral_iff.1 hnumeral
      exact .number hl hdigits hlength hle
    | none =>
      cases v with
      | v6 =>
        rw [Network.length?.eq_def, hnumber] at h
        cases h
      | v4 =>
        cases hl : v4? l with
        | none =>
          rw [Network.length?.eq_def, hnumber, hl] at h
          cases h
        | some m =>
          rw [length?_of_v4 hl, masks_eq_some (v4?_lt hl)] at h
          rcases h with ⟨hk, hm⟩ | ⟨hk, hm⟩
          · exact .netmask hl hk hm
          · exact .hostmask hl hk hm
  · intro h
    cases h with
    | number hl hdigits hlength hle =>
      rw [← decimal_eq_ofDigitChars] at hle ⊢
      have hnumber := numberLength?_eq_some.2 ⟨isNumeral_iff.2 ⟨hl, hdigits⟩, hlength, hle, rfl⟩
      rw [Network.length?.eq_def, hnumber]
    | netmask hl hk hm =>
      rw [length?_of_v4 hl, masks_eq_some (v4?_lt hl)]
      exact .inl ⟨hk, hm⟩
    | hostmask hl hk hm =>
      rw [length?_of_v4 hl, masks_eq_some (v4?_lt hl)]
      exact .inr ⟨hk, hm⟩

/-! ## Addresses and lengths -/

theorem not_mem_slash_of_ip {ip : Ip} (h : Ip.ofText? s = some ip) : '/' ∉ s := by
  unfold Ip.ofText? at h
  split at h
  · next n hn => exact fun hc => absurd (v4_chars hn hc) (by decide)
  · obtain ⟨n, hn, -⟩ := Option.map_eq_some_iff.1 h
    exact (zoned?_eq_some.1 hn).1

theorem not_mem_slash_of_length {v : Version} (h : IsLength l v k) : '/' ∉ l := by
  cases h with
  | number hl hdigits => exact fun hc => absurd (hdigits _ hc) (by decide)
  | netmask hl => exact fun hc => absurd (v4_chars hl hc) (by decide)
  | hostmask hl => exact fun hc => absurd (v4_chars hl hc) (by decide)

theorem IsLength.number_of_notMem {v : Version} (h : IsLength l v k) (hl : '.' ∉ l) :
    (l ≠ [] ∧ ∀ c ∈ l, c.isDigit = true) ∧ k = Nat.ofDigitChars 10 l 0 ∧ Nat.ofDigitChars 10 l 0 ≤ v.bits := by
  cases h with
  | number hne hdigits _ hle => exact ⟨⟨hne, hdigits⟩, rfl, hle⟩
  | netmask hv4 => exact absurd (mem_v4 hv4) hl
  | hostmask hv4 => exact absurd (mem_v4 hv4) hl

/-- The address and the length that a text shows of a network. -/
structure IsNetwork (s a l : List Char) (net : Network) : Prop where
  text : s = a ++ '/' :: l
  address : Ip.ofText? a = some net.address
  length : IsLength l net.address.version net.length

theorem ofText?_slashed {a l : List Char} {net : Network} (ha : '/' ∉ a) (hl : '/' ∉ l) :
    Network.ofText? (a ++ '/' :: l) = some net ↔ Ip.ofText? a = some net.address ∧
      Network.length? net.address.version l = some net.length := by
  rw [Network.ofText?, cutAtAll_append ha, cutAtAll_of_notMem hl]
  cases hip : Ip.ofText? a with
  | none => simp [hip]
  | some ip =>
    obtain ⟨address, length⟩ := net
    simp only [hip, Option.bind_eq_bind, Option.bind_some, Option.map_eq_some_iff, Network.mk.injEq,
      Option.some.injEq]
    constructor
    · intro h
      obtain ⟨n, hn, rfl, rfl⟩ := h
      exact ⟨rfl, hn⟩
    · intro h
      obtain ⟨rfl, hn⟩ := h
      exact ⟨length, hn, rfl, rfl⟩

theorem not_mem_of_ofText? {a l : List Char} {net : Network} (ha : '/' ∉ a)
    (h : Network.ofText? (a ++ '/' :: l) = some net) : '/' ∉ l := by
  intro hl
  obtain ⟨b, c, rfl, hb⟩ := List.eq_append_cons_of_mem hl
  obtain ⟨q, qs, hq⟩ := List.exists_cons_of_ne_nil (cutAtAll_pieces (c := '/') c).1
  rw [Network.ofText?, cutAtAll_append ha, cutAtAll_append hb, hq] at h
  cases h

theorem ofSlashed?_eq (strict : Bool) (s : List Char) : Network.ofSlashed? strict s =
    if '/' ∈ s then (Network.ofText? s).filter fun net => !strict || net.isAligned else none := by
  unfold Network.ofSlashed?
  by_cases hslash : '/' ∈ s
  · cases Network.ofText? s with
    | none => simp [hslash]
    | some net => cases strict <;> cases haligned : net.isAligned <;> simp [hslash, haligned, Option.filter]
  · simp [hslash]

theorem ofSlashed?_eq_some {strict : Bool} {net : Network} : Network.ofSlashed? strict s = some net ↔
    (∃ a l, IsNetwork s a l net) ∧ (strict = true → net.isAligned = true) := by
  have hstrict : (!strict || net.isAligned) = true ↔ (strict = true → net.isAligned = true) := by
    cases strict <;> simp
  rw [ofSlashed?_eq, Option.ite_none_right_eq_some, Option.filter_eq_some_iff, hstrict, ← and_assoc]
  refine and_congr_left' ?_
  constructor
  · intro h
    obtain ⟨hslash, hnet⟩ := h
    obtain ⟨a, l, rfl, ha⟩ := List.eq_append_cons_of_mem hslash
    obtain ⟨hip, hlength⟩ := (ofText?_slashed ha (not_mem_of_ofText? ha hnet)).1 hnet
    exact ⟨a, l, rfl, hip, length?_eq_some.1 hlength⟩
  · intro h
    obtain ⟨a, l, rfl, hip, hlength⟩ := h
    refine ⟨List.mem_append_right a List.mem_cons_self, ?_⟩
    exact (ofText?_slashed (not_mem_slash_of_ip hip) (not_mem_slash_of_length hlength)).2
      ⟨hip, length?_eq_some.2 hlength⟩

end Conformance.Address

namespace Conformance

open Address

theorem Expr.Library.checkNetwork_eq (t : String) (version strict : Value) :
    checkNetwork (.text t) version strict = pure ((Network.ofSlashed? strict.truth t.toList).any fun net =>
      versionFits version net.address.version) := by
  have hholds : holds (.text t) (.text "/") = pure (t.toList.contains '/') := by
    rw [← Text.occursIn_singleton]
    rfl
  rw [checkNetwork, hholds, pure_bind]
  cases hslash : t.toList.contains '/' with
  | false =>
    have hnone : Network.ofSlashed? strict.truth t.toList = none := by
      rw [ofSlashed?_eq, if_neg (by simpa using hslash)]
    rw [hnone]
    rfl
  | true => cases Network.ofSlashed? strict.truth t.toList <;> rfl

namespace Format

theorem fits_network_iff {t : List Char} {version : Int} {strict : Bool} :
    ((Network.ofSlashed? strict t).any fun net =>
      Expr.Library.versionFits (.int version) net.address.version) = true ↔
    ∃ a l net, IsNetwork t a l net ∧ (Format.ip (some (.int version))).holds a = true ∧
      (strict = true → ∀ i < net.address.version.bits - net.length, net.address.value.testBit i = false) := by
  rw [Option.any_eq_true]
  constructor
  · intro h
    obtain ⟨net, hnet, hfits⟩ := h
    obtain ⟨⟨a, l, hshown⟩, haligned⟩ := ofSlashed?_eq_some.1 hnet
    refine ⟨a, l, net, hshown, ?_, fun hstrict => isAligned_iff.1 (haligned hstrict)⟩
    rw [holds, hshown.address]
    exact hfits
  · intro h
    obtain ⟨a, l, net, hshown, hfits, hzeros⟩ := h
    rw [holds, hshown.address] at hfits
    exact ⟨net, ofSlashed?_eq_some.2 ⟨⟨a, l, hshown⟩, fun hstrict => isAligned_iff.2 (hzeros hstrict)⟩, hfits⟩

/-- The check of networks gives whether a text shows a network that in strict mode has zeros for all bits of its hosts.
Where no points come after a slash, what comes after it is a number. -/
theorem ipPrefix_forms (t : String) (version : Int) (strict : Bool) (s : Schema) :
    ∃ b, Expr.Library.call s (.function .isIpPrefix) ⟨[.text t, .int version, .bool strict], []⟩ = pure (.bool b) ∧
      (b = true ↔ ∃ a l net, IsNetwork t.toList a l net ∧ (Format.ip (some (.int version))).holds a = true ∧
        (strict = true → ∀ i < net.address.version.bits - net.length, net.address.value.testBit i = false)) ∧
      (b = true → (∀ a l, t.toList = a ++ '/' :: l → '.' ∉ l) → ∃ a l ip, t.toList = a ++ '/' :: l ∧
        Ip.ofText? a = some ip ∧ (Format.ip (some (.int version))).holds a = true ∧
        (l ≠ [] ∧ ∀ c ∈ l, c.isDigit = true) ∧ Nat.ofDigitChars 10 l 0 ≤ ip.version.bits ∧
        (strict = true → ∀ i < ip.version.bits - Nat.ofDigitChars 10 l 0, ip.value.testBit i = false)) := by
  have hcall : Expr.Library.call s (.function .isIpPrefix) ⟨[.text t, .int version, .bool strict], []⟩ =
      (do return .bool (← Expr.Library.checkNetwork (.text t) (.int version) (.bool strict))) := rfl
  have htruth : (Value.bool strict).truth = strict := rfl
  refine ⟨_, by rw [hcall, Expr.Library.checkNetwork_eq, pure_bind, htruth], fits_network_iff, fun h hpoints => ?_⟩
  obtain ⟨a, l, net, hshown, hfits, hzeros⟩ := fits_network_iff.1 h
  obtain ⟨hnumeral, hlength, hle⟩ := hshown.length.number_of_notMem (hpoints a l hshown.text)
  rw [hlength] at hzeros
  exact ⟨a, l, net.address, hshown.text, hshown.address, hfits, hnumeral, hle, hzeros⟩

/-- A mask does for a length. -/
theorem call_maskedNetwork :
    Expr.Library.call Layout.schema (.function .isIpPrefix) ⟨[.text "10.0.0.0/255.0.0.0"], []⟩ = pure (.bool true) ∧
      ¬ ∃ a l, "10.0.0.0/255.0.0.0".toList = a ++ '/' :: l ∧ ∀ c ∈ l, c.isDigit = true := by
  constructor
  · have hcall : Expr.Library.call Layout.schema (.function .isIpPrefix) ⟨[.text "10.0.0.0/255.0.0.0"], []⟩ =
        (do return .bool (← Expr.Library.checkNetwork (.text "10.0.0.0/255.0.0.0") (.int 0) (.bool false))) := rfl
    have hnet : Network.ofSlashed? false "10.0.0.0/255.0.0.0".toList = some ⟨⟨.v4, 167772160⟩, 8⟩ := by decide +kernel
    have htruth : (Value.bool false).truth = false := rfl
    rw [hcall, Expr.Library.checkNetwork_eq, pure_bind, htruth, hnet]
    rfl
  · intro h
    obtain ⟨a, l, htext, hdigits⟩ := h
    have hslash : '/' ∉ l := fun hmem => absurd (hdigits _ hmem) (by decide)
    have hsplit : Text.splitLast '/' "10.0.0.0/255.0.0.0".toList = some ("10.0.0.0".toList, "255.0.0.0".toList) := by
      decide +kernel
    rw [htext, Text.splitLast_append hslash] at hsplit
    cases hsplit
    exact absurd (hdigits '.' (by decide +kernel)) (by decide)

end Format
end Conformance
