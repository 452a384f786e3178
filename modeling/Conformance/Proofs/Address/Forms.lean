import Conformance.Pattern.Reader
import Conformance.Proofs.Address.Shapes
import Conformance.Proofs.Pattern.Words

/-!
# Forms of addresses as patterns

Labels, mail addresses and ports have forms that can be written as patterns of a line. Each of these patterns, read from
its text, occurs in just the texts that have the form, with or without a line feed after it.
-/

namespace Conformance.Address

open Conformance.Text Conformance.Pattern

/-! ## Classes of characters -/

theorem isAsciiDigit_iff {c : Char} : isAsciiDigit c = true ↔ 48 ≤ c.toNat ∧ c.toNat ≤ 57 := by
  simp [isAsciiDigit, Char.le_def, UInt32.le_iff_toNat_le]

theorem isAsciiLetter_iff {c : Char} :
    isAsciiLetter c = true ↔ 97 ≤ c.toNat ∧ c.toNat ≤ 122 ∨ 65 ≤ c.toNat ∧ c.toNat ≤ 90 := by
  simp [isAsciiLetter, Char.le_def, UInt32.le_iff_toNat_le]

theorem contains_single (c d : Char) : Item.contains {} c (.single d.toNat) = (c == d) := by
  rw [Bool.eq_iff_iff]
  simp [Item.contains, Char.toNat_inj]

/-- The items of a class: letters and digits, and single characters. -/
def letterOrDigit (others : List Char) : List Item :=
  [.range 97 122, .range 65 90, .range 48 57] ++ others.map fun d => .single d.toNat

theorem any_letterOrDigit (others : List Char) (c : Char) :
    (letterOrDigit others).any (Item.contains {} c) = (isAsciiAlphanumeric c || others.contains c) := by
  rw [letterOrDigit, List.any_append, List.any_map, List.contains_eq_any_beq]
  congr 1
  · rw [Bool.eq_iff_iff]
    simp [Item.contains, isAsciiAlphanumeric, isAsciiDigit_iff, isAsciiLetter_iff, or_assoc]
  · congr 1
    funext d
    rw [Function.comp_apply, contains_single]

/-! ## Words of parts -/

section
variable {w : List Char} {items : List Item} {test : Char → Bool}

theorem spells_class (h : ∀ c, items.any (Item.contains {} c) = test c) :
    (Node.set false items).Spells {} w ↔ ∃ c, w = [c] ∧ test c = true := by
  simp [Node.Spells, h]

theorem spells_single (d : Char) : (single d.toNat).Spells {} w ↔ w = [d] := by
  have hclass : ∀ c, [Item.single d.toNat].any (Item.contains {} c) = (c == d) := by simp [contains_single]
  rw [single, spells_class hclass]
  simp

theorem turns_single {few : Nat → Prop} :
    Turns (fun u => ∃ c, u = [c] ∧ test c = true) few w ↔ few w.length ∧ w.all test = true := by
  constructor
  · intro h
    obtain ⟨us, rfl, hfew, hus⟩ := h
    have hall : us.flatten.length = us.length ∧ us.flatten.all test = true := by
      clear hfew
      induction us with
      | nil => exact ⟨rfl, rfl⟩
      | cons u us ih =>
        obtain ⟨⟨c, rfl, hc⟩, hrest⟩ := List.forall_mem_cons.1 hus
        obtain ⟨hlength, htest⟩ := ih hrest
        simp [hlength, htest, hc]
    rw [hall.1]
    exact ⟨hfew, hall.2⟩
  · intro h
    refine ⟨w.map fun c => [c], ?_, ?_, ?_⟩
    · rw [← List.flatMap_def, List.flatMap_singleton']
    · rw [List.length_map]
      exact h.1
    · intro u hu
      obtain ⟨c, hc, rfl⟩ := List.mem_map.1 hu
      exact ⟨c, rfl, List.all_eq_true.1 h.2 c hc⟩

theorem spells_classes {mode : Mode} {least : Nat} {most : Option Nat}
    (h : ∀ c, items.any (Item.contains {} c) = test c) :
    (Node.repeated mode least most (.set false items)).Spells {} w ↔
      (least ≤ w.length ∧ Few most w.length) ∧ w.all test = true := by
  refine Iff.trans ?_ (@turns_single w test fun k => least ≤ k ∧ Few most k)
  refine exists_congr fun us => and_congr_right fun _ => and_congr_right fun _ => forall₂_congr fun u _ => ?_
  exact spells_class h

theorem spells_optional {mode : Mode} {n : Node} :
    (Node.repeated mode 0 (some 1) n).Spells {} w ↔ w = [] ∨ n.Spells {} w := by
  constructor
  · intro h
    obtain ⟨us, rfl, ⟨-, hfew⟩, hus⟩ := h
    match us with
    | [] => exact .inl rfl
    | [u] => exact .inr (by simpa using hus)
    | u :: v :: us =>
      have hlength := hfew 1 rfl
      simp at hlength
  · intro h
    cases h with
    | inl h => exact ⟨[], h.symm, ⟨Nat.le_refl _, few_zero _⟩, by simp⟩
    | inr h => exact ⟨[w], by simp, ⟨Nat.zero_le _, by simp [Few]⟩, by simpa using h⟩

end

/-! ## Labels -/

def labelForm : String := "^[a-zA-Z0-9](?:[a-zA-Z0-9-]\x7b0,61\x7d[a-zA-Z0-9])?$"

/-- What follows the first character of a label. -/
def labelTail : Node :=
  .repeated .greedy 0 (some 1) (.flagged {} {}
    (.seq (.repeated .greedy 0 (some 61) (.set false (letterOrDigit ['-']))) (.set false (letterOrDigit []))))

def labelNodes : List Node := [.set false (letterOrDigit []), labelTail]

def isLabelChar (c : Char) : Bool := isAsciiAlphanumeric c || c == '-'

theorem isLabelChar_of_alphanumeric {c : Char} (h : isAsciiAlphanumeric c = true) : isLabelChar c = true := by
  rw [isLabelChar, h, Bool.true_or]

theorem any_alphanumeric (c : Char) : (letterOrDigit []).any (Item.contains {} c) = isAsciiAlphanumeric c := by
  rw [any_letterOrDigit, List.contains_nil, Bool.or_false]

theorem any_labelChar (c : Char) : (letterOrDigit ['-']).any (Item.contains {} c) = isLabelChar c := by
  rw [any_letterOrDigit, List.contains_cons, List.contains_nil, Bool.or_false, isLabelChar]

theorem isLabel_singleton (c : Char) : isLabel [c] = isAsciiAlphanumeric c := by
  cases hc : isAsciiAlphanumeric c <;> simp [isLabel, hc]

theorem isLabel_ends {c d : Char} {m : List Char} : isLabel (c :: (m ++ [d])) = true ↔
    isAsciiAlphanumeric c = true ∧ m.length ≤ 61 ∧ m.all isLabelChar = true ∧ isAsciiAlphanumeric d = true := by
  have hlast : (c :: (m ++ [d])).getLast? = some d := by rw [← List.cons_append, List.getLast?_concat]
  have hchars : (fun c => isAsciiAlphanumeric c || c == '-') = isLabelChar := rfl
  have hle : (c :: (m ++ [d])).length ≤ 63 ↔ m.length ≤ 61 := by
    rw [List.length_cons, List.length_append, List.length_singleton]
    omega
  rw [isLabel, hlast, hchars]
  simp only [Bool.and_eq_true, decide_eq_true_eq, hle, List.all_cons, List.all_append, List.all_nil, List.head?_cons,
    Option.any_some, and_true]
  constructor
  · intro h
    obtain ⟨⟨⟨hlength, -, hm, -⟩, hc⟩, hd⟩ := h
    exact ⟨hc, hlength, hm, hd⟩
  · intro h
    obtain ⟨hc, hlength, hm, hd⟩ := h
    exact ⟨⟨⟨hlength, isLabelChar_of_alphanumeric hc, hm, isLabelChar_of_alphanumeric hd⟩, hc⟩, hd⟩

theorem spells_labelTail {v : List Char} : labelTail.Spells {} v ↔ v = [] ∨
    ∃ m d, v = m ++ [d] ∧ m.length ≤ 61 ∧ m.all isLabelChar = true ∧ isAsciiAlphanumeric d = true := by
  refine spells_optional.trans (or_congr_right ?_)
  constructor
  · intro h
    obtain ⟨m, x, rfl, hm, hx⟩ := h
    obtain ⟨⟨-, hlength⟩, hall⟩ := (spells_classes any_labelChar).1 hm
    obtain ⟨d, rfl, hd⟩ := (spells_class any_alphanumeric).1 hx
    exact ⟨m, d, rfl, hlength 61 rfl, hall, hd⟩
  · intro h
    obtain ⟨m, d, rfl, hlength, hall, hd⟩ := h
    exact ⟨m, [d], rfl, (spells_classes any_labelChar).2 ⟨⟨Nat.zero_le _, by simpa [Few] using hlength⟩, hall⟩,
      (spells_class any_alphanumeric).2 ⟨d, rfl, hd⟩⟩

theorem spells_label {w : List Char} : (Node.ofList labelNodes).Spells {} w ↔ isLabel w = true := by
  constructor
  · intro h
    obtain ⟨u, v, rfl, hu, hv⟩ := h
    obtain ⟨c, rfl, hc⟩ := (spells_class any_alphanumeric).1 hu
    obtain rfl | ⟨m, d, rfl, hm⟩ := spells_labelTail.1 hv
    · rw [List.append_nil, isLabel_singleton]
      exact hc
    · exact isLabel_ends.2 ⟨hc, hm⟩
  · intro h
    cases w with
    | nil => simp [isLabel] at h
    | cons c v =>
      obtain rfl | ⟨m, d, hv⟩ := List.eq_nil_or_concat v
      · rw [isLabel_singleton] at h
        exact ⟨[c], [], rfl, (spells_class any_alphanumeric).2 ⟨c, rfl, h⟩, spells_labelTail.2 (.inl rfl)⟩
      · rw [List.concat_eq_append] at hv
        subst hv
        obtain ⟨hc, hm⟩ := isLabel_ends.1 h
        exact ⟨[c], m ++ [d], rfl, (spells_class any_alphanumeric).2 ⟨c, rfl, hc⟩,
          spells_labelTail.2 (.inr ⟨m, d, rfl, hm⟩)⟩

/-! ## Mail addresses -/

def mailForm : String :=
  "^[a-zA-Z0-9.!#$%&'*+/=?^_\x60\x7b|\x7d~-]+" ++
    "@[a-zA-Z0-9](?:[a-zA-Z0-9-]\x7b0,61\x7d[a-zA-Z0-9])?" ++
    "(?:\\.[a-zA-Z0-9](?:[a-zA-Z0-9-]\x7b0,61\x7d[a-zA-Z0-9])?)*$"

def moreLabels : Node := .repeated .greedy 0 none (.flagged {} {} (.ofList (single '.'.toNat :: labelNodes)))

def mailNodes : List Node :=
  .repeated .greedy 1 none (.set false (letterOrDigit ".!#$%&'*+/=?^_\x60\x7b|\x7d~-".toList)) ::
    single '@'.toNat :: (labelNodes ++ [moreLabels])

theorem any_localChar (c : Char) :
    (letterOrDigit ".!#$%&'*+/=?^_\x60\x7b|\x7d~-".toList).any (Item.contains {} c) = isLocalChar c :=
  any_letterOrDigit _ c

theorem intercalate_cons (d : Char) (l : List Char) (ls : List (List Char)) :
    [d].intercalate (l :: ls) = l ++ (ls.map (d :: ·)).flatten := by
  induction ls generalizing l with
  | nil => rw [List.intercalate_singleton, List.map_nil, List.flatten_nil, List.append_nil]
  | cons m ls ih =>
    rw [List.intercalate_cons_cons, ih, List.map_cons, List.flatten_cons, List.append_assoc]
    rfl

theorem spells_moreLabels {w : List Char} :
    moreLabels.Spells {} w ↔ ∃ ls : List (List Char), w = (ls.map ('.' :: ·)).flatten ∧ ∀ l ∈ ls, isLabel l = true := by
  have hturn : ∀ u, (Node.flagged {} {} (.ofList (single '.'.toNat :: labelNodes))).Spells {} u ↔
      ∃ l, u = '.' :: l ∧ isLabel l = true := by
    intro u
    refine Node.spells_ofList_cons.trans ?_
    constructor
    · intro h
      obtain ⟨d, l, rfl, hd, hl⟩ := h
      rw [(spells_single '.').1 hd]
      exact ⟨l, rfl, spells_label.1 hl⟩
    · intro h
      obtain ⟨l, rfl, hl⟩ := h
      exact ⟨['.'], l, rfl, (spells_single '.').2 rfl, spells_label.2 hl⟩
  constructor
  · intro h
    obtain ⟨us, rfl, -, hus⟩ := h
    induction us with
    | nil => exact ⟨[], rfl, by simp⟩
    | cons u us ih =>
      obtain ⟨hu, hrest⟩ := List.forall_mem_cons.1 hus
      obtain ⟨l, rfl, hl⟩ := (hturn u).1 hu
      obtain ⟨ls, hls, hlabels⟩ := ih hrest
      exact ⟨l :: ls, by rw [List.flatten_cons, hls]; rfl, List.forall_mem_cons.2 ⟨hl, hlabels⟩⟩
  · intro h
    obtain ⟨ls, rfl, hls⟩ := h
    refine ⟨ls.map ('.' :: ·), rfl, ⟨Nat.zero_le _, by simp [Few]⟩, fun u hu => ?_⟩
    obtain ⟨l, hl, rfl⟩ := List.mem_map.1 hu
    exact (hturn _).2 ⟨l, rfl, hls l hl⟩

theorem hasMailShape_iff {s : List Char} : hasMailShape s = true ↔ ∃ (name : List Char) (ls : List (List Char)),
    s = name ++ '@' :: ['.'].intercalate ls ∧ (name ≠ [] ∧ name.all isLocalChar = true) ∧
      ls ≠ [] ∧ ∀ l ∈ ls, isLabel l = true := by
  unfold hasMailShape
  constructor
  · intro h
    split at h
    · cases h
    · next name domain hsplit =>
      obtain ⟨rfl, -⟩ := splitFirst_eq_some.1 hsplit
      simp only [Bool.and_eq_true, Bool.not_eq_true', List.isEmpty_eq_false_iff, List.all_eq_true] at h
      obtain ⟨⟨hne, hname⟩, hlabels⟩ := h
      obtain ⟨hpieces, hjoin, -⟩ := cutAtAll_pieces (c := '.') domain
      exact ⟨name, cutAtAll ['.'] domain, by rw [hjoin], ⟨hne, List.all_eq_true.2 hname⟩, hpieces, hlabels⟩
  · intro h
    obtain ⟨name, ls, rfl, ⟨hne, hname⟩, hls, hlabels⟩ := h
    have hpieces : cutAtAll ['.'] (['.'].intercalate ls) = ls :=
      cutAtAll_eq_iff.2 ⟨hls, rfl, fun l hl => (not_mem_label (hlabels l hl)).2.1⟩
    rw [splitFirst_append (not_mem_of_all hname (by decide))]
    dsimp only
    rw [hpieces, hname, List.all_eq_true.2 hlabels, List.isEmpty_eq_false_iff.2 hne]
    rfl

theorem spells_mail {w : List Char} : (Node.ofList mailNodes).Spells {} w ↔ hasMailShape w = true := by
  rw [mailNodes, Node.spells_ofList_cons, hasMailShape_iff]
  constructor
  · intro h
    obtain ⟨name, v, rfl, hname, hv⟩ := h
    obtain ⟨sign, domain, rfl, hat, hdomain⟩ := Node.spells_ofList_cons.1 hv
    obtain ⟨l, more, rfl, hl, hmore⟩ := Node.spells_ofList_append.1 hdomain
    obtain ⟨⟨hlength, -⟩, hall⟩ := (spells_classes any_localChar).1 hname
    obtain ⟨ls, rfl, hls⟩ := spells_moreLabels.1 hmore
    rw [(spells_single '@').1 hat]
    refine ⟨name, l :: ls, by rw [intercalate_cons]; rfl, ⟨?_, hall⟩, List.cons_ne_nil _ _,
      List.forall_mem_cons.2 ⟨spells_label.1 hl, hls⟩⟩
    exact List.length_pos_iff.1 hlength
  · intro h
    obtain ⟨name, ls, rfl, ⟨hne, hall⟩, hls, hlabels⟩ := h
    obtain ⟨l, ls, rfl⟩ := List.exists_cons_of_ne_nil hls
    obtain ⟨hl, hlabels⟩ := List.forall_mem_cons.1 hlabels
    rw [intercalate_cons]
    refine ⟨name, _, rfl, (spells_classes any_localChar).2 ⟨⟨List.length_pos_iff.2 hne, by simp [Few]⟩, hall⟩,
      Node.spells_ofList_cons.2 ⟨['@'], _, rfl, (spells_single '@').2 rfl, Node.spells_ofList_append.2
        ⟨l, _, rfl, spells_label.2 hl, spells_moreLabels.2 ⟨ls, rfl, hlabels⟩⟩⟩⟩

/-! ## Ports -/

def portForm : String := "^(?:0|[1-9][0-9]\x7b0,4\x7d)$"

def portNodes : List Node :=
  [.flagged {} {} (.alt (single '0'.toNat)
    (.seq (.set false [.range 49 57]) (.repeated .greedy 0 (some 4) (.set false [.range 48 57]))))]

theorem any_digit (c : Char) : [Item.range 48 57].any (Item.contains {} c) = isAsciiDigit c := by
  rw [Bool.eq_iff_iff, isAsciiDigit_iff]
  simp [Item.contains]

theorem any_leadingDigit (c : Char) :
    [Item.range 49 57].any (Item.contains {} c) = (isAsciiDigit c && c != '0') := by
  have hzero : c = '0' ↔ c.toNat = 48 := Char.toNat_inj.symm
  rw [Bool.eq_iff_iff, Bool.and_eq_true, isAsciiDigit_iff, bne_iff_ne, ne_eq, hzero]
  simp [Item.contains]
  omega

theorem isPortNumeral_cons {c : Char} {v : List Char} : isPortNumeral (c :: v) = true ↔ c = '0' ∧ v = [] ∨
    (isAsciiDigit c && c != '0') = true ∧ v.length ≤ 4 ∧ v.all isAsciiDigit = true := by
  have hdigit : isAsciiDigit '0' = true := by decide
  by_cases hc : c = '0'
  · subst hc
    cases v <;> simp [isPortNumeral, isNumeral, hdigit]
  · have hle : (c :: v).length ≤ 5 ↔ v.length ≤ 4 := by
      rw [List.length_cons]
      omega
    have hfirst : (c :: v == ['0'] || (c :: v).head? != some '0') = true := by simp [hc]
    have hne : (c != '0') = true := bne_iff_ne.2 hc
    rw [isPortNumeral, isNumeral, hfirst, hne]
    simp only [List.isEmpty_cons, Bool.not_false, Bool.true_and, Bool.and_true, Bool.and_eq_true, List.all_cons,
      decide_eq_true_eq, hle, hc, false_and, false_or]
    constructor
    · intro h
      exact ⟨h.1.1, h.2, h.1.2⟩
    · intro h
      exact ⟨⟨h.1, h.2.2⟩, h.2.1⟩

theorem spells_port {w : List Char} : (Node.ofList portNodes).Spells {} w ↔ isPortNumeral w = true := by
  constructor
  · intro h
    cases h with
    | inl h =>
      rw [(spells_single '0').1 h]
      decide
    | inr h =>
      obtain ⟨u, v, rfl, hu, hv⟩ := h
      obtain ⟨c, rfl, hc⟩ := (spells_class any_leadingDigit).1 hu
      obtain ⟨⟨-, hlength⟩, hall⟩ := (spells_classes any_digit).1 hv
      exact isPortNumeral_cons.2 (.inr ⟨hc, hlength 4 rfl, hall⟩)
  · intro h
    cases w with
    | nil => cases h
    | cons c v =>
      obtain ⟨rfl, rfl⟩ | ⟨hc, hlength, hall⟩ := isPortNumeral_cons.1 h
      · exact .inl ((spells_single '0').2 rfl)
      · exact .inr ⟨[c], v, rfl, (spells_class any_leadingDigit).2 ⟨c, rfl, hc⟩,
          (spells_classes any_digit).2 ⟨⟨Nat.zero_le _, by simpa [Few] using hlength⟩, hall⟩⟩

/-! ## Patterns -/

theorem ofText_of_toOption {form : String} {p : Pattern} (h : (Pattern.ofText form).toOption = some p) :
    Pattern.ofText form = .ok p := by
  cases hp : Pattern.ofText form with
  | error e =>
    rw [hp] at h
    cases h
  | ok q =>
    rw [hp] at h
    cases h
    rfl

/-- A pattern whose nodes spell a form occurs where the form holds of the line. -/
theorem exists_pattern {form : String} {ns : List Node} {test : List Char → Bool}
    (hread : (Pattern.ofText form).toOption = some ⟨form, {}, 0, .line ns⟩) (hregular : ∀ n ∈ ns, n.isRegular = true)
    (hwords : ∀ w, (Node.ofList ns).Spells {} w ↔ test w = true) :
    ∃ p, Pattern.ofText form = .ok p ∧ ∀ s, p.occursIn s = holdsOfLine test s := by
  refine ⟨_, ofText_of_toOption hread, fun s => ?_⟩
  rw [Bool.eq_iff_iff, occursIn_line hregular, holdsOfLine_eq_true]
  constructor
  · intro h
    obtain ⟨w, hw, hs⟩ := h
    cases hs with
    | inl hs => exact ⟨false, w, hs.symm, (hwords w).1 hw⟩
    | inr hs => exact ⟨true, w, hs.symm, (hwords w).1 hw⟩
  · intro h
    obtain ⟨mark, w, rfl, hw⟩ := h
    refine ⟨w, (hwords w).2 hw, ?_⟩
    cases mark with
    | false => exact .inl rfl
    | true => exact .inr rfl

theorem exists_labelPattern :
    ∃ p, Pattern.ofText labelForm = .ok p ∧ ∀ s, p.occursIn s = holdsOfLine isLabel s :=
  exists_pattern (by decide +kernel) (by decide) fun _ => spells_label

theorem exists_mailPattern :
    ∃ p, Pattern.ofText mailForm = .ok p ∧ ∀ s, p.occursIn s = holdsOfLine hasMailShape s :=
  exists_pattern (by decide +kernel) (by decide) fun _ => spells_mail

theorem exists_portPattern :
    ∃ p, Pattern.ofText portForm = .ok p ∧ ∀ s, p.occursIn s = holdsOfLine isPortNumeral s :=
  exists_pattern (by decide +kernel) (by decide) fun _ => spells_port

end Conformance.Address
