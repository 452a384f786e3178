import Conformance.Pattern.Search

/-!
# Words of patterns

The words of a node are told by its syntax, without any order of choices. The matcher with backtracking finds just
them: it asks what follows at each place to which a word leads, until one answers. This holds of the nodes that neither
remember groups, nor look around, nor settle a choice early, and of which every turn of a repetition moves on.
-/

namespace Conformance.Pattern

/-! ## Places and matchers -/

/-- The place after a word that is followed by `v`. -/
def Place.past (p : Place) (w v : List Char) : Place := ⟨w.reverse ++ p.before, v, p.groups⟩

theorem Place.past_past (p : Place) (u w v : List Char) : (p.past u (w ++ v)).past w v = p.past (u ++ w) v := by
  simp [Place.past]

theorem Place.offset_past (p : Place) (w v : List Char) : (p.past w v).offset = w.length + p.offset := by
  simp [Place.past, Place.offset]

/-- From each place the matcher succeeds just where what follows does after one of the words. -/
def Reads (m : Matcher) (L : List Char → Prop) : Prop :=
  ∀ (p : Place) (rest : Place → Option Place),
    (m p rest).isSome = true ↔ ∃ w v, p.rest = w ++ v ∧ L w ∧ (rest (p.past w v)).isSome = true

section
variable {m n k : Matcher} {L M : List Char → Prop}

theorem Reads.congr (h : Reads m L) (heq : ∀ w, L w ↔ M w) : Reads m M := by
  intro p rest
  simp only [h p rest, heq]

theorem reads_nothing : Reads (fun p rest => rest p) (· = []) := by
  intro p rest
  constructor
  · intro h
    exact ⟨[], p.rest, rfl, rfl, h⟩
  · intro h
    obtain ⟨w, v, hp, rfl, h⟩ := h
    obtain rfl : p.rest = v := hp
    exact h

theorem reads_step (test : Char → Bool) :
    Reads (fun p rest => (p.step? test).bind rest) fun w => ∃ c, w = [c] ∧ test c = true := by
  intro p rest
  obtain ⟨before, s, groups⟩ := p
  cases s with
  | nil => simp [Place.step?]
  | cons d ds =>
    unfold Place.step?
    dsimp only
    constructor
    · intro h
      by_cases hd : test d = true
      · rw [if_pos hd] at h
        exact ⟨[d], ds, rfl, ⟨d, rfl, hd⟩, h⟩
      · rw [if_neg hd] at h
        cases h
    · intro h
      obtain ⟨w, v, hw, ⟨c, rfl, hc⟩, h⟩ := h
      obtain ⟨rfl, rfl⟩ := List.cons.inj hw
      rw [if_pos hc]
      exact h

theorem Reads.seq (hm : Reads m L) (hn : Reads n M) :
    Reads (fun p rest => m p fun q => n q rest) fun w => ∃ u v, w = u ++ v ∧ L u ∧ M v := by
  intro p rest
  rw [hm]
  constructor
  · intro h
    obtain ⟨u, v, hp, hu, h⟩ := h
    obtain ⟨w, x, rfl, hw, hrest⟩ := (hn _ rest).1 h
    rw [Place.past_past] at hrest
    exact ⟨u ++ w, x, by rw [hp, List.append_assoc], ⟨u, w, rfl, hu, hw⟩, hrest⟩
  · intro h
    obtain ⟨_, x, hp, ⟨u, w, rfl, hu, hw⟩, hrest⟩ := h
    rw [List.append_assoc] at hp
    refine ⟨u, w ++ x, hp, hu, (hn _ rest).2 ⟨w, x, rfl, hw, ?_⟩⟩
    rw [Place.past_past]
    exact hrest

theorem Reads.alt (hm : Reads m L) (hn : Reads n M)
    (h : ∀ p rest, (k p rest).isSome = true ↔ (m p rest).isSome = true ∨ (n p rest).isSome = true) :
    Reads k fun w => L w ∨ M w := by
  intro p rest
  rw [h, hm, hn]
  constructor
  · intro h
    obtain ⟨w, v, hp, hw, h⟩ | ⟨w, v, hp, hw, h⟩ := h
    · exact ⟨w, v, hp, .inl hw, h⟩
    · exact ⟨w, v, hp, .inr hw, h⟩
  · intro h
    obtain ⟨w, v, hp, hw, h⟩ := h
    cases hw with
    | inl hw => exact .inl ⟨w, v, hp, hw, h⟩
    | inr hw => exact .inr ⟨w, v, hp, hw, h⟩

end

/-! ## Repetition -/

/-- Words of a language, one after the other. -/
def Turns (L : List Char → Prop) (few : Nat → Prop) (w : List Char) : Prop :=
  ∃ us : List (List Char), us.flatten = w ∧ few us.length ∧ ∀ u ∈ us, L u

section
variable {body : Matcher} {L : List Char → Prop}

theorem turns_nil {few : Nat → Prop} (h : few 0) : Turns L few [] :=
  ⟨[], rfl, h, fun _ hu => absurd hu List.not_mem_nil⟩

theorem turns_cons {few : Nat → Prop} {u w : List Char} (hu : L u) (hw : Turns L (fun k => few (k + 1)) w) :
    Turns L few (u ++ w) := by
  obtain ⟨us, rfl, hfew, hus⟩ := hw
  exact ⟨u :: us, rfl, hfew, List.forall_mem_cons.2 ⟨hu, hus⟩⟩

theorem Turns.cases {few : Nat → Prop} {w : List Char} (h : Turns L few w) :
    few 0 ∧ w = [] ∨ ∃ u v, w = u ++ v ∧ L u ∧ Turns L (fun k => few (k + 1)) v := by
  obtain ⟨us, rfl, hfew, hus⟩ := h
  cases us with
  | nil => exact .inl ⟨hfew, rfl⟩
  | cons u us =>
    obtain ⟨hu, hus⟩ := List.forall_mem_cons.1 hus
    exact .inr ⟨u, us.flatten, rfl, hu, us, rfl, hfew, hus⟩

theorem reads_exactly (h : Reads body L) (n : Nat) : Reads (exactly body n) (Turns L (· = n)) := by
  induction n with
  | zero =>
    apply reads_nothing.congr
    intro w
    constructor
    · rintro rfl
      exact turns_nil rfl
    · intro hw
      obtain ⟨-, hw⟩ | ⟨u, v, -, -, us, -, hlength, -⟩ := hw.cases
      · exact hw
      · cases hlength
  | succ n ih =>
    apply (h.seq ih).congr
    intro w
    constructor
    · intro h
      obtain ⟨u, _, rfl, hu, us, rfl, rfl, hus⟩ := h
      exact turns_cons hu ⟨us, rfl, rfl, hus⟩
    · intro hw
      obtain ⟨hlength, -⟩ | ⟨u, v, rfl, hu, us, hv, hlength, hus⟩ := hw.cases
      · cases hlength
      · exact ⟨u, v, rfl, hu, us, hv, Nat.succ.inj hlength, hus⟩

/-- At most as many turns as are left. -/
def Few (left : Option Nat) (k : Nat) : Prop := ∀ n, left = some n → k ≤ n

theorem few_zero (left : Option Nat) : Few left 0 := fun _ _ => Nat.zero_le _

theorem few_succ {left : Option Nat} {k : Nat} : Few left (k + 1) ↔ left ≠ some 0 ∧ Few (left.map (· - 1)) k := by
  unfold Few
  cases left with
  | none => simp
  | some n =>
    simp only [Option.some.injEq, forall_eq', Option.map_some, ne_eq]
    omega

section
variable {turns : (fuel : Nat) → (left last : Option Nat) → Matcher}
  (hturn : ∀ fuel left last p rest, (turns (fuel + 1) left last p rest).isSome = true ↔ (rest p).isSome = true ∨
    mayRepeat left last p = true ∧
      (body p fun q => turns fuel (left.map (· - 1)) (some p.offset) q rest).isSome = true)

include hturn

/-- Turns that are taken one by one, whether what follows is asked before or after the next turn. -/
theorem isSome_turns (h : Reads body L) (hL : ¬L []) {fuel : Nat} {left last : Option Nat} {p : Place}
    (hfuel : p.rest.length < fuel) (hlast : last ≠ some p.offset) (rest : Place → Option Place) :
    (turns fuel left last p rest).isSome = true ↔
      ∃ w v, p.rest = w ++ v ∧ Turns L (Few left) w ∧ (rest (p.past w v)).isSome = true := by
  induction fuel generalizing left last p with
  | zero => cases hfuel
  | succ fuel ih =>
    -- The last turn began elsewhere: it moved on. So will the next one, and what is left of the text bounds their number.
    have hmay : mayRepeat left last p = true ↔ left ≠ some 0 := by simp [mayRepeat, hlast]
    have hnext : ∀ u v, p.rest = u ++ v → L u →
        ((turns fuel (left.map (· - 1)) (some p.offset) (p.past u v) rest).isSome = true ↔
          ∃ w x, v = w ++ x ∧ Turns L (Few (left.map (· - 1))) w ∧ (rest ((p.past u v).past w x)).isSome = true) := by
      intro u v hp hu
      have hpos : 0 < u.length := by
        rw [List.length_pos_iff]
        intro hnil
        exact hL (hnil ▸ hu)
      apply ih
      · rw [hp, List.length_append] at hfuel
        change v.length < fuel
        omega
      · rw [Place.offset_past]
        intro heq
        have := Option.some.inj heq
        omega
    rw [hturn, hmay, h]
    constructor
    · intro h
      obtain hrest | ⟨hleft, u, v, hp, hu, hrest⟩ := h
      · exact ⟨[], p.rest, rfl, turns_nil (few_zero left), hrest⟩
      · obtain ⟨w, x, rfl, ⟨us, rfl, hfew, hus⟩, hrest⟩ := (hnext u v hp hu).1 hrest
        rw [Place.past_past] at hrest
        rw [← List.append_assoc] at hp
        exact ⟨_, x, hp, turns_cons hu ⟨us, rfl, few_succ.2 ⟨hleft, hfew⟩, hus⟩, hrest⟩
    · intro h
      obtain ⟨w, x, hp, hw, hrest⟩ := h
      obtain ⟨-, rfl⟩ | ⟨u, v, rfl, hu, us, rfl, hfew, hus⟩ := hw.cases
      · obtain rfl : p.rest = x := hp
        exact .inl hrest
      · rw [List.append_assoc] at hp
        obtain ⟨hleft, hfew⟩ := few_succ.1 hfew
        refine .inr ⟨hleft, u, us.flatten ++ x, hp, hu, (hnext _ _ hp hu).2 ⟨_, x, rfl, ⟨us, rfl, hfew, hus⟩, ?_⟩⟩
        rw [Place.past_past]
        exact hrest

theorem reads_turns (h : Reads body L) (hL : ¬L []) {least : Nat} {most : Option Nat}
    (hmost : ∀ n, most = some n → least ≤ n) :
    Reads (fun p rest => exactly body least p fun q => turns (q.rest.length + 2) (most.map (· - least)) none q rest)
      (Turns L fun k => least ≤ k ∧ Few most k) := by
  have hmore : Reads (fun q rest => turns (q.rest.length + 2) (most.map (· - least)) none q rest)
      (Turns L (Few (most.map (· - least)))) := fun q rest =>
    isSome_turns hturn h hL (by omega) (by simp) rest
  apply ((reads_exactly h least).seq hmore).congr
  have hcount : ∀ k, Few (most.map (· - least)) k ↔ Few most (least + k) := by
    intro k
    unfold Few
    cases most with
    | none => simp
    | some n =>
      have := hmost n rfl
      simp only [Option.map_some, Option.some.injEq, forall_eq']
      omega
  intro w
  constructor
  · intro h
    obtain ⟨_, _, rfl, ⟨us, rfl, rfl, hus⟩, vs, rfl, hfew, hvs⟩ := h
    refine ⟨us ++ vs, List.flatten_append, ?_, fun u hu => ?_⟩
    · rw [List.length_append]
      exact ⟨Nat.le_add_right _ _, (hcount _).1 hfew⟩
    · cases List.mem_append.1 hu with
      | inl hu => exact hus u hu
      | inr hu => exact hvs u hu
  · intro h
    obtain ⟨us, rfl, ⟨hleast, hfew⟩, hus⟩ := h
    refine ⟨(us.take least).flatten, (us.drop least).flatten, ?_, ⟨us.take least, rfl, ?_, fun u hu => ?_⟩,
      us.drop least, rfl, ?_, fun u hu => ?_⟩
    · rw [← List.flatten_append, List.take_append_drop]
    · rw [List.length_take, Nat.min_eq_left hleast]
    · exact hus u (List.mem_of_mem_take hu)
    · rw [hcount, List.length_drop, Nat.add_sub_cancel' hleast]
      exact hfew
    · exact hus u (List.mem_of_mem_drop hu)

end

theorem isSome_greedily (fuel : Nat) (left last : Option Nat) (p : Place) (rest : Place → Option Place) :
    (greedily body (fuel + 1) left last p rest).isSome = true ↔ (rest p).isSome = true ∨ mayRepeat left last p = true ∧
      (body p fun q => greedily body fuel (left.map (· - 1)) (some p.offset) q rest).isSome = true := by
  rw [greedily]
  dsimp only
  by_cases h : mayRepeat left last p = true
  · rw [if_pos h]
    split
    · next hq => simp [hq, h]
    · next hq => simp [hq]
  · rw [if_neg h]
    simp [h]

theorem isSome_lazily (fuel : Nat) (left last : Option Nat) (p : Place) (rest : Place → Option Place) :
    (lazily body (fuel + 1) left last p rest).isSome = true ↔ (rest p).isSome = true ∨ mayRepeat left last p = true ∧
      (body p fun q => lazily body fuel (left.map (· - 1)) (some p.offset) q rest).isSome = true := by
  rw [lazily]
  dsimp only
  split
  · next hq => simp [hq]
  · next hq =>
    by_cases h : mayRepeat left last p = true
    · simp [hq, h]
    · simp [hq, h]

end

/-! ## Nodes -/

namespace Node

/-- The words of a node. Nodes that depend on more than the characters in front of them have none. -/
def Spells (flags : Flags) : Node → List Char → Prop
  | .empty, w => w = []
  | .any, w => ∃ c, w = [c] ∧ (flags.dotAll || c != '\n') = true
  | .set negated items, w => ∃ c, w = [c] ∧ (items.any (Item.contains flags c) != negated) = true
  | .seq a b, w => ∃ u v, w = u ++ v ∧ a.Spells flags u ∧ b.Spells flags v
  | .alt a b, w => a.Spells flags w ∨ b.Spells flags w
  | .repeated _ least most body, w => Turns (body.Spells flags) (fun k => least ≤ k ∧ Few most k) w
  | .flagged on off body, w => body.Spells (flags.within on off) w
  | _, _ => False

/-- The nodes that are told by their words: what is repeated in them has no empty one. -/
def isRegular : Node → Bool
  | .empty | .any | .set .. => true
  | .seq a b | .alt a b => a.isRegular && b.isRegular
  | .repeated mode least most body =>
    mode != .possessive && most.all (least ≤ ·) && 0 < body.width.1 && body.isRegular
  | .flagged _ _ body => body.isRegular
  | _ => false

variable {flags : Flags} {n : Node}

theorem le_length {w : List Char} (h : n.Spells flags w) : n.width.1 ≤ w.length := by
  induction n generalizing flags w with
  | empty => exact Nat.zero_le _
  | any =>
    obtain ⟨c, rfl, -⟩ := h
    exact Nat.le_refl _
  | set =>
    obtain ⟨c, rfl, -⟩ := h
    exact Nat.le_refl _
  | seq a b iha ihb =>
    obtain ⟨u, v, rfl, hu, hv⟩ := h
    rw [List.length_append]
    exact Nat.le_trans (Nat.min_le_left _ _) (Nat.add_le_add (iha hu) (ihb hv))
  | alt a b iha ihb =>
    cases h with
    | inl h => exact Nat.le_trans (Nat.min_le_left _ _) (iha h)
    | inr h => exact Nat.le_trans (Nat.min_le_right _ _) (ihb h)
  | repeated mode least most body ih =>
    obtain ⟨us, rfl, ⟨hleast, -⟩, hus⟩ := h
    have hsum : body.width.1 * us.length ≤ us.flatten.length := by
      clear hleast
      induction us with
      | nil => exact Nat.le_refl _
      | cons u us ihus =>
        obtain ⟨hu, hus⟩ := List.forall_mem_cons.1 hus
        rw [List.flatten_cons, List.length_append, List.length_cons, Nat.mul_succ, Nat.add_comm]
        exact Nat.add_le_add (ih hu) (ihus hus)
    exact Nat.le_trans (Nat.min_le_left _ _) (Nat.le_trans (Nat.mul_le_mul_left _ hleast) hsum)
  | flagged on off body ih => exact @ih (flags.within on off) _ h
  | _ => cases h

/-- The matcher of a regular node finds its words and nothing else. -/
theorem reads (h : n.isRegular = true) : Reads (n.matcher flags) (n.Spells flags) := by
  induction n generalizing flags with
  | empty => exact reads_nothing
  | any => exact reads_step _
  | set => exact reads_step _
  | seq a b iha ihb =>
    obtain ⟨ha, hb⟩ := Bool.and_eq_true_iff.1 h
    exact (iha ha).seq (ihb hb)
  | alt a b iha ihb =>
    obtain ⟨ha, hb⟩ := Bool.and_eq_true_iff.1 h
    refine (iha ha).alt (ihb hb) fun p rest => ?_
    rw [matcher]
    dsimp only
    split
    · next hq => simp [hq]
    · next hq => simp [hq]
  | repeated mode least most body ih =>
    simp only [isRegular, Bool.and_eq_true, bne_iff_ne, decide_eq_true_eq] at h
    obtain ⟨⟨⟨hmode, hmost⟩, hwidth⟩, hbody⟩ := h
    have hnil : ¬body.Spells flags [] := fun hnil => Nat.lt_irrefl _ (Nat.lt_of_lt_of_le hwidth (le_length hnil))
    have hmost : ∀ k, most = some k → least ≤ k := by
      rintro k rfl
      simpa using hmost
    cases mode with
    | greedy => exact reads_turns isSome_greedily (ih hbody) hnil hmost
    | lazy => exact reads_turns isSome_lazily (ih hbody) hnil hmost
    | possessive => exact absurd rfl hmode
  | flagged on off body ih => exact @ih (flags.within on off) h
  | _ => cases h

/-! ## Whole lines -/

theorem matcher_ofList_cons (flags : Flags) (n : Node) (ns : List Node) (p : Place) (rest : Place → Option Place) :
    (ofList (n :: ns)).matcher flags p rest = n.matcher flags p fun q => (ofList ns).matcher flags q rest := by
  cases ns <;> rfl

theorem matcher_ofList_append (flags : Flags) (ns ms : List Node) (p : Place) (rest : Place → Option Place) :
    (ofList (ns ++ ms)).matcher flags p rest =
      (ofList ns).matcher flags p fun q => (ofList ms).matcher flags q rest := by
  induction ns generalizing p with
  | nil => rfl
  | cons n ns ih => simp only [List.cons_append, matcher_ofList_cons, ih]

theorem spells_ofList_cons {flags : Flags} {n : Node} {ns : List Node} {w : List Char} :
    (ofList (n :: ns)).Spells flags w ↔ ∃ u v, w = u ++ v ∧ n.Spells flags u ∧ (ofList ns).Spells flags v := by
  cases ns with
  | cons m ms => exact Iff.rfl
  | nil =>
    constructor
    · intro h
      exact ⟨w, [], (List.append_nil w).symm, h, rfl⟩
    · intro h
      obtain ⟨u, v, rfl, hu, rfl⟩ := h
      rw [List.append_nil]
      exact hu

theorem spells_ofList_append {flags : Flags} {ns ms : List Node} {w : List Char} :
    (ofList (ns ++ ms)).Spells flags w ↔
      ∃ u v, w = u ++ v ∧ (ofList ns).Spells flags u ∧ (ofList ms).Spells flags v := by
  induction ns generalizing w with
  | nil =>
    constructor
    · intro h
      exact ⟨[], w, rfl, rfl, h⟩
    · intro h
      obtain ⟨u, v, rfl, rfl, hv⟩ := h
      exact hv
  | cons n ns ih =>
    rw [List.cons_append, spells_ofList_cons]
    constructor
    · intro h
      obtain ⟨t, v, rfl, ht, hv⟩ := h
      obtain ⟨u, x, rfl, hu, hx⟩ := ih.1 hv
      exact ⟨t ++ u, x, (List.append_assoc ..).symm, spells_ofList_cons.2 ⟨t, u, rfl, ht, hu⟩, hx⟩
    · intro h
      obtain ⟨v, x, rfl, hv, hx⟩ := h
      obtain ⟨t, u, rfl, ht, hu⟩ := spells_ofList_cons.1 hv
      exact ⟨t, u ++ x, List.append_assoc .., ht, ih.2 ⟨u, x, rfl, hu, hx⟩⟩

theorem isRegular_ofList {ns : List Node} (h : ∀ n ∈ ns, n.isRegular = true) : (ofList ns).isRegular = true := by
  induction ns with
  | nil => rfl
  | cons n ns ih =>
    obtain ⟨hn, hns⟩ := List.forall_mem_cons.1 h
    cases ns with
    | nil => exact hn
    | cons m ms => exact Bool.and_eq_true_iff.2 ⟨hn, ih hns⟩

/-- Nodes between the start and the end of a line. -/
def line (ns : List Node) : Node := ofList (.anchor .start :: (ns ++ [.anchor .finish]))

variable {ns : List Node}

theorem isSome_line (h : ∀ n ∈ ns, n.isRegular = true) (p : Place) :
    ((line ns).matcher {} p some).isSome = true ↔ p.before = [] ∧
      ∃ w, (ofList ns).Spells {} w ∧ (p.rest = w ∨ p.rest = w ++ ['\n']) := by
  have hends : ∀ q : Place, ((ofList [.anchor .finish]).matcher {} q some).isSome = true ↔
      q.rest = [] ∨ q.rest = ['\n'] := by
    intro q
    simp [ofList, matcher, Anchor.holds]
  rw [line, matcher_ofList_cons, matcher]
  dsimp only
  by_cases hstart : p.before = []
  · rw [if_pos (by simp [Anchor.holds, hstart]), matcher_ofList_append, reads (isRegular_ofList h), and_iff_right hstart]
    constructor
    · intro hw
      obtain ⟨w, v, hp, hw, hv⟩ := hw
      refine ⟨w, hw, ?_⟩
      rw [hp]
      cases (hends _).1 hv with
      | inl hv => exact .inl (by rw [show v = [] from hv, List.append_nil])
      | inr hv => exact .inr (by rw [show v = ['\n'] from hv])
    · intro hw
      obtain ⟨w, hw, hp | hp⟩ := hw
      · exact ⟨w, [], by rw [hp, List.append_nil], hw, (hends _).2 (.inl rfl)⟩
      · exact ⟨w, ['\n'], hp, hw, (hends _).2 (.inr rfl)⟩
  · rw [if_neg (by simp [Anchor.holds, hstart])]
    simp [hstart]

end Node

/-- A pattern of a whole line occurs in the words of its nodes, with or without a line feed after them. -/
theorem occursIn_line {source : String} {groups : Nat} {ns : List Node} (h : ∀ n ∈ ns, n.isRegular = true)
    (s : List Char) : occursIn ⟨source, {}, groups, .line ns⟩ s = true ↔
      ∃ w, (Node.ofList ns).Spells {} w ∧ (s = w ∨ s = w ++ ['\n']) := by
  have hinside : ∀ before s, before ≠ [] → (Node.line ns).matchesFrom {} before s = false := by
    intro before s hbefore
    have hnone : ∀ before s, before ≠ [] → ((Node.line ns).matcher {} ⟨before, s, []⟩ some).isSome = false := by
      intro before s hbefore
      rw [← Bool.not_eq_true, Node.isSome_line h]
      exact fun hstart => hbefore hstart.1
    induction s generalizing before with
    | nil => exact hnone before [] hbefore
    | cons c s ih =>
      rw [Node.matchesFrom, hnone before _ hbefore, ih (c :: before) (List.cons_ne_nil _ _)]
      rfl
  have hfirst := Node.isSome_line h ⟨[], s, []⟩
  rw [and_iff_right rfl] at hfirst
  rw [← hfirst, occursIn]
  cases s with
  | nil => rfl
  | cons c s =>
    rw [Node.matchesFrom, hinside [c] s (List.cons_ne_nil _ _), Bool.or_false]

end Conformance.Pattern
