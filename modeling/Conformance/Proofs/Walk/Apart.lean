import Conformance.Proofs.Constraint.Distinct
import Conformance.Proofs.Walk.Enumeration
import Conformance.Proofs.Walk.Placed

/-!
# Demands that are apart

No two demands of standard rules on a message have the same path, the same rule and the same side of a map entry, and a
field that is asked to be set has nothing else asked of it or of what it may hold. This is said of the marks of demands,
which are all that tells violations apart but for their texts, and carried from inner messages to outer ones.
-/

namespace Conformance

/-! ## Paths that begin alike -/

theorem Key.same_self (k : Key) : k.same k = true := by
  cases k <;> simp [same, number?]

theorem Key.same_comm (a b : Key) : a.same b = b.same a := by
  cases a <;> cases b <;> simp [same, number?, eq_comm]

theorem PathElement.same_self (e : PathElement) : e.same e = true := by
  cases e with
  | key k => exact k.same_self
  | _ => simp [same]

theorem PathElement.same_comm (a b : PathElement) : a.same b = b.same a := by
  cases a <;> cases b <;> simp [same, eq_comm, Key.same_comm]

namespace Path

/-- The path begins with elements that equal those of the other one. -/
def startsWith : Path → Path → Bool
  | _, [] => true
  | a :: p, b :: q => a.same b && startsWith p q
  | [], _ :: _ => false

theorem startsWith_append (p q r : Path) : startsWith (p ++ q) (p ++ r) = startsWith q r := by
  induction p with
  | nil => rfl
  | cons e p ih => rw [List.cons_append, List.cons_append, startsWith, e.same_self, Bool.true_and, ih]

theorem startsWith_of_same : ∀ {p q : Path}, Path.same p q = true → startsWith p q = true
  | [], [], _ => rfl
  | a :: p, b :: q, h => by
    obtain ⟨he, h⟩ := Bool.and_eq_true_iff.1 h
    rw [startsWith, he, startsWith_of_same h]
    rfl

theorem same_comm : ∀ p q : Path, Path.same p q = Path.same q p
  | [], [] => rfl
  | [], _ :: _ => rfl
  | _ :: _, [] => rfl
  | a :: p, b :: q => by rw [Path.same, Path.same, a.same_comm, same_comm p q]

/-- Paths that part at some element do not begin with one another. -/
theorem startsWith_parted {a b : PathElement} (h : a.same b = false) (p q r : Path) :
    startsWith (p ++ a :: q) (p ++ b :: r) = false := by
  rw [startsWith_append, startsWith, h, Bool.false_and]

theorem startsWith_above (p q : Path) (e : PathElement) : startsWith p (p ++ e :: q) = false := by
  have h := startsWith_append p [] (e :: q)
  rwa [List.append_nil] at h

end Path

/-! ## Marks -/

/-- What tells a violation from others but for its text. -/
structure Mark where
  path : Path
  ruleId : String
  source : Source
  forKey : Bool

def Violation.mark (v : Violation) : Mark := ⟨v.path, v.ruleId, v.source, v.forKey⟩

namespace Mark

/-- The mark of a field that is asked to be set and is not. -/
def IsRequired (a : Mark) : Prop := a.ruleId = "required" ∧ a.source = .standard

/-- Two marks of standard rules differ in the path, the rule or the side of an entry, and where a field is asked to be set
the other path does not begin with that of the field. -/
structure Apart (a b : Mark) : Prop where
  distinct : a.source = .standard → b.source = .standard → Path.same a.path b.path = true → a.ruleId = b.ruleId →
    a.forKey ≠ b.forKey
  below : a.IsRequired → Path.startsWith b.path a.path = false
  above : b.IsRequired → Path.startsWith a.path b.path = false

variable {a b : Mark} {p : Path}

theorem Apart.symm (h : a.Apart b) : b.Apart a where
  distinct hb ha hpath hid hkey := h.distinct ha hb (by rwa [Path.same_comm]) hid.symm hkey.symm
  below := h.above
  above := h.below

/-- Paths that part are apart. -/
theorem Apart.of_parted {e f : PathElement} (h : e.same f = false) (ha : p ++ [e] <+: a.path)
    (hb : p ++ [f] <+: b.path) : a.Apart b := by
  obtain ⟨q, hq⟩ := ha
  obtain ⟨r, hr⟩ := hb
  rw [List.append_assoc, List.singleton_append] at hq hr
  have hab : Path.startsWith a.path b.path = false := by
    rw [← hq, ← hr]
    exact Path.startsWith_parted h p q r
  have hba : Path.startsWith b.path a.path = false := by
    rw [← hq, ← hr]
    exact Path.startsWith_parted (by rwa [PathElement.same_comm]) p r q
  refine ⟨fun _ _ hsame => ?_, fun _ => hba, fun _ => hab⟩
  rw [Path.startsWith_of_same hsame] at hab
  cases hab

/-- What is asked at a place and what is asked further in are apart, unless the former is that the place is set. -/
theorem Apart.of_above (ha : a.path = p) (hrequired : ¬a.IsRequired) (hb : p <+: b.path) (hne : b.path ≠ p) :
    a.Apart b := by
  obtain ⟨q, hq⟩ := hb
  cases q with
  | nil => exact absurd (hq.symm.trans (List.append_nil p)) hne
  | cons e q =>
    have habove : Path.startsWith a.path b.path = false := by
      rw [ha, ← hq]
      exact Path.startsWith_above p q e
    refine ⟨fun _ _ hsame => ?_, fun h => absurd h hrequired, fun _ => habove⟩
    rw [Path.startsWith_of_same hsame] at habove
    cases habove

/-- Where no field is asked to be set, marks of standard rules need only differ. -/
theorem Apart.of_optional (ha : ¬a.IsRequired) (hb : ¬b.IsRequired)
    (h : a.source = .standard → b.source = .standard → a.ruleId = b.ruleId → a.forKey ≠ b.forKey) : a.Apart b :=
  ⟨fun ha hb _ => h ha hb, fun h => absurd h ha, fun h => absurd h hb⟩

/-- Marks of what is asked at a place and further in, each apart from all others, of which those at the place itself are
as told. -/
structure At (p : Path) (own : Mark → Prop) (as : List Mark) : Prop where
  starts : ∀ a ∈ as, p <+: a.path
  own : ∀ a ∈ as, a.path = p → own a
  apart : as.Pairwise Apart

variable {as bs : List Mark} {own other : Mark → Prop}

theorem At.nil : At p own [] := ⟨by simp, by simp, .nil⟩

theorem At.of_eq (h : ∀ a ∈ as, a.path = p ∧ own a) (hapart : as.Pairwise Apart) : At p own as :=
  ⟨fun a ha => (h a ha).1 ▸ List.prefix_rfl, fun a ha _ => (h a ha).2, hapart⟩

theorem At.one {a : Mark} (hp : a.path = p) (ha : own a) : At p own [a] :=
  .of_eq (List.forall_mem_singleton.2 ⟨hp, ha⟩) (List.pairwise_singleton ..)

/-- A check at a place is apart from what is asked from there on if it is from what is asked at the place. -/
theorem At.apart_of_here (h : At p own as) (ha : a.path = p) (hrequired : ¬a.IsRequired)
    (hhere : ∀ b, own b → a.Apart b) : ∀ b ∈ as, a.Apart b := by
  intro b hb
  by_cases hp : b.path = p
  · exact hhere b (h.own b hb hp)
  · exact .of_above ha hrequired (h.starts b hb) hp

theorem At.mono (h : At p own as) (himp : ∀ a, own a → other a) : At p other as :=
  ⟨h.starts, fun a ha hp => himp a (h.own a ha hp), h.apart⟩

theorem At.append (ha : At p own as) (hb : At p own bs) (hcross : ∀ a ∈ as, ∀ b ∈ bs, a.Apart b) :
    At p own (as ++ bs) where
  starts := List.forall_mem_append.2 ⟨ha.starts, hb.starts⟩
  own := List.forall_mem_append.2 ⟨ha.own, hb.own⟩
  apart := List.pairwise_append.2 ⟨ha.apart, hb.apart, hcross⟩

/-- What is asked further in than a place is asked from the place on. -/
theorem At.outer {e : PathElement} (h : At (p ++ [e]) own as) : At p other as := by
  refine ⟨fun a ha => (List.prefix_append p [e]).trans (h.starts a ha), fun a ha hp => ?_, h.apart⟩
  have hlength := (h.starts a ha).length_le
  rw [hp, List.length_append, List.length_singleton] at hlength
  omega

/-- Lists that go on from a place with different elements. -/
theorem At.flatMap {α : Type} {xs : List α} {e : α → PathElement} {f : α → List Mark}
    (h : ∀ x ∈ xs, ∃ own, At (p ++ [e x]) own (f x)) (hparted : xs.Pairwise fun x y => (e x).same (e y) = false) :
    At p other (xs.flatMap f) where
  starts a ha := by
    obtain ⟨x, hx, ha⟩ := List.mem_flatMap.1 ha
    obtain ⟨own, hown⟩ := h x hx
    exact (List.prefix_append p [e x]).trans (hown.starts a ha)
  own a ha := by
    obtain ⟨x, hx, ha⟩ := List.mem_flatMap.1 ha
    obtain ⟨own, hown⟩ := h x hx
    exact hown.outer.own a ha
  apart := by
    refine List.pairwise_flatMap.2 ⟨fun x hx => (h x hx).elim fun _ hown => hown.apart, ?_⟩
    refine hparted.imp_of_mem fun {x y} hx hy hxy a ha b hb => ?_
    obtain ⟨_, hown⟩ := h x hx
    obtain ⟨_, hown'⟩ := h y hy
    exact .of_parted hxy (hown.starts a ha) (hown'.starts b hb)

end Mark

/-! ## Marks of demands -/

namespace Demand

def mark : Demand → Mark
  | field path => ⟨path, "required", .standard, false⟩
  | oneof path => ⟨path, "oneof.required", .standard, false⟩
  | check c _ path forKey => ⟨path, c.ruleId, c.source, forKey⟩

end Demand

def Schema.marks (s : Schema) (type : String) (m : Message) (path : Path) : List Mark :=
  (s.demands type m path).map Demand.mark

def Task.marks (s : Schema) (t : Task) : List Mark := (t.demands s).map Demand.mark

namespace Mark

def IsCustom (a : Mark) : Prop := a.source = .custom

/-- The mark of a check of a value, on the given side of a map entry. -/
structure IsCheck (forKey : Bool) (a : Mark) : Prop where
  optional : ¬a.IsRequired
  side : a.source = .standard → a.forKey = forKey

theorem IsCustom.not_standard {a : Mark} (h : a.IsCustom) : a.source ≠ .standard := by
  rw [h]
  decide

theorem IsCustom.optional {a : Mark} (h : a.IsCustom) : ¬a.IsRequired := fun hr => h.not_standard hr.2

theorem IsCustom.isCheck {a : Mark} (h : a.IsCustom) (forKey : Bool) : a.IsCheck forKey :=
  ⟨h.optional, fun hs => absurd hs h.not_standard⟩

theorem IsCustom.apart {a b : Mark} (ha : a.IsCustom) (hb : ¬b.IsRequired) : a.Apart b :=
  .of_optional ha.optional hb fun hs => absurd hs ha.not_standard

end Mark

/-! ## Checks -/

namespace ValueRules

/-- The standard checks of a value have different identifiers, and none of its checks is taken for the demand that a field
is set. -/
structure Apart (r : ValueRules) : Prop where
  ids : (r.standard.map (·.ruleId)).Nodup
  custom : ∀ c ∈ r.custom, c.source = .custom
  told : ∀ c ∈ r.standard ++ r.custom, c.IsTold

end ValueRules

theorem CustomRule.source_of_mem {rules : List CustomRule} {check : Check} (h : check ∈ rules.filterMap (·.check?)) :
    check.source = .custom := by
  obtain ⟨r, -, hr⟩ := List.mem_filterMap.1 h
  obtain ⟨p, -, rfl⟩ := CustomRule.check?_eq_some hr
  rfl

section
variable {s : Schema} {c : FieldConstraints} {r : ValueRules} {place : String} {type : FieldType}

theorem FieldConstraints.apart_forValue (hc : c.SetsOnce) : (c.forValue s place type).Apart :=
  ⟨FieldConstraints.nodup_standard hc, fun _ => CustomRule.source_of_mem, fun _ => isTold⟩

theorem FieldConstraints.apart_forWhole {kind : Kind} (hc : c.SetsOnce) : (c.forWhole s place kind type).Apart :=
  ⟨FieldConstraints.nodup_standard hc, fun _ => CustomRule.source_of_mem, fun _ => isTold⟩

theorem mem_marks_checks {bound : Except Fault Value} {p : Path} {forKey : Bool} {cs : List Check} {a : Mark}
    (ha : a ∈ (checkTasks bound p forKey cs).flatMap (Task.marks s)) :
    ∃ c ∈ cs, a = ⟨p, c.ruleId, c.source, forKey⟩ := by
  obtain ⟨t, ht, ha⟩ := List.mem_flatMap.1 ha
  cases bound with
  | error f =>
    cases List.mem_singleton.1 ht
    cases ha
  | ok v =>
    obtain ⟨c, hc, rfl⟩ := List.mem_map.1 ht
    exact ⟨c, hc, List.mem_singleton.1 ha⟩

theorem pairwise_marks_checks {bound : Except Fault Value} {p : Path} {forKey : Bool} {cs : List Check}
    (h : cs.Pairwise fun c d => Mark.Apart ⟨p, c.ruleId, c.source, forKey⟩ ⟨p, d.ruleId, d.source, forKey⟩) :
    ((checkTasks bound p forKey cs).flatMap (Task.marks s)).Pairwise Mark.Apart := by
  cases bound with
  | error f => exact .nil
  | ok v =>
    have heq : (checkTasks (.ok v) p forKey cs).flatMap (Task.marks s) =
        cs.map fun c => ⟨p, c.ruleId, c.source, forKey⟩ := by
      rw [checkTasks, List.flatMap_map]
      exact List.flatMap_pure_eq_map _ _
    rw [heq]
    exact List.pairwise_map.2 h

/-- The marks of checks on one value. -/
theorem ValueRules.Apart.checks (hr : r.Apart) (bound : Except Fault Value) (p : Path) (forKey : Bool) :
    (∀ a ∈ (checkTasks bound p forKey (r.standard ++ r.custom)).flatMap (Task.marks s), a.path = p ∧ a.IsCheck forKey) ∧
      ((checkTasks bound p forKey (r.standard ++ r.custom)).flatMap (Task.marks s)).Pairwise Mark.Apart := by
  have hcheck {c : Check} (hc : c ∈ r.standard ++ r.custom) : Mark.IsCheck forKey ⟨p, c.ruleId, c.source, forKey⟩ :=
    ⟨fun hrequired => hr.told c hc hrequired.2 hrequired.1, fun _ => rfl⟩
  have hcustom {c : Check} (hc : c ∈ r.custom) : c.source ≠ .standard := by
    rw [hr.custom c hc]
    decide
  have hpairs : (r.standard ++ r.custom).Pairwise fun c d =>
      c.source = .standard → d.source = .standard → c.ruleId ≠ d.ruleId := by
    refine List.pairwise_append.2 ⟨?_, ?_, fun c _ d hd _ h => absurd h (hcustom hd)⟩
    · exact (List.pairwise_map.1 hr.ids).imp fun hne _ _ => hne
    · exact List.pairwise_of_forall_mem_list fun c hc d _ h => absurd h (hcustom hc)
  constructor
  · intro a ha
    obtain ⟨c, hc, rfl⟩ := mem_marks_checks ha
    exact ⟨rfl, hcheck hc⟩
  · refine pairwise_marks_checks (hpairs.imp_of_mem fun {c d} hc hd hne => ?_)
    exact .of_optional (hcheck hc).optional (hcheck hd).optional fun hs hs' hid => absurd hid (hne hs hs')

/-- The marks of a value: those of its checks, and those of the message inside of it. -/
theorem ValueRules.Apart.value (hr : r.Apart) {d : Datum} {p : Path} {forKey : Bool}
    (hinner : ∀ name inner place, .inner name inner place ∈ r.tasks d p forKey →
      Mark.At place Mark.IsCustom (s.marks name inner place)) :
    Mark.At p (Mark.IsCheck forKey) ((r.tasks d p forKey).flatMap (Task.marks s)) := by
  by_cases hzero : (r.ignoreEmpty && d.isZero) = true
  · rw [tasks, if_pos hzero]
    exact .nil
  · have hnested : Mark.At p Mark.IsCustom ((innerTasks r.nested d p).flatMap (Task.marks s)) := by
      unfold innerTasks
      split
      · next name inner hname =>
        rw [List.flatMap_singleton]
        exact hinner name inner p (inner_mem_valueTasks.2 ⟨by simpa using hzero, hname, rfl, rfl⟩)
      · exact .nil
    have hbelow : Mark.At p (Mark.IsCheck forKey) ((innerTasks r.nested d p).flatMap (Task.marks s)) :=
      hnested.mono fun a ha => ha.isCheck forKey
    rw [tasks, if_neg hzero, List.flatMap_append]
    split
    · exact hbelow
    · obtain ⟨hchecks, hapart⟩ := hr.checks (s := s) (if r.isWrapper then d.unwrapped else d).bound p forKey
      refine (Mark.At.of_eq hchecks hapart).append hbelow fun a ha => ?_
      obtain ⟨hpath, hcheck⟩ := hchecks a ha
      exact hnested.apart_of_here hpath hcheck.optional fun b hb => (hb.apart hcheck.optional).symm

/-! ## Members of collections -/

/-- Marks of checks at a place with those of its members, which are further in. -/
theorem Mark.At.whole {p : Path} {as bs : List Mark} (has : ∀ a ∈ as, a.path = p ∧ a.IsCheck false)
    (hapart : as.Pairwise Mark.Apart) (hbs : Mark.At p (fun _ => False) bs) :
    Mark.At p (Mark.IsCheck false) (as ++ bs) := by
  refine (Mark.At.of_eq has hapart).append (hbs.mono fun _ h => h.elim) fun a ha => ?_
  obtain ⟨hpath, hcheck⟩ := has a ha
  exact hbs.apart_of_here hpath hcheck.optional fun _ h => h.elim

theorem itemTasks_eq (r : ValueRules) (p : Path) (i : Nat) (ds : List Datum) : itemTasks r p i ds =
    (ds.zipIdx i).flatMap fun e => r.tasks e.1 (p ++ [.index (e.2 : Nat)]) false := by
  induction ds generalizing i with
  | nil => rfl
  | cons d ds ih =>
    rw [itemTasks, ih, List.zipIdx_cons, List.flatMap_cons]

theorem ValueRules.Apart.items (hr : r.Apart) {p : Path} {ds : List Datum}
    (hinner : ∀ name inner place, .inner name inner place ∈ itemTasks r p 0 ds →
      Mark.At place Mark.IsCustom (s.marks name inner place)) :
    Mark.At p (fun _ => False) ((itemTasks r p 0 ds).flatMap (Task.marks s)) := by
  rw [itemTasks_eq] at hinner ⊢
  rw [List.flatMap_assoc]
  refine Mark.At.flatMap (e := fun x => .index (x.2 : Nat)) (fun x hx => ⟨_, hr.value fun name inner place h => ?_⟩) ?_
  · exact hinner name inner place (List.mem_flatMap.2 ⟨x, hx, h⟩)
  · have hplaces : ((ds.zipIdx 0).map (·.2)).Pairwise (· < ·) := by
      rw [List.zipIdx_map_snd]
      exact List.pairwise_lt_range'
    refine (List.pairwise_map.1 hplaces).imp fun hlt => ?_
    exact beq_eq_false_iff_ne.2 fun heq => Nat.ne_of_lt hlt (Int.ofNat.inj heq)

/-- The keys of different entries are not equal. -/
def Content.partsKeys : Content → Bool
  | .entries es => decide (es.Pairwise fun a b => (Key.ofDatum a.1).same (Key.ofDatum b.1) = false)
  | _ => true

def Message.partsKeys (m : Message) : Bool := m.fields.all (·.2.partsKeys)

theorem Message.pairwise_entries {m : Message} (h : m.partsKeys = true) (name : String) :
    (m.entries name).Pairwise fun a b => (Key.ofDatum a.1).same (Key.ofDatum b.1) = false := by
  unfold entries
  split
  · next es hc =>
    have hes : (Content.entries es).partsKeys = true := List.all_eq_true.1 h _ (mem_of_lookup hc)
    exact of_decide_eq_true hes
  · exact .nil

theorem pairwise_inKeyOrder_parted {es : List (Datum × Datum)}
    (h : es.Pairwise fun a b => (Key.ofDatum a.1).same (Key.ofDatum b.1) = false) :
    (inKeyOrder es).Pairwise fun a b => (Key.ofDatum a.1).same (Key.ofDatum b.1) = false :=
  ((inKeyOrder_perm es).pairwise_iff fun {a b} hab => by rwa [Key.same_comm]).2 h

/-- Of a value without a message inside of it there are the marks of its checks alone. -/
theorem ValueRules.Apart.plain (hr : r.Apart) (hnested : r.nested = none) (d : Datum) (p : Path) (forKey : Bool) :
    (∀ a ∈ (r.tasks d p forKey).flatMap (Task.marks s), a.path = p ∧ a.IsCheck forKey) ∧
      ((r.tasks d p forKey).flatMap (Task.marks s)).Pairwise Mark.Apart := by
  have hnone : innerTasks r.nested d p = [] := by rw [hnested]; rfl
  unfold tasks
  rw [hnone, List.append_nil]
  split
  · exact ⟨by simp, .nil⟩
  · split
    · exact ⟨by simp, .nil⟩
    · exact hr.checks _ p forKey

/-- The marks of an entry: those of its key are told from those of its value by their side. -/
theorem ValueRules.Apart.entry {keys values : ValueRules} (hk : keys.Apart) (hv : values.Apart) {p : Path}
    {e : Datum × Datum} (hnested : keys.nested = none)
    (hinner : ∀ name inner place, .inner name inner place ∈ entryTasks keys values p e →
      Mark.At place Mark.IsCustom (s.marks name inner place)) :
    Mark.At (p ++ [.key (.ofDatum e.1)]) (fun a => ¬a.IsRequired)
      ((entryTasks keys values p e).flatMap (Task.marks s)) := by
  rw [entryTasks, List.flatMap_append]
  obtain ⟨hkeys, hapart⟩ := hk.plain (s := s) hnested e.1 (p ++ [.key (.ofDatum e.1)]) true
  have hvalues : Mark.At (p ++ [.key (.ofDatum e.1)]) (Mark.IsCheck false)
      ((values.tasks e.2 (p ++ [.key (.ofDatum e.1)]) false).flatMap (Task.marks s)) :=
    hv.value fun name inner place h => hinner name inner place (List.mem_append_right _ h)
  have hboth := (Mark.At.of_eq hkeys hapart).mono fun _ h => h.optional
  refine hboth.append (hvalues.mono fun _ h => h.optional) fun a ha => ?_
  obtain ⟨hpath, hkey⟩ := hkeys a ha
  refine hvalues.apart_of_here hpath hkey.optional fun b hb => .of_optional hkey.optional hb.optional fun hs hs' _ => ?_
  rw [hkey.side hs, hb.side hs']
  decide

theorem ValueRules.Apart.entries {keys values : ValueRules} (hk : keys.Apart) (hv : values.Apart) {p : Path}
    {es : List (Datum × Datum)} (hnested : keys.nested = none)
    (hes : es.Pairwise fun a b => (Key.ofDatum a.1).same (Key.ofDatum b.1) = false)
    (hinner : ∀ name inner place, .inner name inner place ∈ es.flatMap (entryTasks keys values p) →
      Mark.At place Mark.IsCustom (s.marks name inner place)) :
    Mark.At p (fun _ => False) ((es.flatMap (entryTasks keys values p)).flatMap (Task.marks s)) := by
  rw [List.flatMap_assoc]
  refine Mark.At.flatMap (e := fun x : Datum × Datum => .key (.ofDatum x.1))
    (fun x hx => ⟨_, hk.entry hv hnested fun name inner place h => ?_⟩) hes
  exact hinner name inner place (List.mem_flatMap.2 ⟨x, hx, h⟩)

end

/-! ## Fields and messages -/

/-- No rule is set twice for a field, its elements, its keys or its values. -/
structure Field.SetsOnce (f : Field) : Prop where
  own : (f.constraints.getD {}).SetsOnce
  items : ((f.constraints.getD {}).items.getD {}).SetsOnce
  keys : ((f.constraints.getD {}).keys.getD {}).SetsOnce
  values : ((f.constraints.getD {}).values.getD {}).SetsOnce

/-- Fields and oneofs have different names, and no rule is set twice. -/
structure MessageType.Parts (t : MessageType) : Prop where
  names : (t.fields.map (·.name) ++ t.oneofs.map (·.name)).Nodup
  rules : ∀ f ∈ t.fields, f.SetsOnce

def Schema.Parts (s : Schema) : Prop := ∀ t ∈ s.messages, t.Parts

section
variable {s : Schema} {t : MessageType} {f : Field} {m : Message} {path : Path}

theorem Field.at_held (hf : f.SetsOnce) (hm : m.partsKeys = true)
    (hinner : ∀ name inner place, .inner name inner place ∈ (f.rules s t).heldTasks m path →
      Mark.At place Mark.IsCustom (s.marks name inner place)) :
    Mark.At path (Mark.IsCheck false) (((f.rules s t).heldTasks m path).flatMap (Task.marks s)) := by
  unfold Field.rules FieldRules.heldTasks at *
  cases hs : f.shape with
  | singular =>
    simp only [hs] at hinner ⊢
    exact (FieldConstraints.apart_forValue hf.own).value hinner
  | «repeated» =>
    simp only [hs] at hinner ⊢
    rw [List.flatMap_append]
    obtain ⟨hwhole, hapart⟩ := (FieldConstraints.apart_forWhole hf.own).checks _ path false
    refine .whole hwhole hapart ((FieldConstraints.apart_forValue hf.items).items fun name inner place h => ?_)
    exact hinner name inner place (List.mem_append_right _ h)
  | map key =>
    simp only [hs] at hinner ⊢
    rw [List.flatMap_append]
    obtain ⟨hwhole, hapart⟩ := (FieldConstraints.apart_forWhole hf.own).checks _ path false
    refine .whole hwhole hapart ((FieldConstraints.apart_forValue hf.keys).entries
      (FieldConstraints.apart_forValue hf.values) rfl (pairwise_inKeyOrder_parted (m.pairwise_entries hm f.name))
      fun name inner place h => ?_)
    exact hinner name inner place (List.mem_append_right _ h)

/-- A field is asked to be set, and then nothing else is asked of it, or what it holds is asked for. -/
theorem FieldRules.tasks_cases (r : FieldRules) (m : Message) (path : Path) :
    r.tasks m path = [] ∨ r.tasks m path = [.demand (.field (path ++ [.field r.field.name]))] ∨
      r.tasks m path = r.heldTasks m (path ++ [.field r.field.name]) := by
  unfold tasks
  dsimp only
  split
  · exact .inr (.inr rfl)
  · split
    · exact .inr (.inl rfl)
    · split
      · exact .inl rfl
      · exact .inr (.inr rfl)

theorem Field.at_tasks (hf : f.SetsOnce) (hm : m.partsKeys = true)
    (hinner : ∀ name inner place, .inner name inner place ∈ (f.rules s t).tasks m path →
      Mark.At place Mark.IsCustom (s.marks name inner place)) :
    Mark.At (path ++ [.field f.name]) (fun _ => True) (((f.rules s t).tasks m path).flatMap (Task.marks s)) := by
  obtain htasks | htasks | htasks := (f.rules s t).tasks_cases m path
  · rw [htasks]
    exact .nil
  · rw [htasks, f.rules_field, List.flatMap_singleton]
    exact .one rfl trivial
  · rw [f.rules_field] at htasks
    rw [htasks] at hinner ⊢
    exact (Field.at_held hf hm hinner).mono fun _ _ => trivial

theorem OneofRule.at_tasks (o : OneofRule) : Mark.At (path ++ [.field o.name]) (fun _ => True)
    ((o.tasks t m path).flatMap (Task.marks s)) := by
  unfold tasks
  split
  · rw [List.flatMap_singleton]
    exact .one rfl trivial
  · exact .nil

theorem MessageType.Parts.nodup_fields (ht : t.Parts) : (t.fields.map (·.name)).Nodup :=
  (List.nodup_append.1 ht.names).1

/-- Those oneofs that must be set are some of those of the type. -/
theorem MessageType.sublist_oneofRules (t : MessageType) :
    ((Compile.oneofRules t).map (·.name)).Sublist (t.oneofs.map (·.name)) := by
  unfold Compile.oneofRules
  rw [List.map_map]
  exact List.filter_sublist.map _

theorem PathElement.parted_of_nodup {α : Type} {xs : List α} {name : α → String} (h : (xs.map name).Nodup) :
    xs.Pairwise fun x y => (field (name x)).same (field (name y)) = false := by
  rw [List.nodup_iff_pairwise_ne, List.pairwise_map] at h
  exact h.imp fun hne => beq_eq_false_iff_ne.2 hne

/-- What is asked of fields and what is asked of oneofs. -/
theorem MessageType.at_members (ht : t.Parts) (hm : m.partsKeys = true)
    (hinner : ∀ f ∈ t.fields, ∀ name inner place, .inner name inner place ∈ (f.rules s t).tasks m path →
      Mark.At place Mark.IsCustom (s.marks name inner place)) :
    Mark.At path (fun _ => False) ((t.fields.flatMap fun f => ((f.rules s t).tasks m path).flatMap (Task.marks s)) ++
      (Compile.oneofRules t).flatMap fun o => (o.tasks t m path).flatMap (Task.marks s)) := by
  have hfield {f : Field} (hf : f ∈ t.fields) : Mark.At (path ++ [.field f.name]) (fun _ => True)
      (((f.rules s t).tasks m path).flatMap (Task.marks s)) := Field.at_tasks (ht.rules f hf) hm (hinner f hf)
  have hnames : ((Compile.oneofRules t).map (·.name)).Nodup :=
    (List.nodup_append.1 ht.names).2.1.sublist t.sublist_oneofRules
  refine .append (Mark.At.flatMap (fun f hf => ⟨_, hfield hf⟩) (PathElement.parted_of_nodup ht.nodup_fields))
    (Mark.At.flatMap (fun o _ => ⟨_, o.at_tasks⟩) (PathElement.parted_of_nodup hnames)) fun a ha b hb => ?_
  obtain ⟨f, hf, ha⟩ := List.mem_flatMap.1 ha
  obtain ⟨o, ho, hb⟩ := List.mem_flatMap.1 hb
  refine Mark.Apart.of_parted ?_ ((hfield hf).starts a ha) (o.at_tasks.starts b hb)
  -- Fields and oneofs share one scope.
  have hname := t.sublist_oneofRules.subset (List.mem_map_of_mem ho)
  exact beq_eq_false_iff_ne.2 ((List.nodup_append.1 ht.names).2.2 _ (List.mem_map_of_mem hf) _ hname)

/-- The marks of a message: at its own place there are but those of its custom rules. -/
theorem MessageType.at_tasks (ht : t.Parts) (hm : m.partsKeys = true)
    (hinner : ∀ name inner place, .inner name inner place ∈ (t.rules s).tasks t m path →
      Mark.At place Mark.IsCustom (s.marks name inner place)) :
    Mark.At path Mark.IsCustom (((t.rules s).tasks t m path).flatMap (Task.marks s)) := by
  by_cases hdisabled : (t.rules s).disabled = true
  · have hnone : (t.rules s).tasks t m path = [] := MessageType.tasks_of_disabled hdisabled
    rw [hnone]
    exact .nil
  · rw [rules_disabled] at hdisabled
    rw [rules, if_neg hdisabled] at hinner ⊢
    simp only [TypeRules.tasks, List.flatMap_append, List.flatMap_map, List.flatMap_assoc] at hinner ⊢
    have hmembers := at_members ht hm fun f hf name inner place h =>
      hinner name inner place (List.mem_append_left _ (List.mem_append_left _ (List.mem_flatMap.2 ⟨f, hf, h⟩)))
    have hcustom : ∀ a ∈ (checkTasks (.ok (.message m)) path false
        (((t.constraints.map (·.custom)).getD []).filterMap (·.check?))).flatMap (Task.marks s),
        a.path = path ∧ a.IsCustom := by
      intro a ha
      obtain ⟨c, hc, rfl⟩ := mem_marks_checks ha
      exact ⟨rfl, CustomRule.source_of_mem hc⟩
    refine .append (hmembers.mono fun _ h => h.elim) (.of_eq hcustom ?_) fun a ha b hb => ?_
    · exact List.pairwise_of_forall_mem_list fun a ha b hb => (hcustom a ha).2.apart (hcustom b hb).2.optional
    · obtain ⟨hpath, hb⟩ := hcustom b hb
      exact (hmembers.apart_of_here hpath hb.optional (fun _ h => h.elim) a ha).symm

end

/-! ## Messages inside of messages -/

theorem Schema.parts_known : ∀ t ∈ knownTypes, t.Parts := by
  have hplain (name : String) (fields : List Field) (hnames : (fields.map (·.name)).Nodup)
      (hfree : ∀ f ∈ fields, f.constraints = none) : (plainType name fields).Parts := by
    refine ⟨by simpa [plainType] using hnames, fun f hf => ?_⟩
    rw [plainType] at hf
    have hnone : f.constraints.getD {} = {} := by
      rw [hfree f hf]
      rfl
    have hfree : ({} : FieldConstraints).SetsOnce := fun t ht => by cases ht
    constructor
    all_goals
      rw [hnone]
      exact hfree
  intro t ht
  rcases List.mem_append.1 ht with ht | ht
  · simp only [List.mem_cons, List.not_mem_nil, or_false] at ht
    rcases ht with rfl | rfl | rfl
    all_goals exact hplain _ _ (by decide) (by simp [plainField])
  · obtain ⟨⟨name, type⟩, -, rfl⟩ := List.mem_map.1 ht
    exact hplain _ _ (by simp) (by simp [plainField])

theorem Schema.Parts.messageType {s : Schema} (hs : s.Parts) (name : String) : (s.messageType name).Parts := by
  unfold Schema.messageType Schema.message?
  cases ht : s.types.find? (·.name == name) with
  | none => exact ⟨List.nodup_nil, fun f hf => absurd hf List.not_mem_nil⟩
  | some t =>
    rcases List.mem_append.1 (List.mem_of_find?_eq_some ht) with hmem | hmem
    · exact hs t hmem
    · exact Schema.parts_known t hmem

end Conformance
