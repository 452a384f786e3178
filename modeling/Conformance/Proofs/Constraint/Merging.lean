import Mathlib.Data.List.Forall2
import Mathlib.Data.List.Nodup
import Conformance.Proofs.Rule.Comparison

/-!
# Bounds that merge

Where a lower and an upper bound are both active, one check of the range takes the place of the lower one, and the
upper one has no check of its own. A value passes the check of the range as it passes those of the bounds: both of
them, or one of them where the upper bound is less than the lower one.
-/

namespace Conformance

open Rule

/-! ## Messages of rules -/

/-- A message of typed rules of a kind with bounds. It lists each field once, in whatever order. -/
structure Layout.IsRules (kind : String) (p : Message) : Prop where
  ranges : hasRanges kind = true
  type : p.type = Layout.parametersName kind
  conforms : p.Conforms Layout.schema
  distinct : (p.fields.map (·.1)).Nodup

/-- The message sets the parameter of the rule; a flag it sets to true. -/
def Rule.IsActive (p : Message) (r : Rule) (v : Value) : Prop :=
  ∃ c, (r.name, c) ∈ p.fields ∧ Compile.parameter c = .ok v ∧ (r.flag = true → v.truth = true)

namespace Rule

def rangeKinds : List String := numericKinds ++ ["duration", "timestamp"]

theorem mem_rangeKinds {kind : String} : kind ∈ rangeKinds ↔ hasRanges kind = true := by
  simp [rangeKinds, hasRanges, or_assoc]

theorem standard_find : ∀ r ∈ standard, standard? r.kind r.name = some r := by
  decide +kernel

theorem rangeKinds_numbers : ∀ kind ∈ rangeKinds, ∀ f ∈ (Layout.parametersType kind).fields,
    ∀ g ∈ (Layout.parametersType kind).fields, f.number = g.number → f.name = g.name := by
  decide

theorem numericKinds_scalar : ∀ kind ∈ numericKinds, ∀ f ∈ (Layout.parametersType kind).fields,
    f.type.isMessage = false := by
  decide

theorem rangeKinds_unbounded : ∀ kind ∈ rangeKinds, lengthBounds kind = [] := by
  decide

end Rule

open Compile

theorem MessageType.field?_eq_some {t : MessageType} {n : String} {f : Field} (h : t.field? n = some f) :
    f ∈ t.fields ∧ f.name = n := by
  have hname := List.find?_some h
  exact ⟨List.mem_of_find?_eq_some h, by simpa using hname⟩

theorem MessageType.numberOf_eq {t : MessageType} {n : String} {f : Field} (h : t.field? n = some f) :
    t.numberOf n = f.number := by
  rw [numberOf, h]
  rfl

namespace Layout.IsRules

variable {kind : String} {p : Message} {d : Domain}

theorem declared (hp : IsRules kind p) : (TypedRules.ofParameters kind p).Declared := .ofParameters hp.type hp.conforms

theorem settings_perm (kind : String) (p : Message) : (TypedRules.ofParameters kind p).settings.Perm p.fields :=
  MessageType.inNumberOrder_perm

/-- The settings stand in strict order: no two fields have one number. -/
theorem settings_sorted (hp : IsRules kind p) : (TypedRules.ofParameters kind p).settings.Pairwise fun a b =>
    (parametersType kind).numberOf a.1 < (parametersType kind).numberOf b.1 := by
  have hle : (TypedRules.ofParameters kind p).settings.Pairwise fun a b =>
      (parametersType kind).numberOf a.1 ≤ (parametersType kind).numberOf b.1 := by
    rw [parametersType, ← hp.type]
    exact MessageType.pairwise_inNumberOrder
  have hne : (TypedRules.ofParameters kind p).settings.Pairwise fun a b => a.1 ≠ b.1 :=
    List.pairwise_map.1 (((settings_perm kind p).map Prod.fst).nodup_iff.2 hp.distinct)
  refine (hle.and hne).imp_of_mem fun {a b} ha hb hab => lt_of_le_of_ne hab.1 fun heq => hab.2 ?_
  obtain ⟨f, hf, -⟩ := hp.declared a ha
  obtain ⟨g, hg, -⟩ := hp.declared b hb
  have hnumber : f.number = g.number :=
    (MessageType.numberOf_eq hf).symm.trans (heq.trans (MessageType.numberOf_eq hg))
  obtain ⟨hmemf, hnamef⟩ := MessageType.field?_eq_some hf
  obtain ⟨hmemg, hnameg⟩ := MessageType.field?_eq_some hg
  rw [← hnamef, ← hnameg]
  exact rangeKinds_numbers kind (mem_rangeKinds.2 hp.ranges) f hmemf g hmemg hnumber

theorem mem_active (hp : IsRules kind p) {r : Rule} {v : Value} :
    ⟨r, v⟩ ∈ (TypedRules.ofParameters kind p).active ↔ r ∈ standard ∧ r.kind = kind ∧ r.IsActive p v := by
  have hactive (n : String) (c : Content) : active? kind (n, c) = some ⟨r, v⟩ ↔
      standard? kind n = some r ∧ parameter c = .ok v ∧ (r.flag = true → v.truth = true) := by
    unfold active?
    dsimp only
    constructor
    · intro h
      split at h
      · next r' v' hr hv =>
        split at h
        · cases h
        · next hflag =>
          cases h
          exact ⟨hr, hv, by simpa using hflag⟩
      · cases h
    · rintro ⟨hr, hv, hflag⟩
      rw [hr, hv]
      exact if_neg (by simpa using hflag)
  constructor
  · intro h
    obtain ⟨⟨n, c⟩, he, ha⟩ := List.mem_filterMap.1 h
    obtain ⟨hr, hv, hflag⟩ := (hactive n c).1 ha
    obtain ⟨hmem, hkind, rfl⟩ := standard?_eq_some hr
    exact ⟨hmem, hkind, c, (settings_perm kind p).mem_iff.1 he, hv, hflag⟩
  · rintro ⟨hmem, rfl, c, hc, hv, hflag⟩
    exact List.mem_filterMap.2 ⟨_, (settings_perm _ p).mem_iff.2 hc, (hactive _ c).2 ⟨standard_find r hmem, hv, hflag⟩⟩

end Layout.IsRules

/-! ## Merging -/

namespace Rule

def Lower.test : Lower → Test
  | gt => .gt
  | gte => .gte

def Upper.test : Upper → Test
  | lt => .lt
  | lte => .lte

theorem Lower.mem_comparisons (lower : Lower) : (lower.name, lower.test) ∈ comparisons := by
  cases lower <;> decide

theorem Upper.mem_comparisons (upper : Upper) : (upper.name, upper.test) ∈ comparisons := by
  cases upper <;> decide

theorem Lower.name_ne (lower : Lower) (upper : Upper) : lower.name ≠ upper.name := by
  cases lower <;> cases upper <;> decide

theorem Lower.holds_eq (lower : Lower) (v low : Value) : lower.test.holds v low = v.related lower.relation low := by
  cases lower <;> rfl

theorem Upper.holds_eq (upper : Upper) (v high : Value) : upper.test.holds v high = v.related upper.relation high := by
  cases upper <;> rfl

end Rule

namespace Compile

section
variable {s : Schema} {place kind : String} {type : FieldType} {rules : List Active} {singles : List Check}
  {lower : Lower} {upper : Upper} {low high v now : Value} {range : Check} {d : Domain}

/-- The checks of rules that are each compiled by themselves. -/
def Singles (s : Schema) (place : String) (type : FieldType) : List Active → List Check → Prop :=
  List.Forall₂ fun a c => (standardCheck s place type a).outcome = .ok c

/-- The check of the range in the place of that of the lower bound, and none for the upper one. -/
def merge (lower : Lower) (upper : Upper) (range : Check) (rules : List Active) (singles : List Check) : List Check :=
  (rules.zip singles).filterMap fun (a, c) =>
    if a.rule.name == lower.name then some range else if a.rule.name == upper.name then none else some c

section
variable {a : Active} {c : Check}

theorem merge_lower (h : a.rule.name = lower.name) :
    merge lower upper range (a :: rules) (c :: singles) = range :: merge lower upper range rules singles := by
  simp [merge, h]

theorem merge_upper (h : a.rule.name = upper.name) :
    merge lower upper range (a :: rules) (c :: singles) = merge lower upper range rules singles := by
  simp [merge, h, (lower.name_ne upper).symm]

theorem merge_other (hl : a.rule.name ≠ lower.name) (hu : a.rule.name ≠ upper.name) :
    merge lower upper range (a :: rules) (c :: singles) = c :: merge lower upper range rules singles := by
  simp [merge, hl, hu]

end

theorem exists_singles (h : ∀ a ∈ rules, ∃ c, (standardCheck s place type a).outcome = .ok c) :
    ∃ singles, Singles s place type rules singles := by
  induction rules with
  | nil => exact ⟨[], .nil⟩
  | cons a rules ih =>
    obtain ⟨c, hc⟩ := h a List.mem_cons_self
    obtain ⟨singles, hsingles⟩ := ih fun b hb => h b (List.mem_cons_of_mem _ hb)
    exact ⟨c :: singles, .cons hc hsingles⟩

theorem standardChecks_singles (h : Singles s place type rules singles) :
    (standardChecks s place kind type none rules).outcome = .ok singles := by
  induction h with
  | nil => rfl
  | cons hc _ ih => exact standardChecks_cons.2 (.inl ⟨List.not_mem_nil, _, _, hc, ih, rfl⟩)

theorem standardChecks_merge (h : Singles s place type rules singles)
    (hrange : rangeCheck kind lower upper low high = .ok range) :
    (standardChecks s place kind type (some ((lower, low), (upper, high))) rules).outcome =
      .ok (merge lower upper range rules singles) := by
  induction h with
  | nil => rfl
  | @cons a c rules singles hc _ ih =>
    refine standardChecks_cons.2 ?_
    by_cases hl : a.rule.name = lower.name
    · exact .inr ⟨_, _, _, _, rfl, .inl ⟨hl, range, _, hrange, ih, merge_lower hl⟩⟩
    · by_cases hu : a.rule.name = upper.name
      · exact .inr ⟨_, _, _, _, rfl, .inr ⟨hl, hu, by rw [merge_upper hu]; exact ih⟩⟩
      · exact .inl ⟨by simp [endNames, hl, hu], c, _, hc, ih, merge_other hl hu⟩

theorem length_merge (h : rules.length = singles.length) :
    (merge lower upper range rules singles).length + rules.countP (·.rule.name == upper.name) = rules.length := by
  induction rules generalizing singles with
  | nil => rfl
  | cons a rules ih =>
    obtain _ | ⟨c, singles⟩ := singles
    · cases h
    have hrest := ih (Nat.succ.inj h)
    by_cases hl : a.rule.name = lower.name
    · have hu : a.rule.name ≠ upper.name := hl ▸ lower.name_ne upper
      rw [merge_lower hl, List.countP_cons_of_neg (by simpa using hu), List.length_cons, List.length_cons]
      omega
    · by_cases hu : a.rule.name = upper.name
      · rw [merge_upper hu, List.countP_cons_of_pos (by simpa using hu), List.length_cons]
        omega
      · rw [merge_other hl hu, List.countP_cons_of_neg (by simpa using hu), List.length_cons, List.length_cons]
        omega

/-- Between its bounds or outside of them: the check of a range asks for both bounds, or else for one of them. -/
theorem rangeCheck_passes (hd : d.isOrdered = true) (hl : d.Holds low) (hh : d.Holds high) (hv : d.Holds v)
    (hrange : rangeCheck kind lower upper low high = .ok range) :
    ∃ outside, high.related .lt low = .ok outside ∧ (range.Passes s v now ↔
      if outside then lower.test.holds v low = .ok true ∨ upper.test.holds v high = .ok true
      else lower.test.holds v low = .ok true ∧ upper.test.holds v high = .ok true) := by
  obtain ⟨name, message, outside, houtside, rfl⟩ := rangeCheck_eq_ok hrange
  obtain ⟨above, habove⟩ := hv.related_ok hl hd lower.relation
  obtain ⟨below, hbelow⟩ := hv.related_ok hh hd upper.relation
  have hpair : Rule.pair (.tuple [low, high]) = .ok (low, high) := rfl
  refine ⟨outside, houtside, ?_⟩
  rw [Check.passes_test, lower.holds_eq, upper.holds_eq, habove, hbelow]
  simp only [Test.holds, hpair, habove, hbelow, bind, Except.bind, pure, Except.pure]
  cases outside <;> cases above <;> simp

end

/-! ## Parameters of numbers -/

section
variable {f : Field} {c : Content}

theorem everywhere_of_admits {q : Message → Bool} {t : FieldType} {e : Datum} (ht : t.isMessage = false)
    (h : t.admits e = true) : e.everywhere q = true := by
  cases e with
  | message m => cases t <;> cases ht <;> cases h
  | _ => rfl

theorem parameter_ok_of_admits (hf : f.type.isMessage = false) (h : f.admits c = true) : ∃ v, parameter c = .ok v := by
  refine parameter_ok ?_
  cases c with
  | single e =>
    simp only [Field.admits, Bool.and_eq_true] at h
    exact everywhere_of_admits hf h.2
  | «repeated» es =>
    simp only [Field.admits, Bool.and_eq_true, List.all_eq_true] at h
    exact allEverywhere_iff.2 fun e he => everywhere_of_admits hf (h.2 e he)
  | entries es =>
    cases hs : f.shape with
    | map key =>
      simp only [Field.admits, hs, List.all_eq_true, Bool.and_eq_true] at h
      have hkey (e : Datum) (he : key.admits e = true) : e.everywhere (·.isBound) = true :=
        everywhere_of_admits (t := .scalar key) rfl he
      exact entriesEverywhere_iff.2 fun e he => ⟨hkey e.1 (h e he).1, everywhere_of_admits hf (h e he).2⟩
    | _ => simp [Field.admits, hs] at h

end
end Compile

/-! ## The checks of a message of rules -/

namespace TypedRules

def IsSingle (t : TypedRules) (singles : List Check) (name : String) (v : Value) (c : Check) : Prop :=
  ∃ a, (a, c) ∈ t.active.zip singles ∧ a.rule.name = name ∧ a.param = v

/-- What becomes of typed rules with values of a domain, where each rule has the check of `singles` by itself. -/
structure Merged (s : Schema) (place : String) (type : FieldType) (t : TypedRules) (d : Domain)
    (singles cs : List Check) : Prop where
  compiled : Singles s place type t.active singles
  apart : lowerBound? t.active = none ∨ upperBound? t.active = none → cs = singles
  together : ∀ lower low upper high, lowerBound? t.active = some (lower, low) →
    upperBound? t.active = some (upper, high) → ∃ range outside l u,
      t.IsSingle singles lower.name low l ∧ t.IsSingle singles upper.name high u ∧
      rangeCheck t.kind lower upper low high = .ok range ∧ cs = merge lower upper range t.active singles ∧
      cs.length + 1 = singles.length ∧ high.related .lt low = .ok outside ∧ ∀ v now, d.Holds v → (range.Passes s v now ↔
        if outside then l.Passes s v now ∨ u.Passes s v now else l.Passes s v now ∧ u.Passes s v now)

variable {s : Schema} {place : String} {type : FieldType} {t : TypedRules} {d : Domain} {singles cs : List Check}

theorem exists_singles (ht : t.Declared) (hk : hasRanges t.kind = true) (hd : kindDomain t.kind = some d) :
    ∃ singles, Singles s place type t.active singles := by
  exact Compile.exists_singles fun a ha => exists_standardCheck (ht.fits ha) hk hd

theorem exists_isSingle (hsingles : Singles s place type t.active singles) {name : String} {v : Value}
    (h : paramOf? t.active name = some v) : ∃ c, t.IsSingle singles name v c := by
  obtain ⟨a, ha, hname, hparam⟩ := mem_of_paramOf? h
  rw [← List.map_fst_zip hsingles.length_eq.le] at ha
  obtain ⟨⟨_, c⟩, hc, rfl⟩ := List.mem_map.1 ha
  exact ⟨c, _, hc, hname, hparam⟩

theorem IsSingle.passes (ht : t.Declared) (hk : hasRanges t.kind = true)
    (hsingles : Singles s place type t.active singles) {name : String} {u : Test} (hu : (name, u) ∈ comparisons)
    {param : Value} {c : Check} (hc : t.IsSingle singles name param c) (v now : Value) :
    c.Passes s v now ↔ u.holds v param = .ok true := by
  obtain ⟨a, ha, rfl, rfl⟩ := hc
  exact standardCheck_passes (ht.fits (List.of_mem_zip ha).1) hk hu (List.forall₂_zip hsingles ha)

theorem merged (ht : t.Declared) (hk : hasRanges t.kind = true) (hd : kindDomain t.kind = some d)
    (hdistinct : (t.active.map (·.rule.name)).Nodup) (hsingles : Singles s place type t.active singles)
    (hcs : (typedChecks s place type t).outcome = .ok cs) : Merged s place type t d singles cs := by
  have hchecks := (typedChecks_eq_ok.1 hcs).2.2
  refine ⟨hsingles, fun hno => ?_, fun lower low upper high hlower hupper => ?_⟩
  · have hrange : t.range = none := by
      unfold range
      rcases hno with h | h
      · rw [h]
      · rw [h]
        cases lowerBound? t.active <;> rfl
    rw [hrange, standardChecks_singles hsingles] at hchecks
    exact (Except.ok.inj hchecks).symm
  · have hrange : t.range = some ((lower, low), (upper, high)) := by
      unfold range
      rw [hlower, hupper]
      exact if_pos hk
    obtain ⟨hordered, hlow, hhigh⟩ := ht.range_holds hd hrange
    obtain ⟨range, hcheck⟩ : ∃ range, rangeCheck t.kind lower upper low high = .ok range :=
      rangeCheck_ok hordered hlow hhigh
    rw [hrange, standardChecks_merge hsingles hcheck] at hchecks
    obtain rfl : merge lower upper range t.active singles = cs := Except.ok.inj hchecks
    obtain ⟨l, hl⟩ := exists_isSingle hsingles (lowerBound?_eq_some hlower)
    obtain ⟨u, hu⟩ := exists_isSingle hsingles (upperBound?_eq_some hupper)
    obtain ⟨outside, houtside⟩ := hhigh.related_ok hlow hordered .lt
    refine ⟨range, outside, l, u, hl, hu, hcheck, rfl, ?_, houtside, fun v now hv => ?_⟩
    · -- The upper bound is active once, so exactly one check is left out.
      have hone : t.active.countP (·.rule.name == upper.name) = 1 := by
        obtain ⟨a, ha, hname, -⟩ := mem_of_paramOf? (upperBound?_eq_some hupper)
        have hmem : upper.name ∈ t.active.map (·.rule.name) := List.mem_map.2 ⟨a, ha, hname⟩
        have hcount := List.count_eq_one_of_mem hdistinct hmem
        rwa [List.count, List.countP_map] at hcount
      have hlength : (merge lower upper range t.active singles).length + _ = _ := length_merge hsingles.length_eq
      rw [← hsingles.length_eq, ← hlength, hone]
    · obtain ⟨outside', houtside', hpasses⟩ := rangeCheck_passes hordered hlow hhigh hv hcheck
      obtain rfl : outside = outside' := Except.ok.inj (houtside.symm.trans houtside')
      rw [hpasses, hl.passes ht hk hsingles lower.mem_comparisons, hu.passes ht hk hsingles upper.mem_comparisons]

end TypedRules

namespace Layout.IsRules

variable {kind : String} {p : Message} {d : Domain}

/-- The checks of a message of rules: one for each rule that is active, in the order of their numbers, or one fewer
where two bounds merge. They exist if the parameters can be bound, as numbers always can. -/
structure Checked (s : Schema) (place : String) (type : FieldType) (kind : String) (p : Message) (d : Domain) :
    Prop where
  numbers : kind ∈ numericKinds → (TypedRules.ofParameters kind p).IsBound
  compiled : (∃ cs, (typedChecks s place type (.ofParameters kind p)).outcome = .ok cs) ↔
    (TypedRules.ofParameters kind p).IsBound
  active : ∀ r v, ⟨r, v⟩ ∈ (TypedRules.ofParameters kind p).active ↔ r ∈ standard ∧ r.kind = kind ∧ r.IsActive p v
  sorted : (TypedRules.ofParameters kind p).active.Pairwise fun a b =>
    (parametersType kind).numberOf a.rule.name < (parametersType kind).numberOf b.rule.name
  merged : ∀ cs, (typedChecks s place type (.ofParameters kind p)).outcome = .ok cs →
    ∃ singles, (TypedRules.ofParameters kind p).Merged s place type d singles cs

theorem active_sorted (hp : IsRules kind p) : (TypedRules.ofParameters kind p).active.Pairwise fun a b =>
    (parametersType kind).numberOf a.rule.name < (parametersType kind).numberOf b.rule.name := by
  refine (List.pairwise_filterMap).2 (hp.settings_sorted.imp fun {e e'} hlt a ha b hb => ?_)
  rw [(standard?_eq_some (active?_eq_some ha).1).2.2, (standard?_eq_some (active?_eq_some hb).1).2.2]
  exact hlt

theorem isBound_of_numeric (hp : IsRules kind p) (hk : kind ∈ numericKinds) :
    (TypedRules.ofParameters kind p).IsBound := by
  intro e he _
  obtain ⟨f, hf, hadmits⟩ := hp.declared e he
  exact parameter_ok_of_admits (numericKinds_scalar kind hk f (MessageType.field?_eq_some hf).1) hadmits

theorem checked (hp : IsRules kind p) (hd : kindDomain kind = some d) (s : Schema) (place : String)
    (type : FieldType) : Checked s place type kind p d := by
  have hdistinct : ((TypedRules.ofParameters kind p).active.map (·.rule.name)).Nodup :=
    List.pairwise_map.2 (hp.active_sorted.imp fun hlt heq => by simp [heq] at hlt)
  obtain ⟨singles, hsingles⟩ : ∃ singles, Singles s place type (TypedRules.ofParameters kind p).active singles :=
    TypedRules.exists_singles hp.declared hp.ranges hd
  refine ⟨hp.isBound_of_numeric, ⟨fun ⟨_, hcs⟩ => (TypedRules.typedChecks_eq_ok.1 hcs).1, fun hbound => ?_⟩,
    fun r v => hp.mem_active, hp.active_sorted,
    fun cs hcs => ⟨singles, TypedRules.merged hp.declared hp.ranges hd hdistinct hsingles hcs⟩⟩
  refine (hp.declared.checks_ok_iff hbound hd fun h => absurd h (ne_enum_of_ranges hp.ranges)).2 ⟨?_, fun a ha h => ?_⟩
  · have hlengths : lengthBounds kind = [] := rangeKinds_unbounded kind (mem_rangeKinds.2 hp.ranges)
    change (checkBounds place kind _ (lengthBounds kind)).outcome = _
    rw [hlengths]
    rfl
  · have hfits := hp.declared.fits ha
    rw [ranges_unprepared a.rule hfits.mem (hfits.kind_eq ▸ hp.ranges)] at h
    cases h

end Layout.IsRules

namespace Sample

/-- Bounds that cross, the lower one first although its number is the greater one. -/
def crossedBounds : Message :=
  .mk (Layout.parametersName "int32") [("gte", .single (.int 10)), ("lt", .single (.int 3))]

/-- A bound of 10¹⁵ seconds, which no span reaches. -/
def endlessBound : Message :=
  .mk (Layout.parametersName "duration")
    [("gt", .single (.message (.mk Schema.durationName [("seconds", .single (.int 1000000000000000))])))]

theorem crossedBounds_isRules : Layout.IsRules "int32" crossedBounds :=
  ⟨rfl, rfl, by unfold Message.Conforms; decide +kernel, by decide⟩

theorem endlessBound_isRules : Layout.IsRules "duration" endlessBound :=
  ⟨rfl, rfl, by unfold Message.Conforms; decide +kernel, by decide⟩

end Sample

open Sample

theorem Layout.IsRules.checked_of_crossed : Layout.IsRules "int32" crossedBounds ∧ kindDomain "int32" = some .int ∧
    Checked Layout.schema "Box.n" (.scalar .int32) "int32" crossedBounds .int :=
  ⟨crossedBounds_isRules, rfl, checked crossedBounds_isRules rfl _ _ _⟩

/-- A bound that is set need not have a check: there are none if a parameter cannot be bound. -/
theorem Layout.IsRules.unchecked_of_endless : Layout.IsRules "duration" endlessBound ∧
    (typedChecks Layout.schema "Box.span" (.message Schema.durationName)
      (.ofParameters "duration" endlessBound)).outcome = .error (.fault .tooLarge) := by
  refine ⟨endlessBound_isRules, ?_⟩
  have hsettings : TypedRules.ofParameters "duration" endlessBound = ⟨"duration", endlessBound.fields⟩ :=
    congrArg (TypedRules.mk "duration") (MessageType.inNumberOrder_of_pairwise (List.pairwise_singleton ..))
  rw [hsettings]
  rfl

end Conformance
