import Conformance.Proofs.Constraint.Outcome
import Conformance.Proofs.Rule.Suitable

/-!
# Compilation of typed rules

Typed rules of a declared kind compile unless a pair of bounds is crossed or a pattern cannot be read, and what they
compile to gives a truth value for every value of the kind.
-/

namespace Conformance

open Rule

namespace Compile

theorem outcome_lift {α : Type} {x : Except Fault α} {a : α} : (lift x).outcome = .ok a ↔ x = .ok a := by
  cases x with
  | ok b =>
    constructor
    · intro h
      cases h
      rfl
    · intro h
      cases h
      rfl
  | error f => exact ⟨fun h => (by cases h), fun h => (by cases h)⟩

/-! ## Parameters -/

section
variable {c : Content}

theorem parameter_holds {f : Field} {v : Value} (hf : f.admits c = true) (hv : parameter c = .ok v) :
    f.parameterDomain.Holds v := by
  unfold Field.parameterDomain
  cases c with
  | single d =>
    simp only [Field.admits, Bool.and_eq_true, beq_iff_eq] at hf
    obtain ⟨hs, hd⟩ := hf
    rw [hs]
    exact f.type.holds_of_bound hd hv
  | «repeated» ds =>
    simp only [Field.admits, Bool.and_eq_true, beq_iff_eq, List.all_eq_true] at hf
    obtain ⟨hs, hds⟩ := hf
    rw [hs]
    cases hvs : boundAll ds with
    | error g => simp [parameter, hvs, bind, Except.bind] at hv
    | ok vs =>
      obtain rfl : .tuple vs = v := by simpa [parameter, hvs, bind, Except.bind, pure, Except.pure] using hv
      exact .tuple (f.type.holds_of_boundAll hds hvs)
  | entries es =>
    cases hs : f.shape with
    | map key =>
      cases hvs : boundEntries es with
      | error g => simp [parameter, hvs, bind, Except.bind] at hv
      | ok vs =>
        obtain rfl : .dict vs = v := by simpa [parameter, hvs, bind, Except.bind, pure, Except.pure] using hv
        exact .dict vs
    | _ => simp [Field.admits, hs] at hf

theorem parameter_ok (ht : c.everywhere (·.isBound) = true) : ∃ v, parameter c = .ok v := by
  cases c with
  | single d => exact Datum.bound_ok ht
  | «repeated» ds =>
    obtain ⟨vs, hvs⟩ := boundAll_ok (allEverywhere_iff.1 ht)
    exact ⟨.tuple vs, by simp [parameter, hvs]⟩
  | entries es =>
    obtain ⟨vs, hvs⟩ := boundEntries_ok fun e he => (entriesEverywhere_iff.1 ht e he).2
    exact ⟨.dict vs, by simp [parameter, hvs]⟩

theorem Message.bound_ne (m : Message) : (∀ n, m.bound ≠ .ok (.int n)) ∧ ∀ t, m.bound ≠ .ok (.text t) := by
  have hcases : (∃ i, m.bound = .ok (.instant i)) ∨ (∃ t, m.bound = .ok (.span t)) ∨ m.bound = .ok (.message m) ∨
      ∃ f, m.bound = .error f := by
    unfold Message.bound
    split
    · split <;> simp
    · split
      · split <;> simp
      · simp
  rcases hcases with ⟨_, h⟩ | ⟨_, h⟩ | h | ⟨_, h⟩ <;> simp [h]

theorem parameter_eq_int {n : Int} : parameter c = .ok (.int n) ↔ c = .single (.int n) := by
  cases c with
  | single d =>
    cases d with
    | message m => simpa [parameter, Datum.bound] using (Message.bound_ne m).1 n
    | _ => simp [parameter, Datum.bound, Value.ofDatum]
  | «repeated» ds => cases h : boundAll ds <;> simp [parameter, h, bind, Except.bind, pure, Except.pure]
  | entries es => cases h : boundEntries es <;> simp [parameter, h, bind, Except.bind, pure, Except.pure]

theorem parameter_eq_text {t : String} : parameter c = .ok (.text t) ↔ c = .single (.text t) := by
  cases c with
  | single d =>
    cases d with
    | message m => simpa [parameter, Datum.bound] using (Message.bound_ne m).2 t
    | _ => simp [parameter, Datum.bound, Value.ofDatum]
  | «repeated» ds => cases h : boundAll ds <;> simp [parameter, h, bind, Except.bind, pure, Except.pure]
  | entries es => cases h : boundEntries es <;> simp [parameter, h, bind, Except.bind, pure, Except.pure]

end

/-! ## Active rules -/

/-- The rule that a setting activates, with its parameter. -/
def active? (kind : String) (e : String × Content) : Option Active :=
  match standard? kind e.1, parameter e.2 with
  | some r, .ok v => if r.flag && !v.truth then none else some ⟨r, v⟩
  | _, _ => none

theorem standard?_eq_some {kind name : String} {r : Rule} (h : standard? kind name = some r) :
    r ∈ standard ∧ r.kind = kind ∧ r.name = name := by
  have hmem := List.mem_of_find?_eq_some h
  have hfound := List.find?_some h
  simp only [Bool.and_eq_true, beq_iff_eq] at hfound
  exact ⟨hmem, hfound.1, hfound.2⟩

theorem active?_eq_some {kind : String} {e : String × Content} {a : Active} (h : active? kind e = some a) :
    standard? kind e.1 = some a.rule ∧ parameter e.2 = .ok a.param := by
  unfold active? at h
  split at h
  · next r v hr hv =>
    split at h
    · cases h
    · cases h
      exact ⟨hr, hv⟩
  · cases h

theorem active_eq_ok {kind : String} {settings : List (String × Content)} {rules : List Active} :
    (active kind settings).outcome = .ok rules ↔
      (∀ e ∈ settings, (standard? kind e.1).isSome = true → ∃ v, parameter e.2 = .ok v) ∧
        rules = settings.filterMap (active? kind) := by
  induction settings generalizing rules with
  | nil =>
    constructor
    · intro h
      cases h
      exact ⟨fun e he => absurd he List.not_mem_nil, rfl⟩
    · rintro ⟨-, rfl⟩
      rfl
  | cons e rest ih =>
    obtain ⟨name, c⟩ := e
    rw [active, List.forall_mem_cons, List.filterMap_cons]
    cases hr : standard? kind name with
    | none => simpa [active?, hr] using ih
    | some r =>
      -- A flag that is off activates nothing.
      have hsteady (v : Value) (more : List Active) :
          Steady (if r.flag && !v.truth then return more else return ⟨r, v⟩ :: more : Compile (List Active)) := by
        split <;> exact steady_pure _
      dsimp only
      rw [outcome_bind_eq_ok fun v => steady_bind (steady_active kind rest) fun more => hsteady v more]
      simp only [outcome_lift, outcome_bind_eq_ok fun more => hsteady _ more, ih, Option.isSome_some, forall_const]
      constructor
      · rintro ⟨v, hv, more, ⟨hall, rfl⟩, h⟩
        refine ⟨⟨⟨v, hv⟩, hall⟩, ?_⟩
        cases hflag : r.flag && !v.truth
        · simp only [hflag] at h
          cases h
          simp [active?, hr, hv, hflag]
        · simp only [hflag] at h
          cases h
          simp [active?, hr, hv, hflag]
      · rintro ⟨⟨⟨v, hv⟩, hall⟩, rfl⟩
        refine ⟨v, hv, _, ⟨hall, rfl⟩, ?_⟩
        cases hflag : r.flag && !v.truth
        · simp [active?, hr, hv, hflag]
          rfl
        · simp [active?, hr, hv, hflag]
          rfl

theorem paramOf?_active {kind name : String} {r : Rule} (hr : standard? kind name = some r) (hf : r.flag = false)
    {settings : List (String × Content)}
    (h : ∀ e ∈ settings, (standard? kind e.1).isSome = true → ∃ v, parameter e.2 = .ok v) :
    paramOf? (settings.filterMap (active? kind)) name =
      (settings.lookup name).bind fun c => (parameter c).toOption := by
  induction settings with
  | nil => rfl
  | cons e rest ih =>
    obtain ⟨n, c⟩ := e
    have hrest := ih fun e he => h e (List.mem_cons_of_mem _ he)
    rw [List.filterMap_cons]
    by_cases hn : n = name
    · subst hn
      obtain ⟨v, hv⟩ := h _ List.mem_cons_self (by rw [hr]; rfl)
      have hactive : active? kind (n, c) = some ⟨r, v⟩ := by simp [active?, hr, hv, hf]
      have hname : r.name = n := (standard?_eq_some hr).2.2
      simp [hactive, paramOf?, hname, hv, Except.toOption]
    · have hlookup : ((n, c) :: rest).lookup name = rest.lookup name := by
        simp [List.lookup_cons, beq_eq_false_iff_ne.2 (Ne.symm hn)]
      rw [hlookup, ← hrest]
      cases ha : active? kind (n, c) with
      | none => rfl
      | some a =>
        have hname : a.rule.name = n := (standard?_eq_some (active?_eq_some ha).1).2.2
        simp [paramOf?, hname, hn]

end Compile

namespace Rule

/-! ## Facts about the standard rules -/

theorem standard_pattern : ∀ r ∈ standard, r.preparation = some .pattern →
    (r.kind = "string" ∨ r.kind = "bytes") ∧ r.name = "pattern" ∧ r.form = .test .hasMatch ∧ r.domain = .text := by
  decide +kernel

theorem standard_definedValues : ∀ r ∈ standard, r.preparation = some .definedValues → r.kind = "enum" := by
  decide +kernel

/-- The bounds of ranges are values of their kind. -/
theorem standard_bounds : ∀ r ∈ standard, hasRanges r.kind = true → r.name ∈ ["gt", "gte", "lt", "lte"] →
    kindDomain r.kind = some r.domain ∧ r.domain.isOrdered = true := by
  decide +kernel

section
variable {r : Rule} {v w : Value}

theorem prepare_holds (hr : r ∈ standard) (hv : r.domain.Holds v) {s : Schema} {type : FieldType}
    (h : r.prepare s type v = .ok w) : r.preparedDomain.Holds w := by
  unfold prepare at h
  unfold preparedDomain
  cases hp : r.preparation with
  | none =>
    simp only [hp, Except.ok.injEq] at h
    exact h ▸ hv
  | some p =>
    cases p with
    | pattern =>
      rw [(standard_pattern r hr hp).2.2.2] at hv
      cases hv with
      | text t =>
        simp only [hp, preparePattern] at h
        split at h
        · cases h
          exact .pattern _
        all_goals cases h
    | definedValues =>
      simp only [hp, prepareDefined] at h
      split at h
      · cases h
        exact .numbers
      · cases h

theorem prepare_ok_iff (hr : r ∈ standard) (hv : r.domain.Holds v) (s : Schema) {type : FieldType}
    (henum : r.kind = "enum" → ∃ name, type = .enum name) : (∃ w, r.prepare s type v = .ok w) ↔
      (r.preparation = some .pattern → ∀ t, v = .text t → ∃ q, Pattern.ofText t = .ok q) := by
  unfold prepare
  cases hp : r.preparation with
  | none => simp
  | some p =>
    cases p with
    | pattern =>
      rw [(standard_pattern r hr hp).2.2.2] at hv
      cases hv with
      | text t =>
        simp only [preparePattern, forall_const, Value.text.injEq, forall_eq']
        cases hq : Pattern.ofText t with
        | ok q => simp
        | error e => cases e <;> simp
    | definedValues =>
      obtain ⟨name, rfl⟩ := henum (standard_definedValues r hr hp)
      simp [prepareDefined]

end
end Rule

/-! ## Checks of rules -/

namespace Compile

/-- An active rule of a kind, with a parameter of its domain. -/
structure Active.Fits (a : Active) (kind : String) : Prop where
  mem : a.rule ∈ standard
  kind_eq : a.rule.kind = kind
  holds : a.rule.domain.Holds a.param

section
variable {s : Schema} {place kind : String} {type : FieldType} {a : Active} {d : Domain} {v now : Value}

/-- What becomes of an active rule, if it becomes a check. -/
theorem standardCheck_eq_ok {c : Check} : (standardCheck s place type a).outcome = .ok c ↔
    ∃ text, a.param.render = .ok text ∧
      ((∃ t w, a.rule.form = .test t ∧ a.rule.prepare s type.unwrapped a.param = .ok w ∧
          c = ⟨a.rule.id, a.rule.wording.fill text, .test t w⟩) ∨
        ∃ source p, a.rule.form = .expression source ∧ Program.compile ⟨source, standardVariables⟩ = .ok p ∧
          c = ⟨a.rule.id, a.rule.wording.fill text, .formula p a.param⟩) := by
  unfold standardCheck
  cases ht : a.param.render with
  | error f =>
    constructor
    · intro h
      cases h
    · rintro ⟨_, ⟨⟩, _⟩
  | ok text =>
    simp only [Except.ok.injEq, exists_eq_left']
    cases hf : a.rule.form with
    | test t =>
      cases hp : a.rule.prepare s type.unwrapped a.param with
      | ok w =>
        constructor
        · intro h
          cases h
          exact .inl ⟨t, w, rfl, rfl, rfl⟩
        · rintro (⟨_, _, ⟨⟩, ⟨⟩, rfl⟩ | ⟨_, _, ⟨⟩, _⟩)
          rfl
      | error e =>
        constructor
        · intro h
          cases e <;> cases h
        · rintro (⟨_, _, _, ⟨⟩, _⟩ | ⟨_, _, ⟨⟩, _⟩)
    | expression source =>
      have hprogram : (do
          let p ← program ⟨source, standardVariables⟩
          return ⟨a.rule.id, a.rule.wording.fill text, .formula p a.param⟩ : Compile Check).outcome = .ok c ↔
          ∃ p, Program.compile ⟨source, standardVariables⟩ = .ok p ∧
            c = ⟨a.rule.id, a.rule.wording.fill text, .formula p a.param⟩ := by
        simp only [← outcome_program]
        exact outcome_step_eq_ok (fun _ => steady_pure _) fun _ => outcome_pure_eq_ok
      refine Iff.trans hprogram ⟨?_, ?_⟩
      · rintro ⟨p, hp, hc⟩
        exact .inr ⟨source, p, rfl, hp, hc⟩
      · rintro (⟨_, _, ⟨⟩, _⟩ | ⟨_, p, ⟨⟩, hp, hc⟩)
        exact ⟨p, hp, hc⟩

theorem standardCheck_ok_iff (ha : a.Fits kind) (hd : kindDomain kind = some d)
    (henum : kind = "enum" → ∃ name, type.unwrapped = .enum name) :
    (∃ c, (standardCheck s place type a).outcome = .ok c) ↔
      (a.rule.preparation = some .pattern → ∀ t, a.param = .text t → ∃ q, Pattern.ofText t = .ok q) := by
  obtain ⟨hmem, rfl, hparam⟩ := ha
  obtain ⟨text, htext⟩ := hparam.render_ok (domain_isShown hmem)
  have hprepare := prepare_ok_iff hmem hparam s henum
  constructor
  · rintro ⟨c, hc⟩ hpattern
    obtain ⟨_, _, ⟨_, w, _, hw, _⟩ | ⟨source, _, hf, _⟩⟩ := standardCheck_eq_ok.1 hc
    · exact hprepare.1 ⟨w, hw⟩ hpattern
    · have htest := (standard_pattern _ hmem hpattern).2.2.1
      rw [hf] at htest
      cases htest
  · intro hvalid
    cases hf : a.rule.form with
    | test t =>
      obtain ⟨w, hw⟩ := hprepare.2 hvalid
      exact ⟨_, standardCheck_eq_ok.2 ⟨text, htext, .inl ⟨t, w, hf, hw, rfl⟩⟩⟩
    | expression source =>
      obtain ⟨p, hp, -⟩ := expression_suits hmem hd hf
      exact ⟨_, standardCheck_eq_ok.2 ⟨text, htext, .inr ⟨source, p, hf, hp, rfl⟩⟩⟩

theorem standardCheck_decides (ha : a.Fits kind) (hd : kindDomain kind = some d) {c : Check}
    (hc : (standardCheck s place type a).outcome = .ok c) (hv : d.Holds v) (hn : Domain.instant.Holds now) :
    c.Decides s v now := by
  obtain ⟨hmem, rfl, hparam⟩ := ha
  obtain ⟨_, _, ⟨t, w, hf, hw, rfl⟩ | ⟨source, p, hf, hp, rfl⟩⟩ := standardCheck_eq_ok.1 hc
  · have hsuits := test_suits hmem hd hf
    exact Test.suits_holds hsuits hv (prepare_holds hmem hparam hw)
  · obtain ⟨q, hq, hi⟩ := expression_suits hmem hd hf
    rw [hp] at hq
    cases hq
    exact Program.evaluate_decides hp hi hv hparam hn s

end

/-! ## Ranges -/

section
variable {s : Schema} {kind : String} {d : Domain} {low high v now : Value} {lower : Lower} {upper : Upper}

theorem rangeCheck_eq_ok {c : Check} (h : rangeCheck kind lower upper low high = .ok c) : ∃ name message outside,
    high.related .lt low = .ok outside ∧
      c = ⟨kind ++ "." ++ name, message, .test (.range lower upper outside) (.tuple [low, high])⟩ := by
  unfold rangeCheck at h
  cases ho : high.related .lt low with
  | error f =>
    rw [ho] at h
    cases h
  | ok outside =>
    cases hl : low.render with
    | error f =>
      rw [ho, hl] at h
      cases h
    | ok lowText =>
      cases hh : high.render with
      | error f =>
        rw [ho, hl, hh] at h
        cases h
      | ok highText =>
        rw [ho, hl, hh] at h
        cases h
        have hid : kind ++ "." ++ lower.name ++ "_" ++ upper.name ++ (if outside then "_exclusive" else "") =
            kind ++ "." ++ (lower.name ++ "_" ++ upper.name ++ if outside then "_exclusive" else "") := by
          simp only [String.append_assoc]
        exact ⟨_, _, outside, rfl, congrArg (Check.mk · _ _) hid⟩

theorem rangeCheck_ok (hd : d.isOrdered = true) (hl : d.Holds low) (hh : d.Holds high) :
    ∃ c, rangeCheck kind lower upper low high = .ok c := by
  have hshown : d.isShown = true := by
    cases d <;> first | rfl | cases hd
  obtain ⟨outside, ho⟩ := hh.related_ok hl hd .lt
  obtain ⟨lowText, hlt⟩ := hl.render_ok hshown
  obtain ⟨highText, hht⟩ := hh.render_ok hshown
  exact ⟨_, by rw [rangeCheck, ho, hlt, hht]; rfl⟩

theorem rangeCheck_decides (hd : d.isOrdered = true) (hl : d.Holds low) (hh : d.Holds high) {c : Check}
    (hc : rangeCheck kind lower upper low high = .ok c) (hv : d.Holds v) : c.Decides s v now := by
  obtain ⟨name, message, outside, -, rfl⟩ := rangeCheck_eq_ok hc
  exact Test.rangeTest_ok hd hv (.pair hl hh) lower upper outside

end

/-! ## All rules -/

section
variable {s : Schema} {place kind : String} {type : FieldType}
  {range : Option ((Lower × Value) × (Upper × Value))} {rules : List Active} {cs : List Check}

/-- The names of the bounds that a range stands for. -/
def endNames (range : Option ((Lower × Value) × (Upper × Value))) : List String :=
  match range with
  | some ((lower, _), (upper, _)) => [lower.name, upper.name]
  | none => []

theorem outcome_cons {x : Compile Check} {y : Compile (List Check)} (hy : Steady y) :
    (do let c ← x; return c :: (← y)).outcome = .ok cs ↔
      ∃ c rest, x.outcome = .ok c ∧ y.outcome = .ok rest ∧ cs = c :: rest := by
  simp only [exists_and_left]
  refine outcome_step_eq_ok (fun c => steady_bind hy fun rest => steady_pure _) fun c => ?_
  exact outcome_step_eq_ok (fun rest => steady_pure _) fun rest => outcome_pure_eq_ok

/-- The first rule of several becomes a check of its own, or that of the range, or none. -/
theorem standardChecks_cons {a : Active} : (standardChecks s place kind type range (a :: rules)).outcome = .ok cs ↔
    (a.rule.name ∉ endNames range ∧ ∃ c rest, (standardCheck s place type a).outcome = .ok c ∧
      (standardChecks s place kind type range rules).outcome = .ok rest ∧ cs = c :: rest) ∨
    ∃ lower low upper high, range = some ((lower, low), (upper, high)) ∧
      ((a.rule.name = lower.name ∧ ∃ c rest, rangeCheck kind lower upper low high = .ok c ∧
          (standardChecks s place kind type range rules).outcome = .ok rest ∧ cs = c :: rest) ∨
        a.rule.name ≠ lower.name ∧ a.rule.name = upper.name ∧
          (standardChecks s place kind type range rules).outcome = .ok cs) := by
  have hsteady := steady_standardChecks s place kind type range rules
  cases range with
  | none =>
    rw [standardChecks, outcome_cons hsteady]
    simp [endNames]
  | some bounds =>
    obtain ⟨⟨lower, low⟩, ⟨upper, high⟩⟩ := bounds
    rw [standardChecks]
    by_cases hl : a.rule.name = lower.name
    · simp only [hl, beq_self_eq_true, if_true]
      rw [outcome_cons hsteady]
      simp [endNames, outcome_lift]
    · by_cases hu : a.rule.name = upper.name
      · have hne : upper.name ≠ lower.name := fun h => hl (hu.trans h)
        simp [endNames, hu, hne]
      · simp only [beq_eq_false_iff_ne.2 hl, beq_eq_false_iff_ne.2 hu, Bool.false_eq_true, if_false]
        rw [outcome_cons hsteady]
        simp [endNames, hl, hu]

theorem standardChecks_mem {c : Check} (h : (standardChecks s place kind type range rules).outcome = .ok cs)
    (hc : c ∈ cs) : (∃ a ∈ rules, (standardCheck s place type a).outcome = .ok c) ∨
      ∃ lower low upper high, range = some ((lower, low), (upper, high)) ∧
        rangeCheck kind lower upper low high = .ok c := by
  induction rules generalizing cs with
  | nil =>
    cases h
    cases hc
  | cons a rules ih =>
    have hrest {rest : List Check} (h : (standardChecks s place kind type range rules).outcome = .ok rest)
        (hc : c ∈ rest) : (∃ b ∈ a :: rules, (standardCheck s place type b).outcome = .ok c) ∨
          ∃ lower low upper high, range = some ((lower, low), (upper, high)) ∧
            rangeCheck kind lower upper low high = .ok c := by
      rcases ih h hc with ⟨b, hb, hcheck⟩ | hr
      · exact .inl ⟨b, List.mem_cons_of_mem _ hb, hcheck⟩
      · exact .inr hr
    rcases standardChecks_cons.1 h with ⟨_, c', rest, ha, hcs, rfl⟩ | ⟨lower, low, upper, high, hr, hends⟩
    · rcases List.mem_cons.1 hc with rfl | hc
      · exact .inl ⟨a, List.mem_cons_self, ha⟩
      · exact hrest hcs hc
    · rcases hends with ⟨_, c', rest, hrange, hcs, rfl⟩ | ⟨_, _, hcs⟩
      · rcases List.mem_cons.1 hc with rfl | hc
        · exact .inr ⟨lower, low, upper, high, hr, hrange⟩
        · exact hrest hcs hc
      · exact hrest hcs hc

theorem standardChecks_ok_iff (hrange : ∀ lower low upper high, range = some ((lower, low), (upper, high)) →
    ∃ c, rangeCheck kind lower upper low high = .ok c) :
    (∃ cs, (standardChecks s place kind type range rules).outcome = .ok cs) ↔
      ∀ a ∈ rules, a.rule.name ∉ endNames range → ∃ c, (standardCheck s place type a).outcome = .ok c := by
  induction rules with
  | nil => exact ⟨fun _ a ha => absurd ha List.not_mem_nil, fun _ => ⟨[], rfl⟩⟩
  | cons a rules ih =>
    simp only [List.forall_mem_cons, ← ih]
    constructor
    · rintro ⟨cs, h⟩
      rcases standardChecks_cons.1 h with ⟨_, c, rest, ha, hcs, -⟩ | ⟨lower, low, upper, high, rfl, hends⟩
      · exact ⟨fun _ => ⟨c, ha⟩, rest, hcs⟩
      · rcases hends with ⟨hl, _, rest, _, hcs, -⟩ | ⟨_, hu, hcs⟩
        · exact ⟨fun hno => absurd (by simp [endNames, hl]) hno, rest, hcs⟩
        · exact ⟨fun hno => absurd (by simp [endNames, hu]) hno, cs, hcs⟩
    · rintro ⟨ha, rest, hcs⟩
      by_cases hno : a.rule.name ∈ endNames range
      · cases range with
        | none => cases hno
        | some bounds =>
          obtain ⟨⟨lower, low⟩, ⟨upper, high⟩⟩ := bounds
          obtain ⟨c, hc⟩ := hrange lower low upper high rfl
          by_cases hl : a.rule.name = lower.name
          · exact ⟨c :: rest, standardChecks_cons.2 (.inr ⟨lower, low, upper, high, rfl,
              .inl ⟨hl, c, rest, hc, hcs, rfl⟩⟩)⟩
          · have hu : a.rule.name = upper.name := by simpa [endNames, hl] using hno
            exact ⟨rest, standardChecks_cons.2 (.inr ⟨lower, low, upper, high, rfl, .inr ⟨hl, hu, hcs⟩⟩)⟩
      · obtain ⟨c, hc⟩ := ha hno
        exact ⟨c :: rest, standardChecks_cons.2 (.inl ⟨hno, c, rest, hc, hcs, rfl⟩)⟩

end
end Compile

/-! ## Declared typed rules -/

open Compile

namespace TypedRules

def active (t : TypedRules) : List Active := t.settings.filterMap (active? t.kind)

/-- The bounds that make up a range. -/
def range (t : TypedRules) : Option ((Lower × Value) × (Upper × Value)) :=
  match lowerBound? t.active, upperBound? t.active with
  | some l, some u => if hasRanges t.kind then some (l, u) else none
  | _, _ => none

/-- The parameters of all rules can be bound. -/
def IsBound (t : TypedRules) : Prop :=
  ∀ e ∈ t.settings, (standard? t.kind e.1).isSome = true → ∃ v, parameter e.2 = .ok v

variable {t : TypedRules} {s : Schema} {place : String} {type : FieldType} {d : Domain} {cs : List Check}

theorem InTime.isBound (ht : t.InTime) : t.IsBound := fun e he _ => parameter_ok (ht e he)

theorem Declared.parameter_holds (ht : t.Declared) {e : String × Content} (he : e ∈ t.settings) {r : Rule}
    (hr : standard? t.kind e.1 = some r) {v : Value} (hv : parameter e.2 = .ok v) : r.domain.Holds v := by
  obtain ⟨f, hf, hadmits⟩ := ht e he
  obtain ⟨-, hkind, hname⟩ := standard?_eq_some hr
  have hdomain : r.domain = f.parameterDomain := by
    rw [Rule.domain, Rule.field?, hkind, hname, hf]
    rfl
  rw [hdomain]
  exact Compile.parameter_holds hadmits hv

theorem Declared.fits (ht : t.Declared) {a : Active} (ha : a ∈ t.active) : a.Fits t.kind := by
  obtain ⟨e, he, ha⟩ := List.mem_filterMap.1 ha
  obtain ⟨hr, hv⟩ := active?_eq_some ha
  obtain ⟨hmem, hkind, -⟩ := standard?_eq_some hr
  exact ⟨hmem, hkind, ht.parameter_holds he hr hv⟩

theorem typedChecks_eq_ok : (typedChecks s place type t).outcome = .ok cs ↔
    t.IsBound ∧ (checkBounds place t.kind t.active (lengthBounds t.kind)).outcome = .ok () ∧
      (standardChecks s place t.kind type t.range t.active).outcome = .ok cs := by
  unfold typedChecks
  rw [outcome_bind_eq_ok fun rules => steady_bind (steady_checkBounds _ _ rules _) fun _ =>
    steady_standardChecks s place _ type _ rules]
  constructor
  · rintro ⟨rules, hrules, h⟩
    obtain ⟨hbound, rfl⟩ := active_eq_ok.1 hrules
    obtain ⟨_, hb, hs⟩ := (outcome_bind_eq_ok fun _ => steady_standardChecks s place _ type _ _).1 h
    exact ⟨hbound, hb, hs⟩
  · rintro ⟨hbound, hb, hs⟩
    exact ⟨t.active, active_eq_ok.2 ⟨hbound, rfl⟩,
      (outcome_bind_eq_ok fun _ => steady_standardChecks s place _ type _ _).2 ⟨_, hb, hs⟩⟩

theorem mem_of_paramOf? {rules : List Active} {name : String} {v : Value} (h : paramOf? rules name = some v) :
    ∃ a ∈ rules, a.rule.name = name ∧ a.param = v := by
  obtain ⟨a, ha, rfl⟩ := Option.map_eq_some_iff.1 h
  have hname := List.find?_some ha
  exact ⟨a, List.mem_of_find?_eq_some ha, by simpa using hname, rfl⟩

theorem lowerBound?_eq_some {rules : List Active} {lower : Lower} {v : Value}
    (h : lowerBound? rules = some (lower, v)) : paramOf? rules lower.name = some v := by
  unfold lowerBound? at h
  rcases Option.or_eq_some_iff.1 h with h | ⟨-, h⟩
  · obtain ⟨w, hw, ⟨⟩⟩ := Option.map_eq_some_iff.1 h
    exact hw
  · obtain ⟨w, hw, ⟨⟩⟩ := Option.map_eq_some_iff.1 h
    exact hw

theorem upperBound?_eq_some {rules : List Active} {upper : Upper} {v : Value}
    (h : upperBound? rules = some (upper, v)) : paramOf? rules upper.name = some v := by
  unfold upperBound? at h
  rcases Option.or_eq_some_iff.1 h with h | ⟨-, h⟩
  · obtain ⟨w, hw, ⟨⟩⟩ := Option.map_eq_some_iff.1 h
    exact hw
  · obtain ⟨w, hw, ⟨⟩⟩ := Option.map_eq_some_iff.1 h
    exact hw

theorem Declared.range_holds (ht : t.Declared) (hd : kindDomain t.kind = some d) {lower : Lower} {upper : Upper}
    {low high : Value} (h : t.range = some ((lower, low), (upper, high))) :
    d.isOrdered = true ∧ d.Holds low ∧ d.Holds high := by
  unfold range at h
  split at h
  · next l u hl hu =>
    obtain ⟨hranges, h⟩ := Option.ite_none_right_eq_some.1 h
    cases h
    have hbound {a : Active} (ha : a ∈ t.active) (hname : a.rule.name ∈ ["gt", "gte", "lt", "lte"]) :
        d.isOrdered = true ∧ d.Holds a.param := by
      obtain ⟨hmem, hkind, hholds⟩ := ht.fits ha
      obtain ⟨hdomain, ho⟩ := standard_bounds a.rule hmem (by rw [hkind]; exact hranges) hname
      rw [hkind, hd] at hdomain
      cases hdomain
      exact ⟨ho, hholds⟩
    obtain ⟨a, ha, hla, rfl⟩ := mem_of_paramOf? (lowerBound?_eq_some hl)
    obtain ⟨b, hb, hub, rfl⟩ := mem_of_paramOf? (upperBound?_eq_some hu)
    have hlow := hbound ha (by rw [hla]; cases lower <;> decide)
    have hhigh := hbound hb (by rw [hub]; cases upper <;> decide)
    exact ⟨hlow.1, hlow.2, hhigh.2⟩
  · cases h

theorem Declared.checks_ok_iff (ht : t.Declared) (hbound : t.IsBound) (hd : kindDomain t.kind = some d)
    (henum : t.kind = "enum" → ∃ name, type.unwrapped = .enum name) :
    (∃ cs, (typedChecks s place type t).outcome = .ok cs) ↔
      (checkBounds place t.kind t.active (lengthBounds t.kind)).outcome = .ok () ∧
        ∀ a ∈ t.active, a.rule.preparation = some .pattern → ∀ p, a.param = .text p →
          ∃ q, Pattern.ofText p = .ok q := by
  simp only [typedChecks_eq_ok, exists_and_left, and_iff_right hbound]
  refine and_congr_right fun _ => ?_
  have hrange (lower : Lower) (low : Value) (upper : Upper) (high : Value)
      (h : t.range = some ((lower, low), (upper, high))) :
      ∃ c, rangeCheck t.kind lower upper low high = .ok c := by
    obtain ⟨ho, hlow, hhigh⟩ := ht.range_holds hd h
    exact rangeCheck_ok ho hlow hhigh
  rw [standardChecks_ok_iff hrange]
  refine forall₂_congr fun a ha => ?_
  rw [standardCheck_ok_iff (ht.fits ha) hd henum]
  -- A pattern is no end of a range, so it is checked by itself and never replaced.
  refine ⟨fun h hpattern => h ?_ hpattern, fun h _ => h⟩
  rw [(standard_pattern a.rule (ht.fits ha).mem hpattern).2.1]
  unfold endNames
  split
  · next lower _ upper _ _ => cases lower <;> cases upper <;> decide
  · exact List.not_mem_nil

theorem Declared.decides (ht : t.Declared) (hd : kindDomain t.kind = some d)
    (hcs : (typedChecks s place type t).outcome = .ok cs) {c : Check} (hc : c ∈ cs) {v now : Value} (hv : d.Holds v)
    (hn : Domain.instant.Holds now) : c.Decides s v now := by
  have hchecks := (typedChecks_eq_ok.1 hcs).2.2
  rcases standardChecks_mem hchecks hc with ⟨a, ha, hcheck⟩ | ⟨lower, low, upper, high, hr, hcheck⟩
  · exact standardCheck_decides (ht.fits ha) hd hcheck hv hn
  · obtain ⟨ho, hlow, hhigh⟩ := ht.range_holds hd hr
    exact rangeCheck_decides ho hlow hhigh hcheck hv

end TypedRules
end Conformance
