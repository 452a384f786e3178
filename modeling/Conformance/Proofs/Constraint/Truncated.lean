import Conformance.Proofs.Rule.Comparison
import Conformance.Proofs.Value.Truncation

/-!
# Rules on truncated times

Rules on times compare microseconds, though their parameters and values are messages of nanoseconds. So a rule may pass
where exact comparison fails, or fail where it holds, but for each rule only one of these can happen, and neither does
between whole microseconds.
-/

namespace Conformance

open Rule Compile

/-! ## Comparisons of numbers -/

/-- What a rule that compares asks of a number: of its order to the one number of a bound, of its place in a list. -/
def Rule.Test.Compares (t : Test) (x : Int) (ps : List Int) : Prop :=
  match t with
  | const => ∀ p ∈ ps, x = p
  | lt => ∀ p ∈ ps, x < p
  | lte => ∀ p ∈ ps, x ≤ p
  | gt => ∀ p ∈ ps, p < x
  | gte => ∀ p ∈ ps, p ≤ x
  | isIn => x ∈ ps
  | notIn => x ∉ ps
  | _ => False

namespace Rule.Test

/-- The rules that two equal numbers pass. Truncation does not make them fail. -/
def loose : List Test := [.const, .lte, .gte, .isIn]

/-- The rules that two equal numbers fail. Truncation does not make them pass. -/
def strict : List Test := [.lt, .gt, .notIn]

def lists : List Test := [.isIn, .notIn]

section
variable (τ : Time) {t : Test} {x : Int} {ps : List Int}

theorem Compares.truncate (ht : t ∈ loose) (h : t.Compares x ps) :
    t.Compares (τ.truncate x) (ps.map τ.truncate) := by
  simp only [loose, List.mem_cons, List.not_mem_nil, or_false] at ht
  rcases ht with rfl | rfl | rfl | rfl
  · exact List.forall_mem_map.2 fun p hp => congrArg τ.truncate (h p hp)
  · exact List.forall_mem_map.2 fun p hp => τ.truncate_mono (h p hp)
  · exact List.forall_mem_map.2 fun p hp => τ.truncate_mono (h p hp)
  · exact List.mem_map_of_mem h

theorem Compares.of_truncate (ht : t ∈ strict) (h : t.Compares (τ.truncate x) (ps.map τ.truncate)) :
    t.Compares x ps := by
  simp only [strict, List.mem_cons, List.not_mem_nil, or_false] at ht
  rcases ht with rfl | rfl | rfl
  · exact fun p hp => τ.lt_of_truncate_lt (List.forall_mem_map.1 h p hp)
  · exact fun p hp => τ.lt_of_truncate_lt (List.forall_mem_map.1 h p hp)
  · exact fun hx => h (List.mem_map_of_mem hx)

theorem compares_truncate_iff (hx : (1000 : Int) ∣ x) (hps : ∀ p ∈ ps, (1000 : Int) ∣ p) :
    t.Compares (τ.truncate x) (ps.map τ.truncate) ↔ t.Compares x ps := by
  have hmem : τ.truncate x ∈ ps.map τ.truncate ↔ x ∈ ps := by
    constructor
    · intro h
      obtain ⟨p, hp, heq⟩ := List.mem_map.1 h
      rwa [← (τ.truncate_inj (hps p hp) hx).1 heq]
    · exact List.mem_map_of_mem
  cases t with
  | isIn => exact hmem
  | notIn => exact not_congr hmem
  | const => exact List.forall_mem_map.trans (forall₂_congr fun p hp => τ.truncate_inj hx (hps p hp))
  | lt => exact List.forall_mem_map.trans (forall₂_congr fun p hp => τ.truncate_lt_iff hx (hps p hp))
  | gt => exact List.forall_mem_map.trans (forall₂_congr fun p hp => τ.truncate_lt_iff (hps p hp) hx)
  | lte =>
    refine List.forall_mem_map.trans (forall₂_congr fun p hp => ?_)
    rw [← Int.not_lt, ← Int.not_lt, τ.truncate_lt_iff (hps p hp) hx]
  | gte =>
    refine List.forall_mem_map.trans (forall₂_congr fun p hp => ?_)
    rw [← Int.not_lt, ← Int.not_lt, τ.truncate_lt_iff hx (hps p hp)]
  | _ => exact Iff.rfl

end
end Rule.Test

/-! ## Comparisons of times -/

namespace Time

section
variable (τ : Time) {t : Test} {x p : Int} {ps : List Int}

theorem same_value : (τ.value x).same (τ.value p) = decide (x = p) := by
  rw [Bool.eq_iff_iff, decide_eq_true_eq]
  cases τ with
  | span =>
    have hsame : (Value.span ⟨x⟩).same (.span ⟨p⟩) = ((⟨x⟩ : Calendar.Span) == ⟨p⟩) := rfl
    rw [value, value, hsame, beq_iff_eq, Calendar.Span.mk.injEq]
  | instant =>
    have hsame : (Value.instant ⟨x⟩).same (.instant ⟨p⟩) = ((⟨x⟩ : Calendar.Instant) == ⟨p⟩) := rfl
    rw [value, value, hsame, beq_iff_eq, Calendar.Instant.mk.injEq]

theorem related_value (r : Relation) : (τ.value x).related r (τ.value p) = .ok (r.holds (compare x p)) := by
  cases τ <;> rfl

theorem isIn_value : Value.isIn (τ.value x) (ps.map τ.value) = true ↔ x ∈ ps := by
  rw [Value.isIn, List.any_map, List.any_eq_true]
  constructor
  · rintro ⟨p, hp, h⟩
    rw [Function.comp, same_value, decide_eq_true_eq] at h
    exact h ▸ hp
  · intro hx
    exact ⟨x, hx, by rw [Function.comp, same_value, decide_eq_true_eq]⟩

theorem holds_value (ht : t ∈ comparisons.map (·.2)) (hlists : t ∉ Test.lists) :
    t.holds (τ.value x) (τ.value p) = .ok true ↔ t.Compares x [p] := by
  have hrelated (r : Relation) : (τ.value x).related r (τ.value p) = .ok true ↔ r.holds (compare x p) = true := by
    rw [τ.related_value, Except.ok.injEq]
  simp only [comparisons, List.map_cons, List.map_nil, List.mem_cons, List.not_mem_nil, or_false] at ht
  rcases ht with rfl | rfl | rfl | rfl | rfl | rfl | rfl
  · simp [Test.holds, Test.Compares, same_value, pure, Except.pure]
  · simp [Test.holds, Test.Compares, hrelated, Relation.holds, compare_lt_iff_lt]
  · simp [Test.holds, Test.Compares, hrelated, Relation.holds, compare_le_iff_le]
  · simp [Test.holds, Test.Compares, hrelated, Relation.holds, compare_gt_iff_gt]
  · simp [Test.holds, Test.Compares, hrelated, Relation.holds, compare_ge_iff_ge]
  · exact absurd (by decide) hlists
  · exact absurd (by decide) hlists

theorem holds_values (ht : t ∈ Test.lists) :
    t.holds (τ.value x) (.tuple (ps.map τ.value)) = .ok true ↔ t.Compares x ps := by
  have hcontains : (Value.tuple (ps.map τ.value)).contains (τ.value x) = .ok (Value.isIn (τ.value x) (ps.map τ.value)) :=
    rfl
  simp only [Test.lists, List.mem_cons, List.not_mem_nil, or_false] at ht
  rcases ht with rfl | rfl
  · rw [Test.holds, hcontains, Except.ok.injEq, τ.isIn_value]
    rfl
  · rw [Test.holds, hcontains]
    change Except.ok (!Value.isIn (τ.value x) (ps.map τ.value)) = .ok true ↔ x ∉ ps
    rw [Except.ok.injEq, Bool.not_eq_true', ← Bool.not_eq_true, τ.isIn_value]

end

/-! ## Parameters -/

/-- The rules that compare times are there for all fields of their parameters: lists for the rules on lists, and one
time for the others. -/
theorem fields_regular : ∀ τ ∈ [span, instant], ∀ e ∈ comparisons, ((Layout.parametersType τ.kind).field? e.1).all
    (fun f => f.type == .message τ.typeName && f.shape == (if e.2 ∈ Test.lists then .repeated else .singular) &&
      (standard? τ.kind e.1).isSome) = true := by
  decide +kernel

end Time

def Content.messages : Content → List Message
  | .single (.message m) => [m]
  | .repeated ds => ds.filterMap fun
    | .message m => some m
    | _ => none
  | _ => []

section
variable {τ : Time} {f : Field} {c : Content} {n : String} {ps : List Message}

theorem Field.admits_message (hf : f.type = .message n) (hs : f.shape = .singular) (h : f.admits c = true) :
    ∃ p, c = .single (.message p) := by
  cases c with
  | single e =>
    rw [Field.admits, hf, Bool.and_eq_true] at h
    cases e with
    | message p => exact ⟨p, rfl⟩
    | _ => cases h.2
  | _ => simp [Field.admits, hs] at h

theorem Field.admits_messages (hf : f.type = .message n) (hs : f.shape = .repeated) (h : f.admits c = true) :
    ∃ ps : List Message, c = .repeated (ps.map .message) := by
  cases c with
  | «repeated» es =>
    rw [Field.admits, hf, Bool.and_eq_true] at h
    have hall : ∀ e ∈ es, ∃ p, e = .message p := by
      intro e he
      have hadmits := List.all_eq_true.1 h.2 e he
      cases e with
      | message p => exact ⟨p, rfl⟩
      | _ => cases hadmits
    clear h
    induction es with
    | nil => exact ⟨[], rfl⟩
    | cons e es ih =>
      obtain ⟨p, rfl⟩ := hall e List.mem_cons_self
      obtain ⟨ps, hps⟩ := ih fun e he => hall e (List.mem_cons_of_mem _ he)
      exact ⟨p :: ps, by rw [Content.repeated.inj hps]; rfl⟩
  | _ => simp [Field.admits, hs] at h

theorem Content.messages_repeated : (Content.repeated (ps.map .message)).messages = ps := by
  rw [messages, List.filterMap_map]
  exact List.filterMap_some

theorem boundAll_times (h : ∀ p ∈ ps, p.IsTime τ ∧ p.isBound = true) :
    boundAll (ps.map .message) = .ok ((ps.map (·.nanoseconds)).map τ.truncate |>.map τ.value) := by
  induction ps with
  | nil => rfl
  | cons p ps ih =>
    have hp := h p List.mem_cons_self
    have hbound : (Datum.message p).bound = .ok (τ.value (τ.truncate p.nanoseconds)) := hp.1.bound_eq hp.2
    rw [List.map_cons, boundAll, hbound, ih fun q hq => h q (List.mem_cons_of_mem _ hq)]
    rfl

end

/-! ## The rules -/

namespace Time

variable {τ : Time} {name : String} {t : Test} {f : Field} {c : Content}

theorem field_regular (ht : (name, t) ∈ comparisons) (hf : (Layout.parametersType τ.kind).field? name = some f) :
    f.type = .message τ.typeName ∧ f.shape = (if t ∈ Test.lists then .repeated else .singular) ∧
      ∃ r, standard? τ.kind name = some r := by
  have h := (Option.all_eq_true _ _).1 (fields_regular τ (by cases τ <;> simp) (name, t) ht) f hf
  simp only [Bool.and_eq_true, beq_iff_eq] at h
  exact ⟨h.1.1, h.1.2, Option.isSome_iff_exists.1 h.2⟩

/-- The parameter is a time or a list of times, with which the test compares the truncated numbers. -/
theorem exists_parameter (ht : (name, t) ∈ comparisons) (hf : (Layout.parametersType τ.kind).field? name = some f)
    (hc : f.admits c = true) (hps : ∀ p ∈ c.messages, p.IsTime τ) (hbounds : ∀ p ∈ c.messages, p.isBound = true) :
    ∃ param, parameter c = .ok param ∧ ∀ x, t.holds (τ.value x) param = .ok true ↔
      t.Compares x ((c.messages.map (·.nanoseconds)).map τ.truncate) := by
  obtain ⟨htype, hshape, -⟩ := field_regular ht hf
  by_cases hlists : t ∈ Test.lists
  · rw [if_pos hlists] at hshape
    obtain ⟨ps, rfl⟩ := Field.admits_messages htype hshape hc
    rw [Content.messages_repeated] at hps hbounds ⊢
    have hparam : parameter (.repeated (ps.map .message)) =
        .ok (.tuple ((ps.map (·.nanoseconds)).map τ.truncate |>.map τ.value)) := by
      rw [parameter, boundAll_times fun p hp => ⟨hps p hp, hbounds p hp⟩]
      rfl
    exact ⟨_, hparam, fun x => τ.holds_values hlists⟩
  · rw [if_neg hlists] at hshape
    obtain ⟨p, rfl⟩ := Field.admits_message htype hshape hc
    have hp : p ∈ (Content.single (.message p)).messages := List.mem_singleton_self p
    have hparam : parameter (.single (.message p)) = .ok (τ.value (τ.truncate p.nanoseconds)) :=
      (hps p hp).bound_eq (hbounds p hp)
    exact ⟨_, hparam, fun x => τ.holds_value (List.mem_map.2 ⟨_, ht, rfl⟩) hlists⟩

theorem exists_check_of_parameter (ht : (name, t) ∈ comparisons)
    (hf : (Layout.parametersType τ.kind).field? name = some f) (hc : f.admits c = true) {param : Value}
    (hparam : parameter c = .ok param) {r : Rule} (hr : standard? τ.kind name = some r) (s : Schema) (place : String)
    (type : FieldType) : ∃ check, (standardCheck s place type ⟨r, param⟩).outcome = .ok check ∧
      ∀ v now, check.Passes s v now ↔ t.holds v param = .ok true := by
  obtain ⟨hmem, hkind, hname⟩ := standard?_eq_some hr
  have hranges : hasRanges τ.kind = true := by cases τ <;> rfl
  have hdomain : ∃ d, kindDomain τ.kind = some d := by cases τ <;> exact ⟨_, rfl⟩
  obtain ⟨d, hd⟩ := hdomain
  have hdeclared : TypedRules.Declared ⟨τ.kind, [(name, c)]⟩ := fun e he => by
    obtain rfl := List.mem_singleton.1 he
    exact ⟨f, hf, hc⟩
  have hfits : Active.Fits ⟨r, param⟩ τ.kind :=
    ⟨hmem, hkind, hdeclared.parameter_holds List.mem_cons_self hr hparam⟩
  obtain ⟨check, hcheck⟩ := exists_standardCheck hfits hranges hd
  exact ⟨check, hcheck, fun v now => standardCheck_passes hfits hranges (by rw [hname]; exact ht) hcheck⟩

/-- A rule passes on a time as its test holds for the truncated numbers. -/
theorem exists_check (ht : (name, t) ∈ comparisons) (hf : (Layout.parametersType τ.kind).field? name = some f)
    (hc : f.admits c = true) {m : Message} (hm : m.IsTime τ) (hps : ∀ p ∈ c.messages, p.IsTime τ)
    (hbound : m.isBound = true) (hbounds : ∀ p ∈ c.messages, p.isBound = true) (s : Schema) (place : String)
    (type : FieldType) : ∃ v param r check, m.bound = .ok v ∧ parameter c = .ok param ∧ standard? τ.kind name = some r ∧
      (standardCheck s place type ⟨r, param⟩).outcome = .ok check ∧ ∀ now, check.Passes s v now ↔
        t.Compares (τ.truncate m.nanoseconds) ((c.messages.map (·.nanoseconds)).map τ.truncate) := by
  obtain ⟨-, -, r, hr⟩ := field_regular ht hf
  obtain ⟨param, hparam, hcompares⟩ := exists_parameter ht hf hc hps hbounds
  obtain ⟨check, hcheck, hpasses⟩ := exists_check_of_parameter ht hf hc hparam hr s place type
  exact ⟨_, param, r, check, hm.bound_eq hbound, hparam, hr, hcheck, fun now => (hpasses _ now).trans (hcompares _)⟩

/-- What truncation does to the rules on times. Rules that equal times pass still pass where exact comparison holds;
rules that equal times fail pass only where it holds; and between whole microseconds all rules are exact. Instants can
always be compared, spans as far as they can be bound. -/
theorem rule_truncates (ht : (name, t) ∈ comparisons) (hf : (Layout.parametersType τ.kind).field? name = some f)
    (hc : f.admits c = true) {m : Message} (hm : m.IsTime τ) (hps : ∀ p ∈ c.messages, p.IsTime τ)
    (hspan : τ = .span → m.isBound = true ∧ ∀ p ∈ c.messages, p.isBound = true) (s : Schema) (place : String)
    (type : FieldType) : ∃ v param r check, m.bound = .ok v ∧ parameter c = .ok param ∧ standard? τ.kind name = some r ∧
      (standardCheck s place type ⟨r, param⟩).outcome = .ok check ∧ ∀ now,
        (t ∈ Test.loose → t.Compares m.nanoseconds (c.messages.map (·.nanoseconds)) → check.Passes s v now) ∧
        (t ∈ Test.strict → check.Passes s v now → t.Compares m.nanoseconds (c.messages.map (·.nanoseconds))) ∧
        ((1000 : Int) ∣ m.nanoseconds → (∀ p ∈ c.messages, (1000 : Int) ∣ p.nanoseconds) →
          (check.Passes s v now ↔ t.Compares m.nanoseconds (c.messages.map (·.nanoseconds)))) := by
  have hbounds : m.isBound = true ∧ ∀ p ∈ c.messages, p.isBound = true := by
    cases τ with
    | span => exact hspan rfl
    | instant => exact ⟨hm.isBound_instant, fun p hp => (hps p hp).isBound_instant⟩
  obtain ⟨v, param, r, check, hv, hparam, hr, hcheck, hpasses⟩ :=
    exists_check ht hf hc hm hps hbounds.1 hbounds.2 s place type
  refine ⟨v, param, r, check, hv, hparam, hr, hcheck, fun now => ⟨fun hloose h => ?_, fun hstrict h => ?_, ?_⟩⟩
  · exact (hpasses now).2 (h.truncate τ hloose)
  · exact ((hpasses now).1 h).of_truncate τ hstrict
  · exact fun hx hwhole => (hpasses now).trans (Test.compares_truncate_iff τ hx (List.forall_mem_map.2 hwhole))

end Time

namespace Sample

def spanParts (seconds nanos : Int) : Message :=
  .mk Schema.durationName [("seconds", .single (.int seconds)), ("nanos", .single (.int nanos))]

theorem spanParts_isTime {seconds nanos : Int} (hn : nanos.natAbs < 1000000000)
    (h : 0 ≤ seconds ∧ 0 ≤ nanos ∨ seconds ≤ 0 ∧ nanos ≤ 0) : (spanParts seconds nanos).IsTime .span :=
  ⟨rfl, hn, h⟩

end Sample

open Sample

/-- A span below its bound by less than a microsecond passes, though the two are bound to one value. -/
theorem Time.rule_truncates_of_near : (spanParts (-2) (-1)).IsTime .span ∧ (spanParts (-2) 0).IsTime .span ∧
    ∃ v param r check, (spanParts (-2) (-1)).bound = .ok v ∧
      parameter (.single (.message (spanParts (-2) 0))) = .ok param ∧ standard? Time.span.kind "lte" = some r ∧
      (standardCheck Layout.schema "Box.span" (.message Schema.durationName) ⟨r, param⟩).outcome = .ok check ∧
      ∀ now, check.Passes Layout.schema v now := by
  have hvalue : (spanParts (-2) (-1)).IsTime .span := spanParts_isTime (by decide) (by decide)
  have hparam : (spanParts (-2) 0).IsTime .span := spanParts_isTime (by decide) (by decide)
  obtain ⟨f, hf, hc⟩ : ∃ f, (Layout.parametersType Time.span.kind).field? "lte" = some f ∧
      f.admits (.single (.message (spanParts (-2) 0))) = true :=
    (Option.any_eq_true _ _).1 (by decide +kernel)
  have hmessages : ∀ p ∈ (Content.single (.message (spanParts (-2) 0))).messages, p.IsTime .span ∧ p.isBound = true := by
    intro p hp
    obtain rfl := List.mem_singleton.1 hp
    exact ⟨hparam, by decide +kernel⟩
  have hlte : ("lte", Test.lte) ∈ comparisons := by decide
  obtain ⟨v, param, r, check, hv, hparameter, hr, hcheck, h⟩ := Time.rule_truncates hlte hf hc hvalue
    (fun p hp => (hmessages p hp).1)
    (fun _ => ⟨by decide +kernel, fun p hp => (hmessages p hp).2⟩) Layout.schema "Box.span" (.message Schema.durationName)
  refine ⟨hvalue, hparam, v, param, r, check, hv, hparameter, hr, hcheck, fun now => (h now).1 (by decide) ?_⟩
  intro n hn
  obtain rfl := List.mem_singleton.1 hn
  decide +kernel

/-- A span of −10¹⁵ seconds is less than nothing, but it cannot be bound, so there is no value for the rule to pass. -/
theorem Time.rule_refuses_longAgo : (spanParts (-1000000000000000) 0).IsTime .span ∧ (spanParts 0 0).IsTime .span ∧
    Test.lte.Compares (spanParts (-1000000000000000) 0).nanoseconds [(spanParts 0 0).nanoseconds] ∧
    (spanParts (-1000000000000000) 0).bound = .error .tooLarge := by
  refine ⟨spanParts_isTime (by decide) (by decide), spanParts_isTime (by decide) (by decide), fun n hn => ?_, ?_⟩
  · obtain rfl := List.mem_singleton.1 hn
    decide +kernel
  · rfl

end Conformance
