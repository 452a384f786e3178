import Conformance.Proofs.Walk.FailFast
import Conformance.Proofs.Walk.Faults

/-!
# What leaves a check

A check turns failures into a part of its outcome, but not faults: these leave it. It is said here exactly when
that happens, by what validation meets on its way.
-/

namespace Conformance

namespace Event

/-- Events end in a failure: nothing fails before it, and nothing is violated before it where the first
violation is enough. -/
def EndIn (failFast : Bool) (es : List Event) (f : Failure) : Prop :=
  ∃ pre post, es = pre ++ .failure f :: post ∧ (∀ g, .failure g ∉ pre) ∧
    (failFast = true → ∀ v, .violation v ∉ pre)

variable {failFast : Bool} {es : List Event} {e : Event} {f : Failure}

theorem endIn_cons (hf : ∀ g, e ≠ .failure g) (hv : failFast = true → ∀ v, e ≠ .violation v) :
    EndIn failFast (e :: es) f ↔ EndIn failFast es f := by
  constructor
  · rintro ⟨_ | ⟨x, pre⟩, post, h, hp, hq⟩
    · cases h
      exact absurd rfl (hf f)
    · cases h
      exact ⟨pre, post, rfl, fun g hg => hp g (List.mem_cons_of_mem _ hg),
        fun hff v hv => hq hff v (List.mem_cons_of_mem _ hv)⟩
  · rintro ⟨pre, post, rfl, hp, hq⟩
    refine ⟨e :: pre, post, rfl, fun g hg => ?_, fun hff v hm => ?_⟩
    · rcases List.mem_cons.1 hg with h | h
      · exact hf g h.symm
      · exact hp g h
    · rcases List.mem_cons.1 hm with h | h
      · exact hv hff v h.symm
      · exact hq hff v h

theorem not_endIn_violation {v : Violation} : ¬EndIn true (violation v :: es) f := by
  rintro ⟨_ | ⟨x, pre⟩, post, h, -, hq⟩
  · cases h
  · cases h
    exact hq rfl v List.mem_cons_self

theorem endIn_failure {g : Failure} : EndIn failFast (failure g :: es) f ↔ g = f := by
  constructor
  · rintro ⟨_ | ⟨x, pre⟩, post, h, hp, -⟩
    · cases h
      rfl
    · cases h
      exact absurd List.mem_cons_self (hp g)
  · rintro rfl
    exact ⟨[], es, rfl, fun _ => List.not_mem_nil, fun _ _ => List.not_mem_nil⟩

/-- Validation fails as its events end. -/
theorem verdict_eq_error : verdict failFast es = .error f ↔ EndIn failFast es f := by
  induction es with
  | nil =>
    refine iff_of_false ?_ ?_
    · cases failFast <;> exact nofun
    · rintro ⟨_ | _, _, h, -⟩ <;> cases h
  | cons e es ih =>
    cases e with
    | enter type => exact ih.trans (endIn_cons (by simp) (by simp)).symm
    | failure g =>
      rw [endIn_failure]
      cases failFast <;> simp [verdict, found, ending, Except.map]
    | violation v =>
      cases failFast with
      | true => exact iff_of_false (by simp [verdict, found]) not_endIn_violation
      | false =>
        rw [endIn_cons (by simp) (by simp), ← ih, verdict_full_eq_error, verdict_full_eq_error]
        rfl

end Event

namespace Workspace

/-- What validation of a message meets: the failure to have rules for it, or the events of the walk. -/
def encounters (w : Workspace) (resolver : Nat) (maxDepth : Int) (now : Value) (m : Message) : List Event :=
  match (resolveIn resolver m.type).run w with
  | ((.error f, _), _) => [.failure f]
  | ((.ok rules, _), w) => (w.context resolver maxDepth false now m.type).events rules m

theorem evaluate_verdict (w : Workspace) (resolver : Nat) (maxDepth : Int) (failFast : Bool) (now : Value)
    (m : Message) :
    ((evaluate resolver maxDepth failFast now m).run w).1.mapError (·.failure) =
      Event.verdict failFast (w.encounters resolver maxDepth now m) := by
  rw [evaluate_run, encounters]
  generalize (resolveIn resolver m.type).run w = resolved
  obtain ⟨⟨f | rules, identity⟩, w⟩ := resolved
  · cases failFast <;> rfl
  · have h : (w.context resolver maxDepth failFast now m.type).violations rules m = _ :=
      (w.context resolver maxDepth false now m.type).verdict_failFast rules m failFast
    dsimp only
    rw [h]
    cases Event.verdict failFast _ <;> rfl

theorem Faithful.faults_of_encounters {s : Schema} {w : Workspace} (h : w.Faithful s) {resolver : Nat}
    {maxDepth : Int} {now : Value} {m : Message} {f : Fault}
    (hm : .failure (.fault f) ∈ w.encounters resolver maxDepth now m) : s.Faults f := by
  have hg := h.resolveIn_gives resolver m.type
  have hw := h.after_resolveIn resolver m.type
  unfold encounters at hm
  cases hr : (resolveIn resolver m.type).run w with
  | mk resolved w' =>
  rw [hr] at hm hg hw
  obtain ⟨g | rules, identity⟩ := resolved
  · cases List.mem_singleton.1 hm
    exact .constraints (Schema.FailsBelow.fails hg)
  · obtain rfl : w'.schema = s := hw.schema
    exact faults_of_events hw.context_gives hm

/-! ## Checks -/

section
variable (w : Workspace) (v : Validator) (failFast : Option Bool) (now : Value) (m : Message)

theorem validate_run : ((validate v failFast now m).run w).1 =
    ((evaluate v.resolver v.config.maxDepth (failFast.getD v.config.failFast) now m).run w).1.map
      fun vs => { violations := vs } := rfl

/-- What a check gives for what validation gives: a fault leaves it, other failures become its outcome. -/
theorem check_run : ((check v failFast now m).run w).1 =
    match ((validate v failFast now m).run w).1 with
    | .ok o => .ok (o, none)
    | .error ⟨.fault f, _⟩ => .error f
    | .error ⟨f, identity⟩ => .ok ({ error := some f.report }, identity) := by
  unfold check
  rw [StateT.run_bind]
  generalize (validate v failFast now m).run w = validated
  obtain ⟨⟨f, identity⟩ | o, w⟩ := validated
  · cases f <;> rfl
  · rfl

end

/-- Exactly the faults that validation meets first leave a check; else it gives the violations without an error,
or without violations the error that validation fails with, and is then neither valid nor invalid. The faults
are those of constraints that do not compile, of times and spans that cannot be bound, and of tests. -/
theorem check_outcome (s : Schema) (config : Config) (history : List Operation) (v : Validator)
    (failFast : Option Bool) (now : Value) (m : Message) :
    let w := after s config history
    let validated := ((validate v failFast now m).run w).1
    let checked := ((check v failFast now m).run w).1
    (∀ f, checked = .error f ↔
      Event.EndIn (failFast.getD v.config.failFast) (w.encounters v.resolver v.config.maxDepth now m) (.fault f)) ∧
    (∀ f, checked = .error f → s.Faults f) ∧
    (∀ o, validated = .ok o → checked = .ok (o, none) ∧ o.error = none) ∧
    ∀ f identity, validated = .error ⟨f, identity⟩ → f.isReported = true → ∃ o, checked = .ok (o, identity) ∧
      o.violations = [] ∧ o.error = some f.report ∧ o.valid = false ∧ o.invalid = false := by
  intro w validated checked
  have hc : checked = _ := check_run w v failFast now m
  have hends : ∀ f, checked = .error f ↔
      Event.EndIn (failFast.getD v.config.failFast) (w.encounters v.resolver v.config.maxDepth now m) (.fault f) := by
    intro f
    rw [← Event.verdict_eq_error, ← evaluate_verdict, hc, validate_run]
    cases ((evaluate v.resolver v.config.maxDepth (failFast.getD v.config.failFast) now m).run w).1 with
    | ok vs => constructor <;> rintro ⟨⟩
    | error e =>
      obtain ⟨g, identity⟩ := e
      cases g <;> constructor <;> rintro ⟨⟩ <;> rfl
  refine ⟨hends, fun f hf => ?_, fun o ho => ?_, fun f identity he hf => ?_⟩
  · obtain ⟨pre, post, he, -⟩ := (hends f).1 hf
    have hm : .failure (.fault f) ∈ w.encounters v.resolver v.config.maxDepth now m := by simp [he]
    exact (faithful_after s config history).faults_of_encounters hm
  · rw [show ((validate v failFast now m).run w).1 = .ok o from ho] at hc
    refine ⟨hc, ?_⟩
    rw [show validated = _ from validate_run w v failFast now m] at ho
    cases he : ((evaluate v.resolver v.config.maxDepth (failFast.getD v.config.failFast) now m).run w).1 with
    | ok vs =>
      rw [he] at ho
      cases ho
      rfl
    | error e =>
      rw [he] at ho
      cases ho
  · rw [show ((validate v failFast now m).run w).1 = _ from he] at hc
    cases f with
    | fault f => cases hf
    | _ => exact ⟨_, hc, rfl, rfl, rfl, rfl⟩

end Workspace

/-! ## A time that cannot be bound -/

namespace Sample

/-- Logs are lists of times, without any rules. -/
def log : MessageType :=
  { name := "Log"
    fields := [
      { name := "times", number := 1, type := .message Schema.timestampName, shape := .repeated, oneof := none,
        optional := false, hasPresence := false, default := .message (.unset Schema.timestampName),
        constraints := none, presence := nofun }]
    oneofs := []
    constraints := none }

def logs : Schema := ⟨[log], []⟩

/-- A log of a time long after the year 9999. -/
def lateLog : Message :=
  .mk "Log" [("times", .repeated [.message (.mk Schema.timestampName [("seconds", .single (.int 1000000000000000))])])]

theorem resolve_log (age : Nat) : ({} : Resolver).resolve logs age "Log" =
    ⟨.ok (log.rules logs), some (.type "Log" 0), ⟨[("Log", ⟨.ok (log.rules logs), .type "Log" 0⟩)], 1⟩, []⟩ := by
  have hc : log.compile logs = ⟨.ok (log.rules logs), []⟩ := rfl
  unfold Resolver.resolve
  simp only [List.lookup_nil]
  rw [Building.complete_new rfl rfl rfl hc, show (log.rules logs).dependencies ++ [] = [] from rfl,
    Building.complete]
  rfl

end Sample

namespace Workspace

/-- A repeated field binds its elements even where no rule asks for them; a check of such a log does not
return. -/
theorem check_lateLog :
    ((check (start Sample.logs {}).current none .none Sample.lateLog).run (start Sample.logs {})).1 =
      .error .badValue := by
  change ((check ⟨0, {}, 0⟩ none .none Sample.lateLog).run (start Sample.logs {})).1 = _
  rw [check_run, validate_run, evaluate_run, resolveIn_start Sample.lateLog.type (Sample.resolve_log 0)]
  rfl

end Workspace
end Conformance
