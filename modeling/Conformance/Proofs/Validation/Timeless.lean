import Conformance.Proofs.Constraint.Timeless
import Conformance.Proofs.Validation.History
import Conformance.Proofs.Walk.Relaxed

/-!
# Validation at different times

Where no rule asks for the time, validation of a message comes to the same at all times.
-/

namespace Conformance

/-- A walk at another time. -/
abbrev WalkContext.atTime (c : WalkContext) (now : Value) : WalkContext := { c with now }

variable {s : Schema}

theorem Demand.events_atTime {d : Demand} (hd : ∀ c v p k, d = .check c v p k → c.IsTimeless) (now now' : Value) :
    d.events s now = d.events s now' := by
  cases d with
  | field path => rfl
  | oneof path => rfl
  | check c v p k =>
    have hrun : c.run s v now = c.run s v now' := (hd c v p k rfl).run_eq s v now now'
    simp only [events, result, hrun]

theorem Schema.IsTimeless.inner {type name : String} (h : s.IsTimeless type) (hd : s.Depends type name) :
    s.IsTimeless name := fun n hn => h n (.step hd hn)

/-- A walk that meets no check that asks for the time makes the same events at all times. -/
theorem Walk.events_atTime (c : WalkContext) (now : Value) : ∀ (fuel depth : Nat) (type : String) (m : Message) (path : Path),
    c.schema.Resolves type → c.schema.IsTimeless type →
      events (c.declared.atTime now) fuel depth (c.schema.rules type) m path =
        events c.declared fuel depth (c.schema.rules type) m path
  | 0, _, _, _, _, _, _ => rfl
  | fuel + 1, depth, type, m, path, hr, hs => by
    rw [events_succ (c.declared.atTime now), events_succ c.declared]
    split
    · rfl
    refine List.flatMap_congr fun t ht => ?_
    cases t with
    | unbound f => rfl
    | demand d =>
      refine Demand.events_atTime (fun check v p k hcheck => ?_) now c.now
      subst hcheck
      exact (hs type (.refl _ type)).check (TypeRules.check_mem_tasks ht)
    | inner name inner place =>
      have hdepends := hr.inner ht
      have ih := events_atTime c now fuel (depth + 1) name inner place (hr.below (.single hdepends)) (hs.inner hdepends)
      simp only [Task.events, inside, ih]

namespace Workspace

/-- Evaluation of a message fails before the walk, at all times and under all limits in the same way, or its type
resolves. -/
theorem Faithful.evaluate_unresolved {w : Workspace} (h : w.Faithful s) (resolver : Nat) (m : Message)
    (hr : ¬s.Resolves m.type) : ∃ e, ∀ maxDepth failFast now,
      ((evaluate resolver maxDepth failFast now m).run w).1 = .error e := by
  have hg := h.resolveIn_gives resolver m.type
  cases hrun : (resolveIn resolver m.type).run w with
  | mk resolved w' =>
  rw [hrun] at hg
  obtain ⟨f | rules, identity⟩ := resolved
  · exact ⟨⟨f, identity⟩, fun maxDepth failFast now => by rw [evaluate_run, hrun]⟩
  · exact absurd hg.2 hr

/-- Evaluation of a message comes to the same at all times, where no type that it may get to has a rule that asks for the
time: the same violations, or the same error. -/
theorem evaluate_timeless (s : Schema) (config : Config) (history : List Operation) (resolver : Nat) (maxDepth : Int)
    (failFast : Bool) (m : Message) (hs : s.IsTimeless m.type) (now now' : Value) :
    ((evaluate resolver maxDepth failFast now m).run (after s config history)).1 =
      ((evaluate resolver maxDepth failFast now' m).run (after s config history)).1 := by
  have hw := faithful_after s config history
  by_cases hr : s.Resolves m.type
  · rw [hw.evaluate_of_resolves resolver hr, hw.evaluate_of_resolves resolver hr, WalkContext.violations_eq,
      WalkContext.violations_eq]
    let c : WalkContext := { schema := s, rulesOf := fun type => .ok (s.rules type), failFast, maxDepth, now := now',
                             root := m.type }
    have hevents : (c.declared.atTime now).events (s.rules m.type) m = c.declared.events (s.rules m.type) m :=
      Walk.events_atTime c now _ 0 m.type m [] hr hs
    exact congrArg (fun es => (Event.verdict failFast es).mapError (⟨·, none⟩ : Failure → Raised)) hevents
  · obtain ⟨e, he⟩ := hw.evaluate_unresolved resolver m hr
    rw [he, he]

end Workspace

/-! ## A visit -/

namespace Sample

/-- Visits start after the beginning of 1970, and not at the full hour. -/
def visitStart : FieldConstraints :=
  { typed := some ⟨"timestamp", [("gt", .single (.message (.unset Schema.timestampName)))]⟩
    custom := [⟨"full", "visits start late", "this.minute > 0"⟩] }

def visit : MessageType :=
  { name := "Visit"
    fields := [
      { name := "start", number := 1, type := .message Schema.timestampName, shape := .singular, oneof := none,
        optional := false, hasPresence := true, default := .message (.unset Schema.timestampName),
        constraints := some visitStart, presence := fun _ _ _ => rfl }]
    oneofs := []
    constraints := none }

def visits : Schema := ⟨[visit], []⟩

/-- A visit at ten past the first hour. -/
def earlyVisit : Message :=
  .mk "Visit" [("start", .single (.message (.mk Schema.timestampName [("seconds", .single (.int 600))])))]

theorem visits_timeless : visits.IsTimeless "Visit" := by
  have hclosed : ∀ n ∈ ["Visit"], ∀ d ∈ (visits.rules n).dependencies, d ∈ ["Visit"] := by decide +kernel
  have htyped : ∀ part ∈ visitStart.parts, ∀ u ∈ part.typed, ∀ a ∈ u.active, a.rule.name ∉ Rule.clocks := by
    decide +kernel
  have hcustom : ∀ r ∈ visit.customs,
      (Program.compile ⟨r.expression, Rule.customVariables⟩).toOption.all (!·.namesNow) = true := by
    decide +kernel
  intro name hname
  obtain rfl := List.mem_singleton.1 (Schema.mem_of_below hclosed List.mem_cons_self hname)
  refine fun _ => ⟨fun f hf part hpart u hu => ?_, fun r hr => CustomRule.isTimeless_of_compile (hcustom r hr)⟩
  obtain rfl := List.mem_singleton.1 hf
  exact htyped part hpart u hu

end Sample

namespace Workspace

/-- A visit is looked at when it starts and much later. -/
theorem evaluate_timeless_of_visit : Sample.visits.IsTimeless "Visit" ∧
    ((evaluate 0 32 false (.instant ⟨600000000⟩) Sample.earlyVisit).run (after Sample.visits {} [])).1 =
      ((evaluate 0 32 false (.instant ⟨1000000000000000⟩) Sample.earlyVisit).run (after Sample.visits {} [])).1 :=
  ⟨Sample.visits_timeless,
    evaluate_timeless Sample.visits {} [] 0 32 false Sample.earlyVisit Sample.visits_timeless _ _⟩

end Workspace
end Conformance
