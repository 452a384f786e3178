import Conformance.Proofs.Validation.History
import Conformance.Proofs.Walk.Events

/-!
# Ending at the first violation

A walk that ends at the first violation and one that goes on have the same events. So the first violation
of the full walk is all that the short one finds, whatever the full walk goes on to, and without a violation
both end alike.
-/

namespace Conformance

namespace Walk

theorem events_failFast (c : WalkContext) (b : Bool) : ∀ (fuel depth : Nat) (r : TypeRules) (m : Message)
    (path : Path), events { c with failFast := b } fuel depth r m path = events c fuel depth r m path
  | 0, _, _, _, _ => rfl
  | fuel + 1, depth, r, m, path => by
    have htask : ∀ f g : String → Message → Path → List Event, f = g →
        Task.events { c with failFast := b } f = Task.events c g := by
      rintro f _ rfl
      funext t
      cases t <;> rfl
    unfold events
    congr 2
    refine congrArg (List.flatMap · _) (htask _ _ ?_)
    funext type inner place
    unfold inside
    cases c.rulesOf type with
    | error f => rfl
    | ok rules => exact events_failFast c b fuel (depth + 1) rules inner place

end Walk

namespace WalkContext

variable (c : WalkContext) (r : TypeRules) (m : Message)

theorem verdict_failFast (b : Bool) :
    { c with failFast := b }.violations r m = Event.verdict b (c.events r m) := by
  rw [violations_eq, events, Walk.events_failFast]
  rfl

theorem recorded_full :
    (Walk.run { c with failFast := false } r m).2.violations = Event.found (c.events r m) := by
  rw [Walk.run_eq, events, Walk.events_failFast]
  exact (Event.play_full (c.events r m) {}).2

/-- A short walk gives the first violation that the full one records, even if that one fails later on; when
the full walk records none, both have the same outcome. -/
theorem violations_failFast :
    { c with failFast := true }.violations r m =
      match (Walk.run { c with failFast := false } r m).2.violations with
      | [] => { c with failFast := false }.violations r m
      | v :: _ => .ok [v] := by
  rw [recorded_full, verdict_failFast, verdict_failFast]
  cases hf : Event.found (c.events r m) <;> simp [Event.verdict, hf]

theorem recorded_of_ok {vs : List Violation} (h : { c with failFast := false }.violations r m = .ok vs) :
    (Walk.run { c with failFast := false } r m).2.violations = vs := by
  rw [verdict_failFast] at h
  rw [recorded_full]
  exact (Event.verdict_full_eq_ok.1 h).2

end WalkContext

namespace Workspace

/-- The violations that an evaluation to the end records before it ends, however it ends. -/
def recorded (w : Workspace) (resolver : Nat) (maxDepth : Int) (now : Value) (m : Message) : List Violation :=
  match (resolveIn resolver m.type).run w with
  | ((.error _, _), _) => []
  | ((.ok rules, _), w) => (Walk.run (w.context resolver maxDepth false now m.type) rules m).2.violations

variable (w : Workspace) (resolver : Nat) (maxDepth : Int) (now : Value) (m : Message)

theorem evaluate_first : ((evaluate resolver maxDepth true now m).run w).1 =
    match w.recorded resolver maxDepth now m with
    | [] => ((evaluate resolver maxDepth false now m).run w).1
    | v :: _ => .ok [v] := by
  unfold recorded
  rw [evaluate_run, evaluate_run]
  generalize (resolveIn resolver m.type).run w = resolved
  obtain ⟨⟨f | rules, identity⟩, w⟩ := resolved
  · rfl
  · have h : (w.context resolver maxDepth true now m.type).violations rules m =
        match (Walk.run (w.context resolver maxDepth false now m.type) rules m).2.violations with
        | [] => (w.context resolver maxDepth false now m.type).violations rules m
        | v :: _ => .ok [v] :=
      (w.context resolver maxDepth false now m.type).violations_failFast rules m
    dsimp only
    rw [h]
    cases (Walk.run (w.context resolver maxDepth false now m.type) rules m).2.violations <;> rfl

theorem recorded_of_evaluate {vs : List Violation}
    (h : ((evaluate resolver maxDepth false now m).run w).1 = .ok vs) : w.recorded resolver maxDepth now m = vs := by
  unfold recorded
  rw [evaluate_run] at h
  generalize (resolveIn resolver m.type).run w = resolved at h
  obtain ⟨⟨f | rules, identity⟩, w⟩ := resolved
  · cases h
  · exact (w.context resolver maxDepth false now m.type).recorded_of_ok rules m (mapError_eq_ok.1 h)

/-- Evaluation up to the first violation gives the first one that evaluation to the end records, even if that
fails later on; when none is recorded, both have the same outcome. In particular one of them gives no
violations when the other does, and the short one fails only as the full one does. -/
theorem evaluate_failFast (w : Workspace) (resolver : Nat) (maxDepth : Int) (now : Value) (m : Message) :
    let full := ((evaluate resolver maxDepth false now m).run w).1
    let short := ((evaluate resolver maxDepth true now m).run w).1
    (short = match w.recorded resolver maxDepth now m with
      | [] => full
      | v :: _ => .ok [v]) ∧
    (short = .ok [] ↔ full = .ok []) ∧ ∀ e, short = .error e → full = .error e := by
  intro full short
  have hfirst := evaluate_first w resolver maxDepth now m
  refine ⟨hfirst, ⟨fun h => ?_, fun h => ?_⟩, fun e h => ?_⟩
  · rw [show short = _ from hfirst] at h
    cases hr : w.recorded resolver maxDepth now m with
    | nil => rwa [hr] at h
    | cons v vs => simp [hr] at h
  · rw [recorded_of_evaluate w resolver maxDepth now m h] at hfirst
    exact hfirst.trans h
  · rw [show short = _ from hfirst] at h
    cases hr : w.recorded resolver maxDepth now m with
    | nil => rwa [hr] at h
    | cons v vs => simp [hr] at h

end Workspace
end Conformance
