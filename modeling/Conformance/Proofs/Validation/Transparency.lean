import Conformance.Proofs.Validation.Check

/-!
# What was resolved before makes no difference

A resolver that went through calls gives the rules of a type exactly if a new one does, and the same ones. So a
message of a type that resolves is validated as if it were the first one.
-/

namespace Conformance

variable {s : Schema}

namespace Workspace

/-- Validation of a message of a type that resolves depends on the options of the validator only. -/
theorem Faithful.validate_eq {w w' : Workspace} (h : w.Faithful s) (h' : w'.Faithful s) {v v' : Validator}
    (hv : v.config = v'.config) {m : Message} (hr : s.Resolves m.type) (failFast : Option Bool) (now : Value) :
    ((validate v failFast now m).run w).1 = ((validate v' failFast now m).run w').1 := by
  rw [validate_run, validate_run, hv, h.evaluate_of_resolves v.resolver hr, h'.evaluate_of_resolves v'.resolver hr]

end Workspace
end Conformance
