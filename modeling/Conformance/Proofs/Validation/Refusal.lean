import Conformance.Proofs.Validation.Check
import Conformance.Proofs.Walk.Live

/-!
# When a message is refused for its type

Whether validation ends because a type was refused is settled before the message is looked at. Once the type of a
message is resolved, all rules that its walk asks for are there, whatever is forgotten in the meantime.
-/

namespace Conformance

variable {s : Schema}

namespace Workspace

end Workspace
end Conformance
