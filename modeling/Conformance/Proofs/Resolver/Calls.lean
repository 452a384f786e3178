import Conformance.Proofs.Resolver.Faithful

/-!
# Calls of a resolver

What is asked of a resolver, in any order and any number of times. A new resolver that went through calls
remembers what is declared, whatever the calls were.
-/

namespace Conformance.Resolver

inductive Call where
  /-- To give the rules of a type, at an age of the cache of programs. -/
  | resolve (age : Nat) (name : String)
  /-- To forget a type, or all of them. -/
  | invalidate (name : Option String)

def Call.apply (s : Schema) (r : Resolver) : Call → Resolver
  | resolve age name => (r.resolve s age name).resolver
  | invalidate name => r.invalidate name

/-- A resolver that was new and went through calls. -/
def after (s : Schema) (calls : List Call) : Resolver := calls.foldl (Call.apply s) {}

variable {s : Schema} {calls : List Call}

theorem after_concat (s : Schema) (calls : List Call) (c : Call) :
    after s (calls ++ [c]) = c.apply s (after s calls) := by
  simp [after]

/-- What is so of a new resolver and is kept by each of the calls. -/
theorem after_induction {P : Resolver → Prop} (hnew : P {})
    (hresolve : ∀ age name, .resolve age name ∈ calls → ∀ r, P r → P (r.resolve s age name).resolver)
    (hinvalidate : ∀ name, .invalidate name ∈ calls → ∀ r, P r → P (r.invalidate name)) : P (after s calls) := by
  refine List.foldlRecOn calls (Call.apply s) hnew ?_
  intro r h c hc
  cases c with
  | resolve age name => exact hresolve age name hc r h
  | invalidate name => exact hinvalidate name hc r h

theorem faithful_after (s : Schema) (calls : List Call) : (after s calls).Faithful s :=
  after_induction (faithful_empty s) (fun age name _ _ h => h.resolve age name) fun name _ _ h => h.invalidate name

/-- Calls that resolve certain types only, apart from types that resolve without failure. -/
def Call.Within (s : Schema) (asked : String → Prop) : Call → Prop
  | resolve _ name => asked name ∨ s.Resolves name
  | invalidate _ => True

/-- A resolver went through such calls only. -/
def Reached (s : Schema) (asked : String → Prop) (r : Resolver) : Prop :=
  ∃ calls, (∀ c ∈ calls, c.Within s asked) ∧ r = after s calls

namespace Reached

variable {asked : String → Prop} {r : Resolver}

theorem new : Reached s asked {} := ⟨[], by simp, rfl⟩

theorem apply (h : r.Reached s asked) {c : Call} (hc : c.Within s asked) : (c.apply s r).Reached s asked := by
  obtain ⟨calls, hcalls, rfl⟩ := h
  refine ⟨calls ++ [c], ?_, (after_concat s calls c).symm⟩
  intro d hd
  rcases List.mem_append.1 hd with hd | hd
  · exact hcalls d hd
  · rwa [List.mem_singleton.1 hd]

theorem faithful (h : r.Reached s asked) : r.Faithful s := by
  obtain ⟨calls, -, rfl⟩ := h
  exact faithful_after s calls

end Reached
end Conformance.Resolver
