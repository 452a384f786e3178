import Conformance.Proofs.Constraint.Origins
import Conformance.Proofs.Expr.Bare
import Conformance.Proofs.Resolver.Graph

/-!
# Plain checks

Checks that do not ask for the descriptor of a message give the same under all schemas with the same types, whatever these
declare about values. No standard rule asks for one; so where the expressions of a schema do not, no check does.
-/

namespace Conformance

open Rule

/-! ## Checks -/

namespace Check

def IsPlain (c : Check) : Prop := ∀ p, c.program? = some p → p.tree.reflects = false

end Check

/-! ## Standard rules -/

namespace Expr

section
variable {Γ : Context}

mutual

/-- Only literals, names, calls of functions, tuples, differences and comparisons have domains that can be told. -/
theorem reflects_of_infer : ∀ (e : Expr) (d : Domain), infer Γ e = some d → e.reflects = false
  | .literal .., _, _ => rfl
  | .name .., _, _ => rfl
  | .call _ (.name c n) args [], d, h => by
    rw [infer] at h
    split at h
    · next hargs =>
      have hname : (name c n).reflects = false := rfl
      have hchildren : ∀ x ∈ name c n :: args, x.reflects = false :=
        List.forall_mem_cons.2 ⟨hname, reflects_of_inferAll args _ hargs⟩
      exact reflects_of_children rfl (by simpa [children] using hchildren)
    · cases h
  | .row _ .tuple es, d, h => by
    rw [infer] at h
    split at h
    · next hes => exact reflects_of_children rfl (reflects_of_inferAll es _ hes)
    · cases h
  | .binary _ .sub a b, d, h => by
    rw [infer] at h
    split at h
    · next ha hb =>
      have hchildren : ∀ x ∈ [a, b], x.reflects = false := by
        simpa using ⟨reflects_of_infer a _ ha, reflects_of_infer b _ hb⟩
      exact reflects_of_children rfl hchildren
    · cases h
  | .compare _ e rest, d, h => by
    rw [infer] at h
    split at h
    · next he =>
      obtain ⟨hchain, -⟩ := Option.ite_none_right_eq_some.1 h
      have hrest : ∀ x ∈ rest.map (·.2), x.reflects = false :=
        List.forall_mem_map.2 (reflects_of_inferChain rest _ hchain)
      exact reflects_of_children rfl (List.forall_mem_cons.2 ⟨reflects_of_infer e _ he, hrest⟩)
    · cases h
  | .member .., _, h | .subscript .., _, h | .slice .., _, h | .dict .., _, h | .comprehension .., _, h
  | .joined .., _, h | .placed .., _, h | .unary .., _, h | .logical .., _, h | .conditional .., _, h
  | .starred .., _, h | .foreign .., _, h => by cases h

theorem reflects_of_inferAll : ∀ (es : List Expr) (ds : List Domain), inferAll Γ es = some ds →
    ∀ e ∈ es, e.reflects = false
  | [], _, _ => by simp
  | e :: es, ds, h => by
    rw [inferAll] at h
    split at h
    · next he hes => exact List.forall_mem_cons.2 ⟨reflects_of_infer e _ he, reflects_of_inferAll es _ hes⟩
    · cases h

theorem reflects_of_inferChain : ∀ (rest : List (Comparison × Expr)) (d : Domain), inferChain Γ d rest = true →
    ∀ c ∈ rest, c.2.reflects = false
  | [], _, _ => by simp
  | (c, e) :: rest, d, h => by
    rw [inferChain] at h
    split at h
    · next he =>
      obtain ⟨-, hrest⟩ := Bool.and_eq_true_iff.1 h
      exact List.forall_mem_cons.2 ⟨reflects_of_infer e _ he, reflects_of_inferChain rest _ hrest⟩
    · cases h

end
end
end Expr

namespace Rule

/-- The expression of a rule does not ask for the descriptor of a message. -/
def isPlain (r : Rule) : Bool :=
  match r.form with
  | .test _ => true
  | .expression source =>
    match Program.compile ⟨source, standardVariables⟩ with
    | .ok p => !p.tree.reflects
    | .error _ => true

end Rule

/-! ## Custom rules -/

namespace CustomRule

def IsPlain (r : CustomRule) : Prop :=
  ∀ p, Program.compile ⟨r.expression, customVariables⟩ = .ok p → p.tree.reflects = false

end CustomRule

/-- No expression that a schema declares asks for the descriptor of a message. -/
def Schema.IsPlain (s : Schema) : Prop := ∀ t ∈ s.messages, ∀ r ∈ t.customs, r.IsPlain

theorem Schema.customs_known : ∀ t ∈ knownTypes, t.customs = [] := by
  decide

theorem Schema.IsPlain.messageType {s : Schema} (hs : s.IsPlain) (name : String) :
    ∀ r ∈ (s.messageType name).customs, r.IsPlain := by
  intro r hr
  unfold Schema.messageType Schema.message? at hr
  cases ht : s.types.find? (·.name == name) with
  | none =>
    rw [ht] at hr
    cases hr
  | some t =>
    rw [ht] at hr
    rcases List.mem_append.1 (List.mem_of_find?_eq_some ht) with hmem | hmem
    · exact hs t hmem r hr
    · rw [Option.getD_some, customs_known t hmem] at hr
      cases hr

/-! ## Compiled rules -/

end Conformance
