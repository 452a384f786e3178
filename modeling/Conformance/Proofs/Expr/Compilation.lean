import Conformance.Program.Cache
import Conformance.Proofs.Constraint.Outcome
import Conformance.Proofs.Expr.Inside
import Conformance.Report.Outcome

/-!
# How compilations end

A compilation reads its source, checks what it read, and makes a program of it. Only the first two of these steps
end in refusals. What the last one cannot take is said by `Overlooks`; all else is a program or is refused.
-/

namespace Conformance.Program

open Text Conformance.Expr

/-- The expression that a source is read as. -/
structure IsRead (source : String) (e : Expr) : Prop where
  nonempty : (trim isBlank source.toList).isEmpty = false
  noNull : '\x00' ∉ trim isBlank source.toList
  read : Expr.ofText? (trim isBlank source.toList) = some e

/-- What neither the reader nor the check refuses though no program can be made of it, with the fault that the
compilation ends in. Constants are told before repeated arguments. -/
inductive Overlooks (key : ProgramKey) : Fault → Prop
  | null : '\x00' ∈ trim isBlank key.source.toList → Overlooks key .badValue
  | constant {e : Expr} {c : Nat} {n : String} : IsRead key.source e →
    InLanguage (knownNames key.variables) e → Inside e (.name c n) → n ∈ constantNames → Overlooks key .badValue
  | argument {e f : Expr} {c : Nat} {args : List Expr} {named : List (Option String × Expr)} :
    IsRead key.source e → InLanguage (knownNames key.variables) e →
    (∀ c n, Inside e (.name c n) → n ∉ constantNames) → Inside e (.call c f args named) →
    (¬(named.filterMap (·.1)).Nodup ∨ "__debug__" ∈ named.filterMap (·.1)) → Overlooks key .invalidSyntax

section
variable {key : ProgramKey}

theorem compile_null (h : '\x00' ∈ trim isBlank key.source.toList) : compile key = .error (.fault .badValue) := by
  have hne : (trim isBlank key.source.toList).isEmpty = false := by
    simpa using List.ne_nil_of_mem h
  have hcontains : (trim isBlank key.source.toList).contains '\x00' = true := by simpa using h
  simp only [compile, hne, hcontains, Bool.false_eq_true, if_true, if_false]

theorem compile_read {e : Expr} (h : IsRead key.source e) (hin : InLanguage (knownNames key.variables) e) :
    compile key = if e.misnames then .error (.fault .badValue)
      else if e.clashes then .error (.fault .invalidSyntax) else .ok ⟨key.source, key.variables, e⟩ := by
  have hcontains : (trim isBlank key.source.toList).contains '\x00' = false := by simpa using h.noNull
  have hnone := (objection?_eq_none _ e).2 hin
  simp only [compile, h.nonempty, hcontains, h.read, hnone, Bool.false_eq_true, if_false]

/-- A compilation refuses its source, unless it cannot read it for a null character or it is in the language. -/
theorem compile_cases (key : ProgramKey) :
    '\x00' ∈ trim isBlank key.source.toList ∨
      (∃ e, IsRead key.source e ∧ InLanguage (knownNames key.variables) e) ∨
        ∃ r, compile key = .error (.refused ⟨r, key.source⟩) := by
  by_cases hnull : '\x00' ∈ trim isBlank key.source.toList
  · exact .inl hnull
  have hcontains : (trim isBlank key.source.toList).contains '\x00' = false := by simpa using hnull
  refine .inr ?_
  cases hempty : (trim isBlank key.source.toList).isEmpty with
  | true => exact .inr ⟨.empty, by simp only [compile, hempty, if_true]⟩
  | false =>
    cases hread : Expr.ofText? (trim isBlank key.source.toList) with
    | none =>
      exact .inr ⟨.ungrammatical, by
        simp only [compile, hempty, hcontains, hread, Bool.false_eq_true, if_false]⟩
    | some e =>
      cases hobjection : objection? (knownNames key.variables) e with
      | none => exact .inl ⟨e, ⟨hempty, hnull, hread⟩, (objection?_eq_none _ e).1 hobjection⟩
      | some o =>
        exact .inr ⟨.inadmissible o, by
          simp only [compile, hempty, hcontains, hread, hobjection, Bool.false_eq_true, if_false]⟩

theorem Overlooks.compile {f : Fault} (h : Overlooks key f) : compile key = .error (.fault f) := by
  cases h with
  | null h => exact compile_null h
  | constant hread hin hname hn =>
    rw [compile_read hread hin, if_pos (misnames_eq_true.2 ⟨_, _, hname, hn⟩)]
  | argument hread hin hnames hcall hargs =>
    have hno : ¬_ = true := fun h => by
      obtain ⟨c, n, hname, hn⟩ := misnames_eq_true.1 h
      exact hnames c n hname hn
    rw [compile_read hread hin, if_neg hno, if_pos (clashes_eq_true.2 ⟨_, _, _, _, hcall, hargs⟩)]

theorem compile_eq_ok {p : Program} : compile key = .ok p ↔
    ∃ e, IsRead key.source e ∧ InLanguage (knownNames key.variables) e ∧ e.misnames = false ∧ e.clashes = false ∧
      p = ⟨key.source, key.variables, e⟩ := by
  constructor
  · intro h
    obtain hnull | ⟨e, hread, hin⟩ | ⟨r, hr⟩ := compile_cases key
    · cases h.symm.trans (compile_null hnull)
    · rw [compile_read hread hin] at h
      split at h
      · cases h
      · next hnames =>
        split at h
        · cases h
        · next hclashes =>
          cases h
          exact ⟨e, hread, hin, by simpa using hnames, by simpa using hclashes, rfl⟩
    · cases h.symm.trans hr
  · rintro ⟨e, hread, hin, hnames, hclashes, rfl⟩
    rw [compile_read hread hin, hnames, hclashes]
    rfl

end

/-! ## Caches and constraints -/

theorem mapError_eq_error {α ε ε' : Type} {g : ε → ε'} {x : Except ε α} {b : ε'} :
    x.mapError g = .error b ↔ ∃ a, x = .error a ∧ g a = b := by
  cases x with
  | ok a =>
    constructor
    · intro h
      cases h
    · intro h
      obtain ⟨_, ⟨⟩, _⟩ := h
  | error a =>
    constructor
    · intro h
      cases h
      exact ⟨a, rfl, rfl⟩
    · intro h
      obtain ⟨_, ⟨⟩, rfl⟩ := h
      rfl

end Conformance.Program
