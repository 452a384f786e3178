import Conformance.Proofs.Expr.Compilation
import Conformance.Proofs.Expr.Reading

/-!
# Programs and what is bound to their variables

A program that was admitted reads its variables, the functions of the library, and targets. So its names give values,
unless one is read before it is a target that is visible, and nothing counts that is bound to other names.
-/

namespace Conformance.Expr

/-- A comprehension with more than one clause. -/
def hasSeveralClauses : Expr → Bool
  | .comprehension _ _ _ cs => 2 ≤ cs.length
  | _ => false

/-- Only in a comprehension with several clauses a name can be read early. -/
theorem ReadsEarly.hasSeveralClauses {e : Expr} (h : ReadsEarly e) : e.anywhere hasSeveralClauses = true := by
  rw [anywhere_eq_true]
  induction h with
  | @here e x v o n hp hr ho hv =>
    refine ⟨e, .whole, ?_⟩
    cases hp with
    | operand | first => cases ho
    | element => exact absurd ho hv
    | later =>
      simp [Expr.hasSeveralClauses]
      omega
    | @condition _ _ _ _ c before cs hx =>
      cases before with
      | cons d before =>
        simp [Expr.hasSeveralClauses]
        omega
      | nil =>
        cases cs with
        | cons d cs => simp [Expr.hasSeveralClauses]
        | nil => exact absurd ho hv
  | inside hp _ ih =>
    obtain ⟨y, hy, hseveral⟩ := ih
    exact ⟨y, hp.isInside.trans hy, hseveral⟩

end Conformance.Expr

namespace Conformance.Program

open Text Conformance.Expr

section
variable {key : ProgramKey} {p : Program}

theorem exists_of_any {test : Program → Bool} (h : (compile key).toOption.any test = true) :
    ∃ p, compile key = .ok p ∧ test p = true := by
  cases hp : compile key with
  | error u =>
    rw [hp] at h
    cases h
  | ok p =>
    rw [hp] at h
    exact ⟨p, rfl, h⟩

theorem callees_of_compile (h : compile key = .ok p) {v o : List String} {c : Nat} {f : Expr} {args : List Expr}
    {named : List (Option String × Expr)} (hw : Within p.tree v o (.call c f args named)) : IsCallee f :=
  ((inLanguage_of_compile h).2 _ _ _ hw).1

/-- A program reads its variables and functions of the library. -/
theorem reads_of_compile (h : compile key = .ok p) {n : String} (hn : Reads p.tree n) :
    n ∈ p.variables ∨ n ∈ Function.library.map (·.name) := by
  obtain ⟨hvars, hin⟩ := inLanguage_of_compile h
  obtain hknown | hlibrary := hn.isKnown hin
  · rw [hvars]
    exact List.mem_append.1 hknown
  · exact .inr hlibrary

theorem lookup_scope (p : Program) (s : Schema) (bindings : List (String × Value)) (n : String) :
    (p.scope s bindings).bindings.lookup n = if n ∈ p.variables then bindings.lookup n else none := by
  unfold scope
  dsimp only
  induction p.variables with
  | nil => simp
  | cons m ns ih =>
    rw [List.filterMap_cons]
    by_cases hn : n = m
    · subst hn
      cases hv : bindings.lookup n with
      | none => simp [ih, hv]
      | some v => simp
    · cases bindings.lookup m with
      | none => simpa [hn] using ih
      | some v =>
        simp only [Option.map_some, List.lookup_cons, beq_false_of_ne hn]
        simpa [hn] using ih

theorem found_variable {s : Schema} {bindings : List (String × Value)} {n : String} {v : Value}
    (hn : n ∈ p.variables) (hv : bindings.lookup n = some v) : Eval.found (p.scope s bindings) n [] = .ok v := by
  rw [Eval.found_nil, lookup_scope, if_pos hn, hv]

theorem found_function {s : Schema} {bindings : List (String × Value)} {n : String} (hn : n ∉ p.variables)
    (hlibrary : n ∈ Function.library.map (·.name)) :
    ∃ f, Eval.found (p.scope s bindings) n [] = .ok (.function f) := by
  obtain ⟨f, hf⟩ := Option.isSome_iff_exists.1 (Option.isNone_eq_false_iff.1 (named?_isNone.2 hlibrary))
  refine ⟨f, ?_⟩
  rw [Eval.found_nil, lookup_scope, if_neg hn, hf]

theorem lookup_of_missing {bindings : List (String × Value)} {n : String} (h : p.missing bindings = [])
    (hn : n ∈ p.variables) : ∃ v, bindings.lookup n = some v := by
  have hnone := List.filter_eq_nil_iff.1 h n hn
  exact Option.isSome_iff_exists.1 (by simpa using hnone)

theorem agree_value {w : Views} {e : Expr} (h : w.Fits [] e) :
    value w.one e = value w.other e ∧ ∀ f, value w.one e = .error f → w.Tolerates f := by
  have hempty : w.On [] {} := ⟨rfl, by simp⟩
  obtain ⟨hsame, -, hfault⟩ := Views.agree_eval w [] e h {} hempty
  refine ⟨?_, fun f hf => (hfault f hf).1⟩
  unfold value
  exact congrArg Prod.fst hsame

theorem evaluate_bound {s : Schema} {bindings : List (String × Value)} (h : p.missing bindings = []) :
    p.evaluate s bindings =
      match value (p.scope s bindings) p.tree with
      | .ok (.bool b) => .ok (.holds b)
      | .ok (.text t) => .ok (.complaint t)
      | .ok v => .error (.unusable v.typeName p.source)
      | .error f => .error (.faulty f p.source) := by
  rw [evaluate, h]
  rfl

theorem evaluate_eq_faulty {s : Schema} {bindings : List (String × Value)} {f : Fault} {source : String}
    (h : p.evaluate s bindings = .error (.faulty f source)) :
    p.missing bindings = [] ∧ value (p.scope s bindings) p.tree = .error f := by
  by_cases hm : p.missing bindings = []
  · refine ⟨hm, ?_⟩
    rw [evaluate_bound hm] at h
    split at h
    · cases h
    · cases h
    · cases h
    · next hvalue =>
      cases h
      exact hvalue
  · unfold evaluate at h
    simp [hm] at h

end

/-! ## Names are resolved -/

/-- An evaluation ends in no fault of a name, unless a name is read early. -/
theorem evaluate_resolves_names {key : ProgramKey} {p : Program} (h : compile key = .ok p)
    (hearly : ¬ReadsEarly p.tree) (s : Schema) (bindings : List (String × Value)) (f : Fault) (source : String)
    (hf : p.evaluate s bindings = .error (.faulty f source)) : f.isOfName = false := by
  obtain ⟨hbound, hvalue⟩ := evaluate_eq_faulty hf
  -- The scope is compared with itself; what counts is that no fault of a name is tolerated.
  let w : Views := ⟨p.scope s bindings, p.scope s bindings, rfl, False⟩
  have hfits : w.Fits [] p.tree := by
    refine ⟨fun v o c f args named hw => callees_of_compile h hw, fun n hn => ⟨rfl, .inr ?_⟩, hearly⟩
    by_cases hv : n ∈ p.variables
    · obtain ⟨v, hv'⟩ := lookup_of_missing hbound hv
      exact ⟨v, found_variable hv hv'⟩
    · obtain ⟨f, hf⟩ := found_function hv ((reads_of_compile h hn).resolve_left hv)
      exact ⟨_, hf⟩
  have htolerated := (agree_value hfits).2 f hvalue
  simpa [Views.Tolerates, w] using htolerated

/-- The fault that an evaluation ends in. -/
def evaluationFault? : Except EvaluationError Verdict → Option Fault
  | .error (.faulty f _) => some f
  | _ => none

theorem eq_faulty_of_evaluationFault? {x : Except EvaluationError Verdict} {f : Fault}
    (h : evaluationFault? x = some f) : ∃ source, x = .error (.faulty f source) := by
  unfold evaluationFault? at h
  split at h
  · cases h
    exact ⟨_, rfl⟩
  · cases h

/-- A target with the name of a variable is no early read in a comprehension with one clause. -/
theorem evaluate_resolves_names_of_target :
    ∃ p, compile ⟨"[this for this in this if this] == [1]", ["this"]⟩ = .ok p ∧ ¬ReadsEarly p.tree ∧
      ∃ f source, p.evaluate ⟨[], []⟩ [("this", .int 1)] = .error (.faulty f source) ∧ f.isOfName = false := by
  have hok : ((compile ⟨"[this for this in this if this] == [1]", ["this"]⟩).toOption.any fun p =>
      !p.tree.anywhere hasSeveralClauses &&
        (evaluationFault? (p.evaluate ⟨[], []⟩ [("this", .int 1)])).isSome) = true := by
    decide +kernel
  obtain ⟨p, hp, htest⟩ := exists_of_any hok
  obtain ⟨hseveral, hfault⟩ := Bool.and_eq_true_iff.1 htest
  have hearly : ¬ReadsEarly p.tree := by
    intro h
    rw [h.hasSeveralClauses] at hseveral
    cases hseveral
  obtain ⟨f, hf⟩ := Option.isSome_iff_exists.1 hfault
  obtain ⟨source, hsource⟩ := eq_faulty_of_evaluationFault? hf
  exact ⟨p, hp, hearly, f, source, hsource, evaluate_resolves_names hp hearly _ _ f source hsource⟩

/-- All targets belong to the whole comprehension, but the check lets the variable stand in the condition of the
clause before. -/
theorem evaluate_reads_early : ¬∀ (key : ProgramKey) (p : Program), compile key = .ok p →
    ∀ (s : Schema) (bindings : List (String × Value)), p.missing bindings = [] →
      ∀ f source, p.evaluate s bindings = .error (.faulty f source) → f.isOfName = false := by
  intro hall
  have hok : ((compile ⟨"[x for x in [1] if this for this in [2]] == [1]", ["this"]⟩).toOption.any fun p =>
      evaluationFault? (p.evaluate ⟨[], []⟩ [("this", .int 1)]) == some .unassignedName) = true := by
    decide +kernel
  obtain ⟨p, hp, htest⟩ := exists_of_any hok
  obtain ⟨source, hsource⟩ := eq_faulty_of_evaluationFault? (beq_iff_eq.1 htest)
  have hbound := (evaluate_eq_faulty hsource).1
  cases hall _ p hp _ _ hbound _ source hsource

/-! ## Only names that stand there count -/

theorem known_of_extended {key : ProgramKey} {p p' : Program} (h : compile key = .ok p)
    (hsub : ∀ n ∈ p.variables, n ∈ p'.variables)
    (hnew : ∀ n ∈ p'.variables, n ∉ p.variables → n ∉ Function.library.map (·.name)) {s : Schema}
    {bindings bindings' : List (String × Value)} {n : String} (hn : Reads p.tree n)
    (hagree : n ∈ p.variables → bindings.lookup n = bindings'.lookup n) :
    Eval.found (p.scope s bindings) n [] = Eval.found (p'.scope s bindings') n [] := by
  by_cases hv : n ∈ p.variables
  · rw [Eval.found_nil, Eval.found_nil, lookup_scope, lookup_scope, if_pos hv, if_pos (hsub n hv), hagree hv]
  · have hlibrary := (reads_of_compile h hn).resolve_left hv
    have hv' : n ∉ p'.variables := fun hv' => hnew n hv' hv hlibrary
    rw [Eval.found_nil, Eval.found_nil, lookup_scope, lookup_scope, if_neg hv, if_neg hv']

/-- An evaluation of one program depends on what is bound to the names that stand in it, and on which variables are bound
at all. -/
theorem evaluate_congr {key : ProgramKey} {p : Program} (h : compile key = .ok p) (s : Schema)
    {bindings bindings' : List (String × Value)}
    (hbound : ∀ n, (bindings.lookup n).isNone = (bindings'.lookup n).isNone)
    (hagree : ∀ n, (∃ c, Inside p.tree (.name c n)) → bindings.lookup n = bindings'.lookup n) :
    p.evaluate s bindings = p.evaluate s bindings' := by
  have hmissing : p.missing bindings = p.missing bindings' := List.filter_congr fun n _ => hbound n
  by_cases hm : p.missing bindings = []
  · let w : Views := ⟨p.scope s bindings, p.scope s bindings', rfl, True⟩
    have hfits : w.Fits [] p.tree := by
      refine ⟨fun v o c f args named hw => callees_of_compile h hw, fun n hn => ⟨?_, .inl trivial⟩, fun _ => trivial⟩
      exact known_of_extended h (fun _ hv => hv) (fun _ hv hno => absurd hv hno) hn fun _ => hagree n hn.isInside
    have hvalue : value (p.scope s bindings) p.tree = value (p.scope s bindings') p.tree := (agree_value hfits).1
    rw [evaluate_bound hm, evaluate_bound (hmissing ▸ hm), hvalue]
  · unfold evaluate
    simp [← hmissing, hm]

/-- More variables can be declared that are no functions, and other names can be bound to anything: a source that is
admitted stays so, and an evaluation depends on those variables only that stand in it as names. -/
theorem evaluate_depends_on_names {source : String} {names names' : List String} {p : Program}
    (h : compile ⟨source, names⟩ = .ok p) (hsub : ∀ n ∈ names, n ∈ names')
    (hnew : ∀ n ∈ names', n ∉ names → n ∉ Function.library.map (·.name)) :
    ∃ p', compile ⟨source, names'⟩ = .ok p' ∧
      ∀ (s : Schema) (bindings bindings' : List (String × Value)), p.missing bindings = [] →
        p'.missing bindings' = [] →
          (∀ n ∈ names, (∃ c, Inside p.tree (.name c n)) → bindings.lookup n = bindings'.lookup n) →
            p.evaluate s bindings = p'.evaluate s bindings' := by
  obtain ⟨e, hread, hin, hnames, hclashes, rfl⟩ := compile_eq_ok.1 h
  have hknown : ∀ n ∈ knownNames names, n ∈ knownNames names' := by
    intro n hn
    obtain hn | hn := List.mem_append.1 hn
    · exact List.mem_append_left _ (hsub n hn)
    · exact List.mem_append_right _ hn
  refine ⟨⟨source, names', e⟩, compile_eq_ok.2 ⟨e, hread, hin.mono hknown, hnames, hclashes, rfl⟩, ?_⟩
  intro s bindings bindings' hbound hbound' hagree
  -- Names may be read early here, since they are then read early under both bindings.
  let w : Views := ⟨scope s ⟨source, names, e⟩ bindings, scope s ⟨source, names', e⟩ bindings', rfl, True⟩
  have hfits : w.Fits [] e := by
    refine ⟨fun v o c f args named hw => callees_of_compile h hw, fun n hn => ⟨?_, .inl trivial⟩, fun _ => trivial⟩
    exact known_of_extended h hsub hnew hn fun hv => hagree n hv hn.isInside
  have hvalue : value (scope s ⟨source, names, e⟩ bindings) e = value (scope s ⟨source, names', e⟩ bindings') e :=
    (agree_value hfits).1
  rw [evaluate_bound hbound, evaluate_bound hbound', hvalue]

theorem evaluate_depends_on_names_of_filter :
    let source := "[x for x in this if size(x) > 1] == ['ab']"
    let this : Value := .list [.text "a", .text "ab"]
    ∃ p p', compile ⟨source, ["this"]⟩ = .ok p ∧ compile ⟨source, ["this", "rule", "now"]⟩ = .ok p' ∧
      p.evaluate ⟨[], []⟩ [("this", this), ("now", .none)] =
        p'.evaluate ⟨[], []⟩ [("rule", .int 1), ("now", .text "ab"), ("this", this)] := by
  intro source this
  have hok : ((compile ⟨source, ["this"]⟩).toOption.any fun _ => true) = true := by decide +kernel
  obtain ⟨p, hp, -⟩ := exists_of_any hok
  have hsub : ∀ n ∈ ["this"], n ∈ ["this", "rule", "now"] := by decide
  obtain ⟨p', hp', hevaluate⟩ := evaluate_depends_on_names hp hsub (by decide)
  refine ⟨p, p', hp, hp', hevaluate _ _ _ ?_ ?_ fun n hn _ => ?_⟩
  · rw [missing, (inLanguage_of_compile hp).1]
    rfl
  · rw [missing, (inLanguage_of_compile hp').1]
    rfl
  · obtain rfl := List.mem_singleton.1 hn
    rfl

end Conformance.Program
