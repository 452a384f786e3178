import Conformance.Proofs.Expr.Inside

/-!
# The names that an expression reads

An expression reads the names that stand in its parts, but for those that a comprehension around them binds. The
targets of a comprehension belong to all of it, so a name can be read before it is a target that is visible.
-/

namespace Conformance.Expr

/-- An expression reads a name that none of its own comprehensions binds. The name of a function that is called is
read too. -/
inductive Reads : Expr → String → Prop
  | name {c : Nat} {n : String} : Reads (.name c n) n
  | callee {c c' : Nat} {n : String} {args : List Expr} {named : List (Option String × Expr)} :
    Reads (.call c (.name c' n) args named) n
  | inside {e x : Expr} {v o : List String} {n : String} : Part e v o x → Reads x n → n ∉ o → Reads e n

/-- Somewhere a name is read that belongs to the comprehension around it but is not visible there yet. -/
inductive ReadsEarly : Expr → Prop
  | here {e x : Expr} {v o : List String} {n : String} : Part e v o x → Reads x n → n ∈ o → n ∉ v → ReadsEarly e
  | inside {e x : Expr} {v o : List String} : Part e v o x → ReadsEarly x → ReadsEarly e

/-! ## Parts -/

section
variable {e x : Expr} {v o : List String} {n : String}

theorem Part.owned_of_visible (h : Part e v o x) (hn : n ∈ v) : n ∈ o := by
  cases h with
  | operand | first => exact hn
  | later =>
    rw [boundBy, List.flatMap_append]
    exact List.mem_append_left _ hn
  | condition =>
    simp only [boundBy, List.flatMap_append, List.flatMap_cons, List.flatMap_nil, List.append_nil] at hn ⊢
    rw [← List.append_assoc]
    exact List.mem_append_left _ hn
  | element => exact hn

theorem inside_of_operand (h : x ∈ e.operands) : Inside e x := by
  cases e with
  | call c f args named =>
    obtain h | h := List.mem_append.1 h
    · obtain h | h := List.mem_append.1 h
      · cases f with
        | member c' b m =>
          obtain rfl := List.mem_singleton.1 h
          have hb : Inside (.member c' x m) x := .child List.mem_cons_self .whole
          exact .child List.mem_cons_self hb
        | _ => cases h
      · exact .child (List.mem_cons_of_mem _ (List.mem_append_left _ h)) .whole
    · exact .child (List.mem_cons_of_mem _ (List.mem_append_right _ h)) .whole
  | starred | comprehension | literal | name | «foreign» => cases h
  | _ => exact .child h .whole

theorem inside_of_clause {m : Nat} {kind : Collected} {element : Expr} {cs : List Clause} {c : Clause} (hc : c ∈ cs)
    (hx : x ∈ c.iterated :: c.conditions) : Inside (.comprehension m kind element cs) x := by
  have hchild : x ∈ cs.flatMap fun c => c.target :: c.iterated :: c.conditions :=
    List.mem_flatMap.2 ⟨c, hc, List.mem_cons_of_mem _ hx⟩
  exact .child (List.mem_cons_of_mem _ hchild) .whole

theorem Part.isInside (h : Part e v o x) : Inside e x := by
  cases h with
  | operand h => exact inside_of_operand h
  | first => exact inside_of_clause List.mem_cons_self List.mem_cons_self
  | later => exact inside_of_clause (by simp) List.mem_cons_self
  | condition h => exact inside_of_clause (by simp) (List.mem_cons_of_mem _ h)
  | element => exact .child List.mem_cons_self .whole

theorem Inside.trans {e x y : Expr} (hx : Inside e x) (hy : Inside x y) : Inside e y := by
  induction hx with
  | whole => exact hy
  | child hc _ ih => exact .child hc (ih hy)

/-- What is read stands there. -/
theorem Reads.isInside (h : Reads e n) : ∃ c, Inside e (.name c n) := by
  induction h with
  | name => exact ⟨_, .whole⟩
  | callee => exact ⟨_, .child List.mem_cons_self .whole⟩
  | inside hp _ _ ih =>
    obtain ⟨c, hc⟩ := ih
    exact ⟨c, hp.isInside.trans hc⟩

end

/-! ## The language -/

section
variable {known known' : List String} {e : Expr} {n : String}

theorem Permitted.mono (h : ∀ n ∈ known, n ∈ known') (he : Permitted known e) : Permitted known' e := by
  cases e with
  | name c n => exact ⟨he.1, h n he.2⟩
  | _ => exact he

/-- More names can be known. -/
theorem InLanguage.mono (h : ∀ n ∈ known, n ∈ known') (he : InLanguage known e) : InLanguage known' e := by
  intro v o x hw
  refine (he v o x hw).mono fun n hn => ?_
  obtain hn | hn := List.mem_append.1 hn
  · exact List.mem_append_left _ hn
  · exact List.mem_append_right _ (h n hn)

/-- An expression of the language reads known names and functions of the library only. -/
theorem Reads.isKnown (h : Reads e n) (he : InLanguage known e) :
    n ∈ known ∨ n ∈ Function.library.map (·.name) := by
  induction h generalizing known with
  | name => exact .inl (inLanguage_iff.1 he).1.2
  | callee => exact .inr (inLanguage_iff.1 he).1.1
  | inside hp _ hn ih =>
    obtain hv | hl := ih ((inLanguage_iff.1 he).2 _ _ _ hp)
    · obtain hv | hk := List.mem_append.1 hv
      · exact absurd (hp.owned_of_visible hv) hn
      · exact .inl hk
    · exact .inr hl

end

end Conformance.Expr
