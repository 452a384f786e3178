import Conformance.Proofs.Expr.Language

/-!
# What is inside of an expression

The parts that are evaluated leave out the names of functions and the targets of iterations. Here everything counts
that is written inside of an expression, and `anywhere` is shown to go through all of it.
-/

namespace Conformance.Expr

/-- The expressions that are written directly inside of one. -/
def children : Expr → List Expr
  | .call _ f args named => f :: args ++ named.map (·.2)
  | .comprehension _ _ e cs => e :: cs.flatMap fun c => c.target :: c.iterated :: c.conditions
  | .starred _ e => [e]
  | e => e.operands

inductive Inside : Expr → Expr → Prop
  | whole {e : Expr} : Inside e e
  | child {e x y : Expr} : x ∈ e.children → Inside x y → Inside e y

section
variable (p : Expr → Bool)

theorem anywhereOption_eq (o : Option Expr) : anywhereOption p o = o.toList.any (anywhere p) := by
  cases o <;> simp [anywhereOption]

theorem anywhereList_eq (es : List Expr) : anywhereList p es = es.any (anywhere p) := by
  induction es with
  | nil => rfl
  | cons e es ih => simp [anywhereList, ih]

theorem anywhereNamed_eq (es : List (Option String × Expr)) :
    anywhereNamed p es = (es.map (·.2)).any (anywhere p) := by
  induction es with
  | nil => rfl
  | cons e es ih => simp [anywhereNamed, ih]

theorem anywhereEntries_eq (es : List (Option Expr × Expr)) :
    anywhereEntries p es = (es.filterMap (·.1) ++ es.map (·.2)).any (anywhere p) := by
  induction es with
  | nil => rfl
  | cons e es ih =>
    obtain ⟨k, v⟩ := e
    cases k <;> simp only [anywhereEntries, anywhereOption, ih, List.filterMap_cons, List.map_cons, List.any_append,
      List.any_cons] <;> ac_rfl

theorem anywhereCompared_eq (es : List (Comparison × Expr)) :
    anywhereCompared p es = (es.map (·.2)).any (anywhere p) := by
  induction es with
  | nil => rfl
  | cons e es ih => simp [anywhereCompared, ih]

theorem anywhereClauses_eq (cs : List Clause) :
    anywhereClauses p cs = (cs.flatMap fun c => c.target :: c.iterated :: c.conditions).any (anywhere p) := by
  induction cs with
  | nil => rfl
  | cons c cs ih =>
    obtain ⟨target, iterated, conditions, isAsync⟩ := c
    rw [anywhereClauses, ih, anywhereList_eq, List.flatMap_cons, List.any_append, List.any_cons, List.any_cons]
    simp [Clause.target, Clause.iterated, Clause.conditions, Bool.or_assoc]

theorem anywhere_eq (e : Expr) : anywhere p e = (p e || e.children.any (anywhere p)) := by
  cases e <;> simp [anywhere, children, operands, anywhereOption_eq, anywhereList_eq, anywhereNamed_eq,
    anywhereEntries_eq, anywhereCompared_eq, anywhereClauses_eq, Bool.or_assoc]

end

/-! ## Going inside -/

theorem sizeOf_snd_lt {α : Type} [SizeOf α] {x : Expr} {es : List (α × Expr)} (h : x ∈ es.map (·.2)) :
    sizeOf x < sizeOf es := by
  obtain ⟨a, ha, rfl⟩ := List.mem_map.1 h
  have hlt := List.sizeOf_lt_of_mem ha
  have hpair : sizeOf a = 1 + sizeOf a.1 + sizeOf a.2 := rfl
  omega

theorem sizeOf_key_lt {x : Expr} {es : List (Option Expr × Expr)} (h : x ∈ es.filterMap (·.1)) :
    sizeOf x < sizeOf es := by
  obtain ⟨⟨k, v⟩, ha, hk⟩ := List.mem_filterMap.1 h
  have hlt := List.sizeOf_lt_of_mem ha
  obtain rfl : k = some x := hk
  have hpair : sizeOf (some x, v) = 1 + (1 + sizeOf x) + sizeOf v := rfl
  omega

theorem sizeOf_clause_lt {x : Expr} {cs : List Clause}
    (h : x ∈ cs.flatMap fun c => c.target :: c.iterated :: c.conditions) : sizeOf x < sizeOf cs := by
  obtain ⟨⟨target, iterated, conditions, isAsync⟩, hc, hx⟩ := List.mem_flatMap.1 h
  have hlt := List.sizeOf_lt_of_mem hc
  simp only [Clause.target, Clause.iterated, Clause.conditions, List.mem_cons] at hx
  obtain rfl | rfl | hx := hx
  · simp at hlt
    omega
  · simp at hlt
    omega
  · have hin := List.sizeOf_lt_of_mem hx
    simp at hlt
    omega

theorem sizeOf_option_lt {x : Expr} {o : Option Expr} (h : x ∈ o.toList) : sizeOf x < sizeOf o := by
  obtain rfl : o = some x := by simpa using h
  simp

theorem sizeOf_child_lt {e x : Expr} (h : x ∈ e.children) : sizeOf x < sizeOf e := by
  cases e with
  | call c f args named =>
    simp only [children, List.cons_append, List.mem_cons, List.mem_append] at h
    obtain rfl | h | h := h
    · simp
      omega
    · have hlt := List.sizeOf_lt_of_mem h
      simp
      omega
    · have hlt := sizeOf_snd_lt h
      simp
      omega
  | comprehension c kind e cs =>
    obtain rfl | h := List.mem_cons.1 h
    · simp
      omega
    · have hlt := sizeOf_clause_lt h
      simp
      omega
  | slice c a b s =>
    simp only [children, operands, List.mem_append] at h
    obtain (h | h) | h := h
    all_goals
      have hlt := sizeOf_option_lt h
      simp
      omega
  | dict c es =>
    obtain h | h := List.mem_append.1 h
    · have hlt := sizeOf_key_lt h
      simp
      omega
    · have hlt := sizeOf_snd_lt h
      simp
      omega
  | placed c v k s =>
    obtain rfl | h := List.mem_cons.1 h
    · simp
      omega
    · have hlt := sizeOf_option_lt h
      simp
      omega
  | compare c e rest =>
    obtain rfl | h := List.mem_cons.1 h
    · simp
      omega
    · have hlt := sizeOf_snd_lt h
      simp
      omega
  | row c _ es | joined c es | logical c _ es =>
    have hlt : sizeOf x < sizeOf es := List.sizeOf_lt_of_mem h
    simp
    omega
  | literal | name | «foreign» => cases h
  | member | subscript | unary | binary | conditional | starred =>
    simp only [children, operands, List.mem_cons, List.not_mem_nil, or_false] at h
    obtain rfl | rfl | rfl := h <;> simp <;> omega

theorem inside_of_anywhere {p : Expr → Bool} (e : Expr) (h : anywhere p e = true) :
    ∃ x, Inside e x ∧ p x = true := by
  rw [anywhere_eq, Bool.or_eq_true, List.any_eq_true] at h
  obtain h | ⟨x, hx, h⟩ := h
  · exact ⟨e, .whole, h⟩
  · have hlt := sizeOf_child_lt hx
    obtain ⟨y, hy, h⟩ := inside_of_anywhere x h
    exact ⟨y, .child hx hy, h⟩
termination_by sizeOf e

theorem anywhere_eq_true {p : Expr → Bool} {e : Expr} : anywhere p e = true ↔ ∃ x, Inside e x ∧ p x = true := by
  refine ⟨inside_of_anywhere e, ?_⟩
  rintro ⟨x, hx, h⟩
  induction hx with
  | whole => simp [anywhere_eq, h]
  | child hc _ ih =>
    rw [anywhere_eq, Bool.or_eq_true, List.any_eq_true]
    exact .inr ⟨_, hc, ih h⟩

theorem clashes_eq_true {e : Expr} : e.clashes = true ↔ ∃ c f args named, Inside e (.call c f args named) ∧
    (¬(named.filterMap (·.1)).Nodup ∨ "__debug__" ∈ named.filterMap (·.1)) := by
  rw [clashes, anywhere_eq_true]
  constructor
  · rintro ⟨x, hx, h⟩
    cases x with
    | call c f args named => exact ⟨c, f, args, named, hx, by simpa [isClash] using h⟩
    | _ => cases h
  · rintro ⟨c, f, args, named, hx, h⟩
    exact ⟨_, hx, by simpa [isClash] using h⟩

theorem misnames_eq_true {e : Expr} : e.misnames = true ↔ ∃ c n, Inside e (.name c n) ∧ n ∈ constantNames := by
  rw [misnames, anywhere_eq_true]
  constructor
  · rintro ⟨x, hx, h⟩
    cases x with
    | name c n => exact ⟨c, n, hx, by simpa [isConstantName] using h⟩
    | _ => cases h
  · rintro ⟨c, n, hx, h⟩
    exact ⟨_, hx, by simpa [isConstantName] using h⟩

end Conformance.Expr
