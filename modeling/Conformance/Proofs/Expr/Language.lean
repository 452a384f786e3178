import Mathlib.Tactic.Tauto
import Conformance.Program.Basic

/-!
# The language of expressions

An expression belongs to the language when each of its parts does, in view of the names that are visible there.
The check of admission goes through the tree once and carries the visible names along; here the parts and what is
visible in them are said first (`Part`, `Within`), and the check is shown to decide the language (`InLanguage`).
-/

namespace Conformance.Expr

/-! ## Parts -/

def boundBy (cs : List Clause) : List String := cs.flatMap fun c => targetIds c.target

/-- What is evaluated for a callee. The name of a function is no part of a call; of a method it is the receiver. -/
def receiver : Expr → List Expr
  | .member _ b _ => [b]
  | _ => []

/-- The parts of an expression that are not inside of its iterations. -/
def operands : Expr → List Expr
  | .literal .. | .name .. | .comprehension .. | .starred .. | .foreign .. => []
  | .member _ b _ => [b]
  | .subscript _ b i => [b, i]
  | .slice _ a b s => a.toList ++ b.toList ++ s.toList
  | .call _ f args named => receiver f ++ args ++ named.map (·.2)
  | .row _ _ es => es
  | .dict _ es => es.filterMap (·.1) ++ es.map (·.2)
  | .joined _ es => es
  | .placed _ v _ s => v :: s.toList
  | .unary _ _ e => [e]
  | .logical _ _ es => es
  | .binary _ _ a b => [a, b]
  | .compare _ e rest => e :: rest.map (·.2)
  | .conditional _ c a b => [c, a, b]

/-- A part of an expression, with the targets that are visible in it and those that belong to it when it is
evaluated. In a comprehension the targets of a clause are visible from its conditions on, through the later
clauses to the element; all of them belong to the comprehension, but for the iterable of its first clause. -/
inductive Part : Expr → (visible owned : List String) → Expr → Prop
  | operand {e x : Expr} : x ∈ e.operands → Part e [] [] x
  | first {n : Nat} {kind : Collected} {e : Expr} {c : Clause} {cs : List Clause} :
    Part (.comprehension n kind e (c :: cs)) [] [] c.iterated
  | later {n : Nat} {kind : Collected} {e : Expr} {c d : Clause} {before cs : List Clause} :
    Part (.comprehension n kind e (d :: before ++ c :: cs)) (boundBy (d :: before))
      (boundBy (d :: before ++ c :: cs)) c.iterated
  | condition {n : Nat} {kind : Collected} {e x : Expr} {c : Clause} {before cs : List Clause} :
    x ∈ c.conditions → Part (.comprehension n kind e (before ++ c :: cs)) (boundBy (before ++ [c]))
      (boundBy (before ++ c :: cs)) x
  | element {n : Nat} {kind : Collected} {e : Expr} {cs : List Clause} :
    Part (.comprehension n kind e cs) (boundBy cs) (boundBy cs) e

/-- An expression anywhere inside of another one, itself included, with the targets that are visible there and
those that belong there. -/
inductive Within : Expr → (visible owned : List String) → Expr → Prop
  | whole {e : Expr} : Within e [] [] e
  | inside {e x y : Expr} {v o v' o' : List String} : Part e v o x → Within x v' o' y →
    Within e (v' ++ v) (o' ++ o) y

/-! ## The language -/

/-- A name that is not private, or a tuple of targets. -/
inductive IsTarget : Expr → Prop
  | name {n : Nat} {id : String} : isPrivate id = false → IsTarget (.name n id)
  | tuple {n : Nat} {es : List Expr} : (∀ e ∈ es, IsTarget e) → IsTarget (.row n .tuple es)

/-- The name of a function of the library, or a method that is allowed. -/
def IsCallee : Expr → Prop
  | .name _ n => n ∈ Function.library.map (·.name)
  | .member _ _ m => m ∈ allowedMethods
  | _ => False

def allowedOperators : List BinaryOp := [.add, .sub, .mul, .div, .floorDiv, .mod, .pow]

/-- What the language asks of an expression by itself, where some names are known. -/
def Permitted (known : List String) : Expr → Prop
  | .name _ n => isPrivate n = false ∧ n ∈ known
  | .member _ _ n => isPrivate n = false
  | .call _ f args named =>
    IsCallee f ∧ (∀ n e, .starred n e ∉ args) ∧ ∀ a ∈ named, a.1.isSome
  | .comprehension _ _ _ cs => ∀ c ∈ cs, IsTarget c.target ∧ c.isAsync = false
  | .binary _ op _ _ => op ∈ allowedOperators
  | .starred .. | .foreign .. => False
  | _ => True

/-- Everything inside of an expression is permitted where it stands. -/
def InLanguage (known : List String) (e : Expr) : Prop :=
  ∀ visible owned x, Within e visible owned x → Permitted (visible ++ known) x

section
variable {known known' : List String} {e : Expr}

theorem inLanguage_iff : InLanguage known e ↔
    Permitted known e ∧ ∀ v o x, Part e v o x → InLanguage (v ++ known) x := by
  constructor
  · intro h
    refine ⟨h [] [] e .whole, fun v o x hp v' o' y hw => ?_⟩
    have hy := h _ _ y (.inside hp hw)
    rwa [List.append_assoc] at hy
  · rintro ⟨he, hp⟩ v o x hw
    cases hw with
    | whole => exact he
    | inside hpart hw =>
      rw [List.append_assoc]
      exact hp _ _ _ hpart _ _ _ hw

theorem Permitted.congr (h : ∀ n, n ∈ known ↔ n ∈ known') : Permitted known e ↔ Permitted known' e := by
  cases e <;> simp only [Permitted, h]

theorem InLanguage.congr (h : ∀ n, n ∈ known ↔ n ∈ known') : InLanguage known e ↔ InLanguage known' e := by
  have hv : ∀ v : List String, ∀ n, n ∈ v ++ known ↔ n ∈ v ++ known' := by
    intro v n
    rw [List.mem_append, List.mem_append, h]
  constructor
  · intro he v o x hw
    exact (Permitted.congr (hv v)).1 (he v o x hw)
  · intro he v o x hw
    exact (Permitted.congr (hv v)).2 (he v o x hw)

/-- Outside of comprehensions no names become visible. -/
theorem inLanguage_operands (he : ∀ n kind x cs, e ≠ .comprehension n kind x cs) :
    InLanguage known e ↔ Permitted known e ∧ ∀ x ∈ e.operands, InLanguage known x := by
  rw [inLanguage_iff]
  refine and_congr_right fun _ => ⟨fun h x hx => h [] [] x (.operand hx), fun h v o x hp => ?_⟩
  cases hp with
  | operand hx => exact h x hx
  | _ => exact absurd rfl (he _ _ _ _)

/-- What the language asks of the clauses of a comprehension, one after the other. -/
def ClausesInLanguage (known : List String) : List Clause → Prop
  | [] => True
  | c :: cs =>
    InLanguage known c.iterated ∧ IsTarget c.target ∧
      (∀ x ∈ c.conditions, InLanguage (targetIds c.target ++ known) x) ∧ c.isAsync = false ∧
        ClausesInLanguage (targetIds c.target ++ known) cs

theorem ClausesInLanguage.congr {cs : List Clause} (h : ∀ n, n ∈ known ↔ n ∈ known') :
    ClausesInLanguage known cs ↔ ClausesInLanguage known' cs := by
  induction cs generalizing known known' with
  | nil => rfl
  | cons c cs ih =>
    have ht : ∀ n, n ∈ targetIds c.target ++ known ↔ n ∈ targetIds c.target ++ known' := by
      intro n
      rw [List.mem_append, List.mem_append, h]
    simp only [ClausesInLanguage, InLanguage.congr h, InLanguage.congr ht, ih ht]

theorem clausesInLanguage_iff {cs : List Clause} : ClausesInLanguage known cs ↔
    ∀ before c after, cs = before ++ c :: after →
      InLanguage (boundBy before ++ known) c.iterated ∧ IsTarget c.target ∧
        (∀ x ∈ c.conditions, InLanguage (boundBy (before ++ [c]) ++ known) x) ∧ c.isAsync = false := by
  induction cs generalizing known with
  | nil => simp [ClausesInLanguage]
  | cons d cs ih =>
    -- The targets come in another order where a clause is taken off at the front.
    have hswap : ∀ bs : List Clause, ∀ n,
        n ∈ boundBy bs ++ (targetIds d.target ++ known) ↔ n ∈ boundBy (d :: bs) ++ known := by
      intro bs n
      simp only [boundBy, List.flatMap_cons, List.mem_append]
      tauto
    rw [ClausesInLanguage, ih]
    constructor
    · rintro ⟨hi, ht, hc, ha, hcs⟩ before c after heq
      cases before with
      | nil =>
        cases heq
        refine ⟨hi, ht, fun x hx => ?_, ha⟩
        have hx := hc x hx
        simpa [boundBy] using hx
      | cons b before =>
        cases heq
        obtain ⟨hi, ht, hc, ha⟩ := hcs before c after rfl
        refine ⟨(InLanguage.congr (hswap before)).1 hi, ht, fun x hx => ?_, ha⟩
        exact (InLanguage.congr (hswap (before ++ [c]))).1 (hc x hx)
    · intro h
      obtain ⟨hi, ht, hc, ha⟩ := h [] d cs rfl
      refine ⟨hi, ht, fun x hx => by simpa [boundBy] using hc x hx, ha, fun before c after heq => ?_⟩
      obtain ⟨hi, ht, hc, ha⟩ := h (d :: before) c after (by rw [heq]; rfl)
      refine ⟨(InLanguage.congr (hswap before)).2 hi, ht, fun x hx => ?_, ha⟩
      exact (InLanguage.congr (hswap (before ++ [c]))).2 (hc x hx)

theorem inLanguage_comprehension {n : Nat} {kind : Collected} {x : Expr} {cs : List Clause} :
    InLanguage known (.comprehension n kind x cs) ↔
      ClausesInLanguage known cs ∧ InLanguage (boundBy cs ++ known) x := by
  rw [inLanguage_iff, clausesInLanguage_iff]
  constructor
  · rintro ⟨hcs, hp⟩
    refine ⟨fun before c after heq => ?_, hp _ _ _ .element⟩
    obtain ⟨ht, ha⟩ := hcs c (by simp [heq])
    subst heq
    refine ⟨?_, ht, fun y hy => hp _ _ _ (.condition hy), ha⟩
    cases before with
    | nil => exact hp _ _ _ .first
    | cons d before => exact hp _ _ _ .later
  · rintro ⟨hcs, hx⟩
    constructor
    · intro c hc
      obtain ⟨before, after, heq⟩ := List.append_of_mem hc
      obtain ⟨-, ht, -, ha⟩ := hcs before c after heq
      exact ⟨ht, ha⟩
    · intro v o y hp
      cases hp with
      | operand hy => cases hy
      | first => exact (hcs [] _ _ rfl).1
      | later => exact (hcs _ _ _ rfl).1
      | condition hy => exact (hcs _ _ _ rfl).2.2.1 _ hy
      | element => exact hx

end

/-! ## Targets -/

section
variable {ns : List String}

theorem targetsIds_append (es fs : List Expr) : targetsIds (es ++ fs) = targetsIds es ++ targetsIds fs := by
  induction es with
  | nil => rfl
  | cons e es ih => rw [List.cons_append, targetsIds, targetsIds, ih, List.append_assoc]

theorem targetsSize_append (es fs : List Expr) : targetsSize (es ++ fs) = targetsSize es + targetsSize fs := by
  induction es with
  | nil => simp [targetsSize]
  | cons e es ih => rw [List.cons_append, targetsSize, targetsSize, ih, Nat.add_assoc]

/-- Names are collected from all of the targets, and only from targets. The fuel is more than what is left. -/
theorem targetNames_eq : ∀ (fuel : Nat) (es : List Expr), targetsSize es < fuel →
    ((∃ ns, targetNames fuel es = .ok ns) ↔ ∀ e ∈ es, IsTarget e) ∧
      ∀ ns, targetNames fuel es = .ok ns → ∀ n, n ∈ ns ↔ n ∈ targetsIds es
  | 0, _, h => absurd h (Nat.not_lt_zero _)
  | _ + 1, [], _ => by
    refine ⟨⟨fun _ e he => absurd he List.not_mem_nil, fun _ => ⟨[], rfl⟩⟩, ?_⟩
    rintro _ ⟨⟩ n
    rfl
  | fuel + 1, e :: es, h => by
    rw [targetsSize] at h
    cases e with
    | name c id =>
      obtain ⟨hok, hns⟩ := targetNames_eq fuel es (by simp only [targetSize] at h; omega)
      cases hp : isPrivate id with
      | true =>
        have hno : targetNames (fuel + 1) (.name c id :: es) = .error ⟨c, .privateTarget id⟩ := by
          simp only [targetNames, hp, if_true]
          rfl
        rw [hno]
        refine ⟨⟨fun ⟨_, h⟩ => (by cases h), fun hall => ?_⟩, fun _ h => (by cases h)⟩
        obtain hpub | _ := hall _ List.mem_cons_self
        cases hp.symm.trans hpub
      | false =>
        have hrest : targetNames (fuel + 1) (.name c id :: es) = (targetNames fuel es).map (id :: ·) := by
          simp only [targetNames, hp, Bool.false_eq_true, if_false]
          cases targetNames fuel es <;> rfl
        rw [hrest]
        cases hes : targetNames fuel es with
        | error o =>
          refine ⟨⟨fun ⟨_, h⟩ => (by cases h), fun hall => ?_⟩, fun _ h => (by cases h)⟩
          obtain ⟨_, hr⟩ := hok.2 fun e he => hall e (List.mem_cons_of_mem _ he)
          cases hes.symm.trans hr
        | ok ms =>
          refine ⟨⟨fun _ x hx => ?_, fun _ => ⟨_, rfl⟩⟩, ?_⟩
          · rcases List.mem_cons.1 hx with rfl | hx
            · exact .name hp
            · exact hok.1 ⟨ms, hes⟩ x hx
          · rintro _ ⟨⟩ n
            simp [targetsIds, targetIds, hns ms hes]
    | row c kind inner =>
      cases kind with
      | tuple =>
        -- The elements are put after the other targets, so it is the size that goes down and not the list.
        have hsize : targetsSize (es ++ inner) < fuel := by
          rw [targetsSize_append]
          simp only [targetSize] at h
          omega
        obtain ⟨hok, hns⟩ := targetNames_eq fuel (es ++ inner) hsize
        rw [show targetNames (fuel + 1) (.row c .tuple inner :: es) = targetNames fuel (es ++ inner) from rfl]
        refine ⟨hok.trans ?_, fun ns hn n => ?_⟩
        · constructor
          · intro hall x hx
            rcases List.mem_cons.1 hx with rfl | hx
            · exact .tuple fun y hy => hall y (List.mem_append_right _ hy)
            · exact hall x (List.mem_append_left _ hx)
          · intro hall x hx
            rcases List.mem_append.1 hx with hx | hx
            · exact hall x (List.mem_cons_of_mem _ hx)
            · obtain _ | hinner := hall _ List.mem_cons_self
              exact hinner x hx
        · rw [hns ns hn, targetsIds_append, targetsIds, targetIds, List.mem_append, List.mem_append, or_comm]
      | _ =>
        refine ⟨⟨fun ⟨_, h⟩ => (by cases h), fun hall => ?_⟩, fun _ h => (by cases h)⟩
        cases hall _ List.mem_cons_self
    | _ =>
      refine ⟨⟨fun ⟨_, h⟩ => (by cases h), fun hall => ?_⟩, fun _ h => (by cases h)⟩
      cases hall _ List.mem_cons_self

theorem boundNames_eq_ok {e : Expr} : (∃ ns, boundNames e = .ok ns) ↔ IsTarget e := by
  have h := (targetNames_eq (targetSize e + 1) [e] (by simp [targetsSize])).1
  simpa [boundNames] using h

theorem mem_boundNames {e : Expr} (h : boundNames e = .ok ns) (n : String) : n ∈ ns ↔ n ∈ targetIds e := by
  have hn := (targetNames_eq (targetSize e + 1) [e] (by simp [targetsSize])).2 ns h n
  simpa [targetsIds] using hn

end

/-! ## The check -/

theorem foreignOperator?_eq_none {op : BinaryOp} : foreignOperator? op = none ↔ op ∈ allowedOperators := by
  cases op <;> decide

theorem orElse_eq_none {α : Type} {a b : Option α} : (a <|> b) = none ↔ a = none ∧ b = none := by
  cases a <;> simp

theorem named?_isNone {n : String} : (Function.named? n).isNone = false ↔ n ∈ Function.library.map (·.name) := by
  unfold Function.named?
  cases h : Function.library.find? (·.name == n) with
  | none => simpa using h
  | some f =>
    have hf := List.mem_of_find?_eq_some h
    have hn : f.name = n := by simpa using List.find?_some h
    simpa using ⟨f, hf, hn⟩

mutual

/-- The check of admission has no objection exactly to the expressions of the language. -/
theorem objection?_eq_none (known : List String) : ∀ e : Expr, objection? known e = none ↔ InLanguage known e
  | .literal .. => by simp [objection?, inLanguage_operands, Permitted, operands]
  | .name c n => by
    rw [inLanguage_operands (by simp)]
    cases hp : isPrivate n <;> simp [objection?, Permitted, operands, hp]
  | .member c b n => by
    rw [inLanguage_operands (by simp)]
    cases hp : isPrivate n <;> simp [objection?, Permitted, operands, hp, objection?_eq_none known b]
  | .subscript c b i => by
    rw [inLanguage_operands (by simp), objection?, orElse_eq_none, objection?_eq_none known b,
      objection?_eq_none known i]
    simp [Permitted, operands]
  | .slice c a b s => by
    rw [inLanguage_operands (by simp), objection?, orElse_eq_none, orElse_eq_none,
      optionObjection?_eq_none known a, optionObjection?_eq_none known b, optionObjection?_eq_none known s]
    simp only [Permitted, operands, List.mem_append, Option.mem_toList, or_imp, forall_and]
    tauto
  | .call c f args named => by
    rw [inLanguage_operands (by simp), objection?, orElse_eq_none, orElse_eq_none,
      calleeObjection?_eq_none known c f, argumentsObjection?_eq_none known args,
      namedObjection?_eq_none known named]
    simp only [Permitted, operands, List.mem_append, List.mem_map, or_imp, forall_and, forall_exists_index,
      and_imp, forall_apply_eq_imp_iff₂]
    tauto
  | .row c kind es => by
    rw [inLanguage_operands (by simp), objection?, listObjection?_eq_none known es]
    simp [Permitted, operands]
  | .dict c es => by
    rw [inLanguage_operands (by simp), objection?, orElse_eq_none, keysObjection?_eq_none known es,
      valuesObjection?_eq_none known es]
    simp only [Permitted, operands, List.mem_append, or_imp, forall_and, true_and]
  | .comprehension c kind e cs => by
    rw [inLanguage_comprehension, objection?]
    obtain ⟨hok, hns⟩ := clausesKnown_eq known cs
    cases hc : clausesKnown known cs with
    | error o =>
      refine iff_of_false (by simp) fun h => ?_
      obtain ⟨_, hr⟩ := hok.2 h.1
      cases hc.symm.trans hr
    | ok names =>
      have hcs := hok.1 ⟨names, hc⟩
      simp only [objection?_eq_none names e, hcs, true_and]
      exact InLanguage.congr (hns names hc)
  | .joined c es => by
    rw [inLanguage_operands (by simp), objection?, listObjection?_eq_none known es]
    simp [Permitted, operands]
  | .placed c v k s => by
    rw [inLanguage_operands (by simp), objection?, orElse_eq_none, objection?_eq_none known v,
      optionObjection?_eq_none known s]
    simp [Permitted, operands]
  | .unary c op e => by
    rw [inLanguage_operands (by simp), objection?, objection?_eq_none known e]
    simp [Permitted, operands]
  | .logical c isAnd es => by
    rw [inLanguage_operands (by simp), objection?, listObjection?_eq_none known es]
    simp [Permitted, operands]
  | .binary c op a b => by
    rw [inLanguage_operands (by simp), objection?, orElse_eq_none, orElse_eq_none, objection?_eq_none known a,
      objection?_eq_none known b, Option.map_eq_none_iff, foreignOperator?_eq_none]
    simp only [Permitted, operands, List.mem_cons, List.not_mem_nil, or_false, or_imp, forall_and, forall_eq]
    tauto
  | .compare c e rest => by
    rw [inLanguage_operands (by simp), objection?, orElse_eq_none, objection?_eq_none known e,
      comparedObjection?_eq_none known rest]
    simp only [Permitted, operands, List.mem_cons, or_imp, forall_and, forall_eq, true_and]
  | .conditional c x a b => by
    rw [inLanguage_operands (by simp), objection?, orElse_eq_none, orElse_eq_none, objection?_eq_none known x,
      objection?_eq_none known a, objection?_eq_none known b]
    simp [Permitted, operands]
  | .starred c e => by simp [objection?, inLanguage_operands, Permitted]
  | .foreign c n => by simp [objection?, inLanguage_operands, Permitted]

theorem calleeObjection?_eq_none (known : List String) (column : Nat) : ∀ f : Expr,
    calleeObjection? known column f = none ↔ IsCallee f ∧ ∀ x ∈ receiver f, InLanguage known x
  | .name c n => by
    rw [calleeObjection?, IsCallee, ← named?_isNone]
    cases (Function.named? n).isNone <;> simp [receiver]
  | .member c b n => by
    rw [calleeObjection?, IsCallee]
    by_cases hm : n ∈ allowedMethods <;> simp [hm, receiver, objection?_eq_none known b]
  | .literal .. | .subscript .. | .slice .. | .call .. | .row .. | .dict .. | .comprehension .. | .joined ..
  | .placed .. | .unary .. | .logical .. | .binary .. | .compare .. | .conditional .. | .starred ..
  | .foreign .. => by simp [calleeObjection?, IsCallee]

theorem optionObjection?_eq_none (known : List String) : ∀ o : Option Expr,
    optionObjection? known o = none ↔ ∀ e, o = some e → InLanguage known e
  | none => by simp [optionObjection?]
  | some e => by simp [optionObjection?, objection?_eq_none known e]

theorem listObjection?_eq_none (known : List String) : ∀ es : List Expr,
    listObjection? known es = none ↔ ∀ e ∈ es, InLanguage known e
  | [] => by simp [listObjection?]
  | e :: es => by
    rw [listObjection?, orElse_eq_none, objection?_eq_none known e, listObjection?_eq_none known es,
      List.forall_mem_cons]

theorem argumentsObjection?_eq_none (known : List String) : ∀ es : List Expr,
    argumentsObjection? known es = none ↔ (∀ n e, .starred n e ∉ es) ∧ ∀ e ∈ es, InLanguage known e
  | [] => by simp [argumentsObjection?]
  | e :: es => by
    by_cases hs : ∃ c x, e = .starred c x
    · obtain ⟨c, x, rfl⟩ := hs
      rw [argumentsObjection?, orElse_eq_none]
      exact iff_of_false (by simp) fun h => h.1 c x List.mem_cons_self
    · have hne : ∀ c x, e ≠ .starred c x := fun c x h => hs ⟨c, x, h⟩
      have hes : (∀ n x, .starred n x ∉ e :: es) ↔ ∀ n x, .starred n x ∉ es := by
        simp only [List.mem_cons, not_or, (hne _ _).symm, not_false_iff, true_and]
      rw [argumentsObjection?, orElse_eq_none, argumentsObjection?_eq_none known es, List.forall_mem_cons, hes]
      · rw [objection?_eq_none known e, and_left_comm]
      · exact fun c x h => hne c x h

theorem namedObjection?_eq_none (known : List String) : ∀ es : List (Option String × Expr),
    namedObjection? known es = none ↔ (∀ a ∈ es, a.1.isSome) ∧ ∀ a ∈ es, InLanguage known a.2
  | [] => by simp [namedObjection?]
  | (n, e) :: es => by
    rw [namedObjection?, orElse_eq_none, namedObjection?_eq_none known es, List.forall_mem_cons,
      List.forall_mem_cons]
    cases n <;> simp [objection?_eq_none known e, and_left_comm]

theorem keysObjection?_eq_none (known : List String) : ∀ es : List (Option Expr × Expr),
    keysObjection? known es = none ↔ ∀ e ∈ es.filterMap (·.1), InLanguage known e
  | [] => by simp [keysObjection?]
  | (k, v) :: es => by
    rw [keysObjection?, orElse_eq_none, optionObjection?_eq_none known k, keysObjection?_eq_none known es]
    cases k <;> simp

theorem valuesObjection?_eq_none (known : List String) : ∀ es : List (Option Expr × Expr),
    valuesObjection? known es = none ↔ ∀ e ∈ es.map (·.2), InLanguage known e
  | [] => by simp [valuesObjection?]
  | (k, v) :: es => by
    rw [valuesObjection?, orElse_eq_none, objection?_eq_none known v, valuesObjection?_eq_none known es]
    simp

theorem comparedObjection?_eq_none (known : List String) : ∀ es : List (Comparison × Expr),
    comparedObjection? known es = none ↔ ∀ e ∈ es.map (·.2), InLanguage known e
  | [] => by simp [comparedObjection?]
  | (c, e) :: es => by
    rw [comparedObjection?, orElse_eq_none, objection?_eq_none known e, comparedObjection?_eq_none known es]
    simp

theorem clausesKnown_eq (known : List String) : ∀ cs : List Clause,
    ((∃ names, clausesKnown known cs = .ok names) ↔ ClausesInLanguage known cs) ∧
      ∀ names, clausesKnown known cs = .ok names → ∀ n, n ∈ names ↔ n ∈ boundBy cs ++ known
  | [] => by
    refine ⟨⟨fun _ => trivial, fun _ => ⟨known, rfl⟩⟩, ?_⟩
    rintro _ ⟨⟩ n
    rfl
  | .mk target iterated conditions isAsync :: cs => by
    have hi := objection?_eq_none known iterated
    rw [clausesKnown, ClausesInLanguage]
    simp only [Clause.iterated, Clause.target, Clause.conditions, Clause.isAsync]
    cases ho : objection? known iterated with
    | some o =>
      refine ⟨iff_of_false (by simp) fun h => ?_, fun _ h => (by cases h)⟩
      cases ho.symm.trans (hi.2 h.1)
    | none =>
      have hit := hi.1 ho
      cases hb : boundNames target with
      | error o =>
        refine ⟨iff_of_false (by simp) fun h => ?_, fun _ h => (by cases h)⟩
        obtain ⟨_, hn⟩ := boundNames_eq_ok.2 h.2.1
        cases hb.symm.trans hn
      | ok ns =>
        have ht := boundNames_eq_ok.1 ⟨ns, hb⟩
        -- The check collects the names in an order of its own; which they are is all that matters.
        have hnames : ∀ n, n ∈ ns ++ known ↔ n ∈ targetIds target ++ known := by
          intro n
          rw [List.mem_append, List.mem_append, mem_boundNames hb]
        have hc := listObjection?_eq_none (ns ++ known) conditions
        simp only [InLanguage.congr hnames] at hc
        cases hl : listObjection? (ns ++ known) conditions with
        | some o =>
          simp only
          refine ⟨iff_of_false (by simp [hl]) fun h => ?_, fun _ h => by simp [hl] at h⟩
          cases hl.symm.trans (hc.2 h.2.2.1)
        | none =>
          simp only [hl]
          cases isAsync with
          | true => simp
          | false =>
            obtain ⟨hok, hns⟩ := clausesKnown_eq (ns ++ known) cs
            simp only [Bool.false_eq_true, if_false, hok, ClausesInLanguage.congr hnames]
            refine ⟨?_, fun names h n => ?_⟩
            · exact ⟨fun h => ⟨hit, ht, hc.1 hl, trivial, h⟩, fun h => h.2.2.2.2⟩
            rw [hns names h n, List.mem_append, hnames]
            simp only [boundBy, List.flatMap_cons, Clause.target, List.mem_append]
            tauto

end

end Conformance.Expr

namespace Conformance.Program

open Text Conformance.Expr

theorem inLanguage_of_compile {key : ProgramKey} {p : Program} (h : compile key = .ok p) :
    p.variables = key.variables ∧ InLanguage (knownNames key.variables) p.tree := by
  unfold compile at h
  dsimp only at h
  split at h
  · cases h
  · split at h
    · cases h
    · split at h
      · cases h
      · split at h
        · cases h
        · next hnone =>
          split at h
          · cases h
          · split at h
            · cases h
            · cases h
              exact ⟨rfl, (objection?_eq_none _ _).1 hnone⟩

end Conformance.Program
