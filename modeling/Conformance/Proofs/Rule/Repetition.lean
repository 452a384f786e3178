import Conformance.Proofs.Expr.Atoms
import Conformance.Proofs.Rule.Patterns
import Conformance.Proofs.Value.Equality

/-!
# Members that are repeated

The function `unique` and the rule of that name go through a collection and keep the members that they meet, until one
equals one of those. They hold if and only if no two members are equal. Where equality is one, the order of the members
makes no difference.
-/

namespace Conformance

open Rule Compile

namespace Expr

namespace Library

/-! ## The search for a repeated member -/

/-- No member equals one of those that were met before, or one that stands before it. -/
theorem distinct_iff {seen xs : List Value} : distinct seen xs = true ↔
    (∀ x ∈ xs, ∀ y ∈ seen, x.same y = false) ∧ xs.Pairwise fun x y => y.same x = false := by
  induction xs generalizing seen with
  | nil => simp [distinct]
  | cons x xs ih =>
    rw [distinct, Bool.and_eq_true, ih, List.pairwise_cons]
    simp only [Bool.not_eq_true', List.any_eq_false, Bool.not_eq_true, List.forall_mem_cons]
    constructor
    · rintro ⟨hx, hxs, hpairs⟩
      exact ⟨⟨hx, fun y hy => (hxs y hy).2⟩, fun y hy => (hxs y hy).1, hpairs⟩
    · rintro ⟨⟨hx, hseen⟩, hxs, hpairs⟩
      exact ⟨hx, fun y hy => ⟨hxs y hy, hseen y hy⟩, hpairs⟩

theorem afterRepeated?_eq_none_iff {seen xs : List Value} :
    afterRepeated? seen xs = none ↔ distinct seen xs = true := by
  induction xs generalizing seen with
  | nil => simp [afterRepeated?, distinct]
  | cons x xs ih =>
    rw [afterRepeated?, distinct]
    cases seen.any (x.same ·) with
    | true => simp
    | false => simp [ih]

section
variable {xs ys : List Value} (hxs : ∀ x ∈ xs, x.Definite)
include hxs

theorem distinct_iff_pairwise : distinct [] xs = true ↔ xs.Pairwise fun x y => x.same y = false := by
  rw [distinct_iff]
  simp only [List.not_mem_nil, false_implies, implies_true, true_and]
  exact List.Pairwise.iff_of_mem fun hx hy => by rw [Value.same_comm (hxs _ hx) (hxs _ hy)]

theorem distinct_perm (h : ys.Perm xs) : distinct [] ys = distinct [] xs := by
  have hys : ∀ y ∈ ys, y.Definite := fun y hy => hxs y (h.mem_iff.1 hy)
  have hboth {zs : List Value} (hzs : ∀ z ∈ zs, z.Definite) :
      distinct [] zs = true ↔ zs.Pairwise fun x y => x.same y = false ∧ y.same x = false := by
    rw [distinct_iff_pairwise hzs]
    exact List.Pairwise.iff_of_mem fun hx hy => by rw [Value.same_comm (hzs _ hx) (hzs _ hy), and_self]
  rw [Bool.eq_iff_iff, hboth hys, hboth hxs]
  exact h.pairwise_iff And.symm

end
end Library

/-! ## Calls -/

/-- Going through a value gives these members, and then no fault. -/
inductive Store.Offers (st : Store) : Value → List Value → Prop
  | collection {v : Value} {xs : List Value} : v.members? = some xs → Offers st v xs
  | generator {id : Nat} {xs : List Value} : st.generators[id]? = some (xs, none) → Offers st (.generator id) xs

section
variable {st : Store} {v : Value} {xs : List Value}

theorem Store.Offers.run_sourceOf (h : st.Offers v xs) : (Eval.sourceOf v).run.run st = (.ok (xs, none), st) := by
  cases h with
  | collection hv =>
    unfold Eval.sourceOf
    split
    · cases hv
    · rw [hv]
      rfl
  | generator hid =>
    rw [Eval.sourceOf, Eval.run_get_bind, hid]
    rfl

theorem exists_run_leave (st : Store) (v : Value) (rest : Source) :
    ∃ after, (Eval.leave v rest).run.run st = (.ok (), after) := by
  unfold Eval.leave
  split <;> exact ⟨_, rfl⟩

namespace Library

theorem run_checkUnique (h : st.Offers v xs) : ∃ after, (checkUnique v).run.run st = (.ok (distinct [] xs), after) := by
  rw [checkUnique, run_bind_of_ok h.run_sourceOf]
  dsimp only
  cases hrest : afterRepeated? [] xs with
  | none =>
    obtain ⟨after, hleave⟩ := exists_run_leave st v ([], none)
    rw [afterRepeated?_eq_none_iff.1 hrest]
    exact ⟨after, run_bind_of_ok hleave _⟩
  | some rest =>
    obtain ⟨after, hleave⟩ := exists_run_leave st v (rest, none)
    have hdistinct : distinct [] xs = false := by
      rw [Bool.eq_false_iff, ne_eq, ← afterRepeated?_eq_none_iff, hrest]
      exact nofun
    rw [hdistinct]
    exact ⟨after, run_bind_of_ok hleave _⟩

theorem run_unique (s : Schema) (h : st.Offers v xs) :
    ((call s (.function .unique) ⟨[v], []⟩).run.run st).1 = .ok (.bool (distinct [] xs)) := by
  have hcall : call s (.function .unique) ⟨[v], []⟩ = do return .bool (← checkUnique v) := rfl
  obtain ⟨after, hcheck⟩ := run_checkUnique h
  rw [hcall, run_bind_of_ok hcheck]
  rfl

end Library
end
end Expr

/-! ## The rule -/

namespace Rule

theorem exists_uniqueCheck (s : Schema) (place : String) (type : FieldType) :
    ∃ r c, standard? "repeated" "unique" = some r ∧ (standardCheck s place type ⟨r, .bool true⟩).outcome = .ok c ∧
      c.ruleId = "repeated.unique" ∧ c.form = .test .unique (.bool true) := by
  have hrule : ∃ r, standard? "repeated" "unique" = some r ∧ r.id = "repeated.unique" ∧ r.form = .test .unique ∧
      r.preparation = none := ⟨_, rfl, rfl, rfl, rfl⟩
  obtain ⟨r, hr, hid, hform, hprep⟩ := hrule
  refine ⟨r, _, hr, standardCheck_eq_ok.2 ⟨_, rfl, .inl ⟨.unique, .bool true, hform, ?_, rfl⟩⟩, hid, rfl⟩
  rw [Rule.prepare, hprep]

end Rule

theorem Check.answers_unique {c : Check} {v param : Value} {xs : List Value} (hform : c.form = .test .unique param)
    (hv : v.members? = some xs) (s : Schema) : c.Answers s v (Expr.Library.distinct [] xs) := by
  have htest : Test.holds .unique v param = .ok (Expr.Library.distinct [] xs) := by
    simp only [Test.holds, hv]
    rfl
  intro now
  simp only [Check.run, hform, htest]

namespace Expr.Library

/-- Where the members of a collection are without NaN, equality is one for them: numbers are equal if they stand for the
same, whatever their types. Then `unique` and the rule of that name hold exactly if no member equals a later one, also
when the members are in another order. -/
theorem unique_iff_pairwise (s : Schema) {xs : List Value} (hxs : ∀ x ∈ xs, x.Definite) :
    (∀ x ∈ xs, Reliable Value.same x ∧ ∀ y z, x.number? = some z → (x.same y = true ↔ y.number? = some z)) ∧
    ∃ b : Bool, (b = true ↔ ∀ i j : Fin xs.length, i < j → (xs.get i).same (xs.get j) = false) ∧
      ∀ ys, ys.Perm xs →
        (∀ (st : Store) (v : Value), st.Offers v ys →
          ((call s (.function .unique) ⟨[v], []⟩).run.run st).1 = .ok (.bool b)) ∧
        ∀ place type, ∃ r c, standard? "repeated" "unique" = some r ∧
          (standardCheck s place type ⟨r, .bool true⟩).outcome = .ok c ∧ c.ruleId = "repeated.unique" ∧
          ∀ v, v.members? = some ys → c.Answers s v b := by
  refine ⟨fun x hx => ⟨(hxs x hx).reliable, fun y z hz => Value.same_of_number hz⟩, distinct [] xs, ?_,
    fun ys hperm => ?_⟩
  · rw [distinct_iff_pairwise hxs, List.pairwise_iff_get]
  · rw [← distinct_perm hxs hperm]
    refine ⟨fun st v hv => run_unique s hv, fun place type => ?_⟩
    obtain ⟨r, c, hr, hc, hid, hform⟩ := exists_uniqueCheck s place type
    exact ⟨r, c, hr, hc, hid, fun v hv => Check.answers_unique hform hv s⟩

/-- Two lists are repeated if their members are equal: `True` and 1, and both zeros. -/
theorem unique_iff_pairwise_of_lists :
    ((call Layout.schema (.function .unique) ⟨[.tuple [.list [.bool true, .float Decimal.Binary64.zero.neg],
      .message (.mk "Point" [("x", .single (.int 1))]), .text "a", .list [.int 1, .float .zero]]], []⟩).run.run {}).1 =
        .ok (.bool false) := by
  have hxs : ∀ x ∈ [.list [.int 1, .float .zero], Value.text "a", .message (.mk "Point" [("x", .single (.int 1))]),
      .list [.bool true, .float Decimal.Binary64.zero.neg]], x.Definite := by
    have hmessage : (Datum.message (.mk "Point" [("x", .single (.int 1))])).Definite :=
      Datum.definite_of_everywhere _ rfl (by decide)
    simp only [List.forall_mem_cons, List.not_mem_nil, false_imp_iff, implies_true, and_true]
    refine ⟨.items rfl ?_, .plain rfl, .message hmessage, .items rfl ?_⟩
    all_goals
      simp only [List.forall_mem_cons, List.not_mem_nil, false_imp_iff, implies_true, and_true]
      exact ⟨.number rfl, .number rfl⟩
  obtain ⟨-, b, hb, hcalls⟩ := unique_iff_pairwise Layout.schema hxs
  obtain rfl : b = false := by
    rw [Bool.eq_false_iff, ne_eq, hb]
    intro h
    exact absurd (h ⟨0, by decide⟩ ⟨3, by decide⟩ (by decide)) (by decide +kernel)
  exact (hcalls _ (List.reverse_perm _)).1 {} _ (.collection rfl)

end Expr.Library
end Conformance
