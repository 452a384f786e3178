import Conformance.Constraint.Check
import Conformance.Proofs.Expr.Inference
import Conformance.Proofs.Expr.Language
import Conformance.Proofs.Rule.Parameters

/-!
# Suitable rules

Every standard rule suits the values of its kind: whatever the value and the parameter, its test or its expression
gives a truth value and no fault. For tests this is told from the domains alone, for expressions by the domains that
can be told from their trees.
-/

namespace Conformance

/-! ## Tests -/

namespace Rule.Test

def isSized (d : Domain) : Bool := d == .text || d == .bytes || d == .list || d == .dict

def isSequence (d : Domain) : Bool := d == .text || d == .bytes

def isTuple : Domain → Bool
  | .tuple _ => true
  | _ => false

/-- Whether a test can be made of all values of a domain with all parameters of another one. -/
def suits (t : Test) (value param : Domain) : Bool :=
  match t with
  | const => true
  | lt | lte | gt | gte => param == value && value.isOrdered
  | isIn => isTuple param || param == .numbers && value == .int
  | notIn => isTuple param
  | finite => value == .float
  | minLength | maxLength => isSized value && param == .int
  | length => isSized value
  | minBytes | maxBytes => value == .text && param == .int
  | lengthInBytes => value == .text
  | hasMatch => isSequence value && param == .pattern
  | startsWith | endsWith | contains | notContains => isSequence value && param == value
  | unique => value == .list
  | urlIn | urlNotIn => value == .message Schema.anyName && isTuple param
  | range _ _ _ => param == .pair value && value.isOrdered

section
variable {v p : Value} {d e : Domain}

theorem map_ok {α β : Type} {x : Except Fault α} (h : ∃ a, x = .ok a) (f : α → β) :
    ∃ b, (do return f (← x)) = Except.ok (ε := Fault) b := by
  obtain ⟨a, rfl⟩ := h
  exact ⟨f a, rfl⟩

theorem isSequence_iff : isSequence d = true ↔ d = .text ∨ d = .bytes := by
  simp [isSequence]

theorem size_ok (hd : isSized d = true) (hv : d.Holds v) : ∃ n : Nat, size v = .ok (.int n) := by
  cases hv with
  | text | bytes | list | dict => exact ⟨_, rfl⟩
  | _ => cases hd

theorem related_length (n m : Int) (r : Relation) : (Value.int n).related r (.int m) = .ok (r.holds (compare n m)) :=
  rfl

theorem lengthTest_ok {x : Except Fault Value} (hx : ∃ n : Nat, x = .ok (.int n)) (hp : Domain.int.Holds p)
    (r : Relation) : ∃ b, (do (← x).related r p) = .ok b := by
  obtain ⟨n, rfl⟩ := hx
  cases hp with
  | @int m _ => exact ⟨_, related_length n m r⟩

theorem sizeInBytes_ok (hv : Domain.text.Holds v) : ∃ n : Nat, sizeInBytes v = .ok (.int n) := by
  cases hv
  exact ⟨_, rfl⟩

theorem typeUrl_ok (hv : (Domain.message Schema.anyName).Holds v) : ∃ w, typeUrl v = .ok w := by
  generalize hd : Domain.message Schema.anyName = d at hv
  cases hv with
  | message m =>
    have ht : m.type = Schema.anyName := by simpa using hd.symm
    exact ⟨_, if_pos (beq_iff_eq.2 ht)⟩
  | _ => cases hd

theorem contains_tuple (he : isTuple e = true) (hp : e.Holds p) (w : Value) : ∃ b, p.contains w = .ok b := by
  cases hp with
  | tuple _ => exact ⟨_, rfl⟩
  | _ => cases he

theorem contains_numbers (hp : Domain.numbers.Holds p) (hv : Domain.int.Holds v) : ∃ b, p.contains v = .ok b := by
  cases hp
  cases hv
  exact ⟨_, rfl⟩

theorem contains_part (hd : d = .text ∨ d = .bytes) (hv : d.Holds v) (hp : d.Holds p) :
    ∃ b, v.contains p = .ok b := by
  rcases hd with rfl | rfl
  · cases hv
    cases hp
    exact ⟨_, rfl⟩
  · cases hv
    cases hp
    exact ⟨_, rfl⟩

theorem partTest_ok {method : String} (hm : method = "startswith" ∨ method = "endswith")
    (hd : d = .text ∨ d = .bytes) (hv : d.Holds v) (hp : d.Holds p) : ∃ b, partTest method v p = .ok b := by
  rcases hd with rfl | rfl
  · cases hv
    cases hp
    rcases hm with rfl | rfl
    · exact ⟨_, rfl⟩
    · exact ⟨_, rfl⟩
  · cases hv
    cases hp
    rcases hm with rfl | rfl
    · exact ⟨_, rfl⟩
    · exact ⟨_, rfl⟩

theorem checkMatch_ok (hd : d = .text ∨ d = .bytes) (hv : d.Holds v) (hp : Domain.pattern.Holds p) :
    ∃ b, Expr.Library.checkMatch v p = .ok b := by
  cases hp
  rcases hd with rfl | rfl
  · cases hv
    exact ⟨_, rfl⟩
  · cases hv with
    | bytes b =>
      cases hs : Text.Utf8.decode? b with
      | some s => exact ⟨_, by simp only [Expr.Library.checkMatch, hs]; rfl⟩
      | none => exact ⟨false, by simp only [Expr.Library.checkMatch, hs]; rfl⟩

theorem rangeTest_ok (hd : d.isOrdered = true) (hv : d.Holds v) (hp : (Domain.pair d).Holds p) (lower : Lower)
    (upper : Upper) (outside : Bool) : ∃ b, (range lower upper outside).holds v p = .ok b := by
  cases hp with
  | @pair _ low high hlow hhigh =>
    obtain ⟨above, habove⟩ := hv.related_ok hlow hd lower.relation
    obtain ⟨below, hbelow⟩ := hv.related_ok hhigh hd upper.relation
    have hpair : Rule.pair (.tuple [low, high]) = .ok (low, high) := rfl
    simp only [holds, hpair, habove, hbelow, bind, Except.bind, pure, Except.pure]
    cases outside <;> cases above <;> simp

theorem suits_holds {t : Test} (h : t.suits d e = true) (hv : d.Holds v) (hp : e.Holds p) :
    ∃ b, t.holds v p = .ok b := by
  -- What the conditions that several tests share come to.
  have hordered (h : (e == d && d.isOrdered) = true) (r : Relation) : ∃ b, v.related r p = .ok b := by
    simp only [Bool.and_eq_true, beq_iff_eq] at h
    obtain ⟨rfl, ho⟩ := h
    exact hv.related_ok hp ho r
  have hlength (h : (isSized d && e == .int) = true) (r : Relation) : ∃ b, (do (← size v).related r p) = .ok b := by
    simp only [Bool.and_eq_true, beq_iff_eq] at h
    obtain ⟨hd, rfl⟩ := h
    exact lengthTest_ok (size_ok hd hv) hp r
  have hbytes (h : (d == .text && e == .int) = true) (r : Relation) :
      ∃ b, (do (← sizeInBytes v).related r p) = .ok b := by
    simp only [Bool.and_eq_true, beq_iff_eq] at h
    obtain ⟨rfl, rfl⟩ := h
    exact lengthTest_ok (sizeInBytes_ok hv) hp r
  have hpart (h : (isSequence d && e == d) = true) : (d = .text ∨ d = .bytes) ∧ d.Holds p := by
    simp only [Bool.and_eq_true, beq_iff_eq] at h
    obtain ⟨hd, rfl⟩ := h
    exact ⟨isSequence_iff.1 hd, hp⟩
  have hurl (h : (d == .message Schema.anyName && isTuple e) = true) :
      ∃ w b, typeUrl v = .ok w ∧ p.contains w = .ok b := by
    simp only [Bool.and_eq_true, beq_iff_eq] at h
    obtain ⟨rfl, he⟩ := h
    obtain ⟨w, hw⟩ := typeUrl_ok hv
    obtain ⟨b, hb⟩ := contains_tuple he hp w
    exact ⟨w, b, hw, hb⟩
  cases t with
  | const => exact ⟨_, rfl⟩
  | lt => exact hordered h .lt
  | lte => exact hordered h .le
  | gt => exact hordered h .gt
  | gte => exact hordered h .ge
  | isIn =>
    simp only [suits, Bool.or_eq_true, Bool.and_eq_true, beq_iff_eq] at h
    rcases h with he | ⟨rfl, rfl⟩
    · exact contains_tuple he hp v
    · exact contains_numbers hp hv
  | notIn => exact map_ok (contains_tuple h hp v) _
  | finite =>
    simp only [suits, beq_iff_eq] at h
    subst h
    cases hv
    exact ⟨_, rfl⟩
  | minLength => exact hlength h .ge
  | maxLength => exact hlength h .le
  | length =>
    obtain ⟨n, hn⟩ := size_ok h hv
    exact map_ok ⟨_, hn⟩ _
  | minBytes => exact hbytes h .ge
  | maxBytes => exact hbytes h .le
  | lengthInBytes =>
    simp only [suits, beq_iff_eq] at h
    subst h
    obtain ⟨n, hn⟩ := sizeInBytes_ok hv
    exact map_ok ⟨_, hn⟩ _
  | hasMatch =>
    simp only [suits, Bool.and_eq_true, beq_iff_eq] at h
    obtain ⟨hd, rfl⟩ := h
    exact checkMatch_ok (isSequence_iff.1 hd) hv hp
  | startsWith => exact partTest_ok (.inl rfl) (hpart h).1 hv (hpart h).2
  | endsWith => exact partTest_ok (.inr rfl) (hpart h).1 hv (hpart h).2
  | contains => exact contains_part (hpart h).1 hv (hpart h).2
  | notContains => exact map_ok (contains_part (hpart h).1 hv (hpart h).2) _
  | unique =>
    simp only [suits, beq_iff_eq] at h
    subst h
    cases hv
    exact ⟨_, rfl⟩
  | urlIn =>
    obtain ⟨w, b, hw, hb⟩ := hurl h
    exact ⟨b, by simp only [holds, hw]; exact hb⟩
  | urlNotIn =>
    obtain ⟨w, b, hw, hb⟩ := hurl h
    have hcontains : (urlNotIn).holds v p = (do return !(← p.contains w)) := by simp only [holds, hw]; rfl
    rw [hcontains]
    exact map_ok ⟨b, hb⟩ _
  | range lower upper outside =>
    simp only [suits, Bool.and_eq_true, beq_iff_eq] at h
    obtain ⟨rfl, ho⟩ := h
    exact rangeTest_ok ho hv hp lower upper outside

end
end Rule.Test

/-! ## Kinds and their values -/

namespace Rule

/-- The domain of the values that rules of a kind are for. -/
def kindDomain (kind : String) : Option Domain :=
  match Scalar.named? kind with
  | some s => some s.domain
  | none =>
    [("enum", .int), ("repeated", .list), ("map", .dict), ("any", .message Schema.anyName), ("duration", .span),
      ("timestamp", .instant)].lookup kind

/-- The domain of the parameter as the test of the rule takes it. -/
def preparedDomain (r : Rule) : Domain :=
  match r.preparation with
  | none => r.domain
  | some .pattern => .pattern
  | some .definedValues => .numbers

def context (value param : Domain) : Expr.Context := [("this", value), ("rule", param), ("now", .instant)]

/-- Whether the parameter of a rule can be written, and its form gives a truth value for all values of its kind. -/
def isSuitable (r : Rule) : Bool :=
  r.domain.isShown &&
  match kindDomain r.kind, r.form with
  | some d, .test t => t.suits d r.preparedDomain
  | some d, .expression source =>
    match Program.compile ⟨source, standardVariables⟩ with
    | .ok p => Expr.infer (context d r.domain) p.tree == some .bool
    | .error _ => false
  | none, _ => false

theorem standard_isSuitable : ∀ r ∈ standard, r.isSuitable = true := by
  decide +kernel

section
variable {r : Rule} {d : Domain} {v param now : Value}

theorem domain_isShown (hr : r ∈ standard) : r.domain.isShown = true :=
  (Bool.and_eq_true_iff.1 (standard_isSuitable r hr)).1

theorem test_suits (hr : r ∈ standard) (hd : kindDomain r.kind = some d) {t : Test} (ht : r.form = .test t) :
    t.suits d r.preparedDomain = true := by
  have hsuit := (Bool.and_eq_true_iff.1 (standard_isSuitable r hr)).2
  simpa only [hd, ht] using hsuit

theorem expression_suits (hr : r ∈ standard) (hd : kindDomain r.kind = some d) {source : String}
    (hs : r.form = .expression source) : ∃ p, Program.compile ⟨source, standardVariables⟩ = .ok p ∧
      Expr.infer (context d r.domain) p.tree = some .bool := by
  have hsuit := (Bool.and_eq_true_iff.1 (standard_isSuitable r hr)).2
  simp only [hd, hs] at hsuit
  cases hp : Program.compile ⟨source, standardVariables⟩ with
  | error e => simp [hp] at hsuit
  | ok p => exact ⟨p, rfl, by simpa [hp] using hsuit⟩

theorem models_context {e : Domain} (hv : d.Holds v) (hp : e.Holds param) (hn : Domain.instant.Holds now)
    (s : Schema) : Expr.Scope.Models ⟨s, [("this", v), ("rule", param), ("now", now)]⟩ (context d e) := by
  have hcases (n : String) : n = "this" ∨ n = "rule" ∨ n = "now" ∨
      (context d e).lookup n = none ∧ [("this", v), ("rule", param), ("now", now)].lookup n = none := by
    by_cases hthis : n = "this"
    · exact .inl hthis
    by_cases hrule : n = "rule"
    · exact .inr (.inl hrule)
    by_cases hnow : n = "now"
    · exact .inr (.inr (.inl hnow))
    have hnone {α : Type} (a b c : α) : [("this", a), ("rule", b), ("now", c)].lookup n = none := by
      simp [List.lookup_cons, beq_eq_false_iff_ne.2 hthis, beq_eq_false_iff_ne.2 hrule, beq_eq_false_iff_ne.2 hnow]
    exact .inr (.inr (.inr ⟨hnone _ _ _, hnone _ _ _⟩))
  constructor
  · intro n d' h
    rcases hcases n with rfl | rfl | rfl | ⟨hnone, -⟩
    · cases h
      exact ⟨v, rfl, hv⟩
    · cases h
      exact ⟨param, rfl, hp⟩
    · cases h
      exact ⟨now, rfl, hn⟩
    · rw [hnone] at h
      cases h
  · intro n h
    rcases hcases n with rfl | rfl | rfl | ⟨-, hnone⟩
    · cases h
    · cases h
    · cases h
    · exact hnone

end
end Rule

/-- Programs of standard rules are evaluated under the value, the parameter and the present time. -/
theorem Program.evaluate_standard {source : String} {p : Program}
    (hc : Program.compile ⟨source, Rule.standardVariables⟩ = .ok p) (s : Schema) (v param now : Value) :
    p.evaluate s [("this", v), ("rule", param), ("now", now)] =
      match Expr.value ⟨s, [("this", v), ("rule", param), ("now", now)]⟩ p.tree with
      | .ok (.bool b) => .ok (.holds b)
      | .ok (.text t) => .ok (.complaint t)
      | .ok w => .error (.unusable w.typeName p.source)
      | .error f => .error (.faulty f p.source) := by
  obtain ⟨hvariables, -⟩ := inLanguage_of_compile hc
  have hscope : p.scope s [("this", v), ("rule", param), ("now", now)] =
      ⟨s, [("this", v), ("rule", param), ("now", now)]⟩ := by
    rw [scope, hvariables]
    rfl
  have hmissing : p.missing [("this", v), ("rule", param), ("now", now)] = [] := by
    rw [missing, hvariables]
    rfl
  unfold evaluate
  rw [hscope, hmissing]
  rfl

theorem Program.evaluate_decides {source : String} {p : Program} {d e : Domain} {v param now : Value}
    (hc : Program.compile ⟨source, Rule.standardVariables⟩ = .ok p)
    (hi : Expr.infer (Rule.context d e) p.tree = some .bool) (hv : d.Holds v) (hp : e.Holds param)
    (hn : Domain.instant.Holds now) (s : Schema) :
    ∃ b, p.evaluate s [("this", v), ("rule", param), ("now", now)] = .ok (.holds b) := by
  obtain ⟨-, w, hw, hb⟩ := Expr.infer_sound (Rule.models_context hv hp hn s) p.tree .bool hi {} rfl
  have hvalue : Expr.value ⟨s, [("this", v), ("rule", param), ("now", now)]⟩ p.tree = .ok w := hw
  cases hb with
  | bool b => exact ⟨b, by rw [evaluate_standard hc, hvalue]⟩

/-! ## Checks -/

namespace Check

/-- The check gives a truth value and no fault. -/
def Decides (s : Schema) (c : Check) (v now : Value) : Prop :=
  match c.form with
  | .test t param => ∃ b, t.holds v param = .ok b
  | .formula p _ | .custom p => ∃ b, p.evaluate s (c.bindings v now) = .ok (.holds b)

theorem Decides.run_ok {s : Schema} {c : Check} {v now : Value} (h : c.Decides s v now) :
    ∃ o, c.run s v now = .ok o := by
  unfold Decides at h
  unfold run
  revert h
  cases c.form with
  | test t param =>
    rintro ⟨b, hb⟩
    simp [hb]
  | formula p param =>
    rintro ⟨b, hb⟩
    cases b <;> simp [hb]
  | custom p =>
    rintro ⟨b, hb⟩
    cases b <;> simp [hb]

end Check
end Conformance
