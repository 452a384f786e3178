import Conformance.Expr.Evaluation
import Conformance.Proofs.Expr.Computation
import Conformance.Proofs.Value.Domain

/-!
# Domains of expressions

For the expressions of standard rules the domain of the value can be told from the domains of the variables
(`infer`), and if it can, evaluation gives such a value and no fault (`infer_sound`).
-/

namespace Conformance.Expr

open Calendar

/-- Variables with the domains of their values. -/
abbrev Context := List (String × Domain)

def Literal.domain? : Literal → Option Domain
  | .bool _ => some .bool
  | .int _ => some .number
  | .text _ => some .text
  | _ => Option.none

/-- The checks of formats that take a text alone. -/
def textChecks : List Function :=
  [.isAddress, .isEmail, .isHostname, .isIp, .isIpPrefix, .isUri, .isUriRef, .isUuid]

/-- What a function gives for arguments by position. -/
def returns? (f : Function) : List Domain → Option Domain
  | [.text] => if f ∈ textChecks then some .bool else if f = .size then some .number else none
  | [.bytes] => if f = .size then some .number else none
  | [.span] => if f = .abs then some .span else none
  | [.text, .number] => if f = .isIp then some .bool else none
  | [.text, .bool] => if f = .isHostAndPort then some .bool else none
  | _ => none

def isComparable (c : Comparison) (a b : Domain) : Bool :=
  match c, b with
  | .eq, _ | .notEq, _ | .isIn, .tuple _ | .notIn, .tuple _ => true
  | .lt, _ | .le, _ | .gt, _ | .ge, _ => a == b && a.isOrdered
  | _, _ => false

mutual

def infer (Γ : Context) : Expr → Option Domain
  | .literal _ l => l.domain?
  | .name _ n => Γ.lookup n
  | .call _ (.name _ n) args [] =>
    match Γ.lookup n, Function.named? n, inferAll Γ args with
    | none, some f, some ds => returns? f ds
    | _, _, _ => none
  | .row _ .tuple es =>
    match inferAll Γ es with
    | some (d :: ds) => if ds.all (· == d) then some (.tuple d) else none
    | _ => none
  | .binary _ .sub a b =>
    match infer Γ a, infer Γ b with
    | some .instant, some .instant => some .span
    | _, _ => none
  | .compare _ e rest =>
    match infer Γ e with
    | some d => if inferChain Γ d rest then some .bool else none
    | none => none
  | _ => none

def inferAll (Γ : Context) : List Expr → Option (List Domain)
  | [] => some []
  | e :: es =>
    match infer Γ e, inferAll Γ es with
    | some d, some ds => some (d :: ds)
    | _, _ => none

/-- Whether a chain of comparisons can be made from a value of a domain on. -/
def inferChain (Γ : Context) (d : Domain) : List (Comparison × Expr) → Bool
  | [] => true
  | (c, e) :: rest =>
    match infer Γ e with
    | some d' => isComparable c d d' && inferChain Γ d' rest
    | none => false

end

/-- The bindings of a scope are those of a context, with values of its domains. -/
structure Scope.Models (s : Scope) (Γ : Context) : Prop where
  bound : ∀ n d, Γ.lookup n = some d → ∃ v, s.bindings.lookup n = some v ∧ d.Holds v
  unbound : ∀ n, Γ.lookup n = none → s.bindings.lookup n = none

/-- Outside of comprehensions. -/
def Store.Plain (st : Store) : Prop := st.frames = []

/-! ## Functions -/

theorem succeeds_record (c : Call) : Succeeds Store.Plain (Eval.record c) fun _ => True :=
  Succeeds.modify fun _ hst => hst

theorem succeeds_map {α β : Type} {I : Store → Prop} {r : Except Fault α} {a : α} (hr : r = .ok a) (f : α → β)
    {Q : β → Prop} (h : Q (f a)) : Succeeds I (do return f (← Eval.lift r)) Q :=
  (Succeeds.lift hr rfl).bind fun b hb => Succeeds.pure (by rw [← hb]; exact h)

section
variable (t : String)

theorem checkMail_text : ∃ b, Library.checkMail (.text t) = .ok b := by
  by_cases h : 254 < t.length
  · exact ⟨false, by simp [Library.checkMail, Value.length?, h]; rfl⟩
  · exact ⟨Address.isMail t.toList, by simp [Library.checkMail, Value.length?, h]; rfl⟩

theorem checkHostname_text : ∃ b, Library.checkHostname (.text t) = .ok b := by
  unfold Library.checkHostname
  cases (Value.text t).truth with
  | false => exact ⟨false, rfl⟩
  | true =>
    by_cases h : 253 < t.length
    · exact ⟨false, by simp [Value.length?, h]; rfl⟩
    · exact ⟨Address.isHostname t.toList, by simp [Value.length?, h]; rfl⟩

theorem checkAddress_text : ∃ b, Library.checkAddress (.text t) = .ok b := by
  obtain ⟨b, hb⟩ := checkHostname_text t
  unfold Library.checkAddress
  rw [hb]
  cases b with
  | false => exact ⟨_, rfl⟩
  | true => exact ⟨true, rfl⟩

theorem succeeds_checkNetwork (version strict : Value) :
    Succeeds Store.Plain (Library.checkNetwork (.text t) version strict) fun _ => True := by
  have hholds : Succeeds Store.Plain (Library.holds (.text t) (.text "/")) fun _ => True :=
    Succeeds.lift rfl trivial
  refine hholds.bind fun slashed _ => ?_
  split
  · exact Succeeds.pure trivial
  · dsimp only
    split
    · exact Succeeds.pure trivial
    · exact Succeeds.pure trivial

end

/-- The difference of two instants is a span, and so is what a span is without its sign. -/
theorem absolute_span {t : Span} (h : Span.least ≤ t.micros) (h' : t.micros ≤ Span.greatest) :
    ∃ v, (Value.span t).absolute = .ok v ∧ Domain.span.Holds v := by
  have hin : Span.least ≤ t.micros.natAbs ∧ t.micros.natAbs ≤ Span.greatest := by
    simp only [Span.least, Span.greatest, microsPerDay] at h h' ⊢
    omega
  have heq : Span.ofMicros? t.micros.natAbs = some ⟨t.micros.natAbs⟩ := by
    unfold Span.ofMicros?
    rw [if_pos hin]
  refine ⟨.span ⟨t.micros.natAbs⟩, ?_, .span hin.1 hin.2⟩
  simp only [Value.absolute, Value.newSpan, heq]

theorem since_holds {a b : Instant} (ha : Domain.instant.Holds (.instant a)) (hb : Domain.instant.Holds (.instant b)) :
    Domain.span.Holds (.span (a.since b)) := by
  cases ha with
  | instant ha ha' =>
    cases hb with
    | instant hb hb' =>
      -- All years and two days to spare are still fewer days than the greatest span has.
      simp only [Instant.least, Instant.greatest, microsPerDay] at ha ha' hb hb'
      refine .span ?_ ?_ <;> simp only [Instant.since, Span.least, Span.greatest, microsPerDay] <;> omega

section
variable (s : Schema) (callKey : Library.KeyCall)

theorem succeeds_textCheck {f : Function} (h : f ∈ textChecks) (t : String) :
    Succeeds Store.Plain (Library.apply s callKey f ⟨[.text t], []⟩) Domain.bool.Holds := by
  simp only [textChecks, List.mem_cons, List.not_mem_nil, or_false] at h
  rcases h with rfl | rfl | rfl | rfl | rfl | rfl | rfl | rfl
  · obtain ⟨b, hb⟩ := checkAddress_text t
    exact succeeds_map hb Value.bool (Domain.Holds.bool b)
  · obtain ⟨b, hb⟩ := checkMail_text t
    exact succeeds_map hb Value.bool (Domain.Holds.bool b)
  · obtain ⟨b, hb⟩ := checkHostname_text t
    exact succeeds_map hb Value.bool (Domain.Holds.bool b)
  · exact Succeeds.pure (Domain.Holds.bool _)
  · exact (succeeds_checkNetwork t _ _).bind fun b _ => Succeeds.pure (Domain.Holds.bool b)
  · exact succeeds_map rfl Value.bool (Domain.Holds.bool _)
  · exact succeeds_map rfl Value.bool (Domain.Holds.bool _)
  · exact succeeds_map rfl Value.bool (Domain.Holds.bool _)

theorem succeeds_apply {f : Function} {ds : List Domain} {d : Domain} {vs : List Value}
    (h : returns? f ds = some d) (hvs : List.Forall₂ Domain.Holds ds vs) :
    Succeeds Store.Plain (Library.apply s callKey f ⟨vs, []⟩) d.Holds := by
  unfold returns? at h
  split at h
  · obtain _ | ⟨ht, ⟨⟩⟩ := hvs
    cases ht with
    | text t =>
      by_cases hf : f ∈ textChecks
      · rw [if_pos hf] at h
        cases h
        exact succeeds_textCheck s callKey hf t
      · rw [if_neg hf] at h
        obtain ⟨rfl, h⟩ := Option.ite_none_right_eq_some.1 h
        cases h
        exact Succeeds.pure (Domain.Holds.number _)
  · obtain _ | ⟨hb, ⟨⟩⟩ := hvs
    obtain ⟨rfl, h⟩ := Option.ite_none_right_eq_some.1 h
    cases h
    cases hb
    exact Succeeds.pure (Domain.Holds.number _)
  · obtain _ | ⟨ht, ⟨⟩⟩ := hvs
    obtain ⟨rfl, h⟩ := Option.ite_none_right_eq_some.1 h
    cases h
    cases ht with
    | span hl hg =>
      obtain ⟨v, hv, hd⟩ := absolute_span hl hg
      exact Succeeds.lift hv hd
  · obtain _ | ⟨ht, _ | ⟨hn, ⟨⟩⟩⟩ := hvs
    obtain ⟨rfl, h⟩ := Option.ite_none_right_eq_some.1 h
    cases h
    cases ht
    exact Succeeds.pure (Domain.Holds.bool _)
  · obtain _ | ⟨ht, _ | ⟨hb, ⟨⟩⟩⟩ := hvs
    obtain ⟨rfl, h⟩ := Option.ite_none_right_eq_some.1 h
    cases h
    cases ht
    exact succeeds_map rfl Value.bool (Domain.Holds.bool _)
  · cases h

end

/-! ## Expressions -/

theorem succeeds_compareValues {c : Comparison} {d d' : Domain} {v w : Value} (h : isComparable c d d' = true)
    (hv : d.Holds v) (hw : d'.Holds w) (one : Bool) :
    Succeeds Store.Plain (compareValues c one v w) fun _ => True := by
  have hrelated (r : Relation) (heq : (d == d' && d.isOrdered) = true) :
      Succeeds Store.Plain (Eval.lift (v.related r w)) fun _ => True := by
    obtain ⟨hd, ho⟩ := Bool.and_eq_true_iff.1 heq
    obtain rfl := beq_iff_eq.1 hd
    obtain ⟨b, hb⟩ := hv.related_ok hw ho r
    exact Succeeds.lift hb trivial
  cases c with
  | eq | notEq => exact Succeeds.pure trivial
  | lt => exact hrelated .lt h
  | le => exact hrelated .le h
  | gt => exact hrelated .gt h
  | ge => exact hrelated .ge h
  | same | notSame => cases d' <;> cases h
  | isIn =>
    cases hw with
    | tuple _ => exact Succeeds.lift rfl trivial
    | _ => cases h
  | notIn =>
    cases hw with
    | @tuple _ xs _ =>
      have hholds : Succeeds Store.Plain (Library.holds (.tuple xs) v) fun _ => True := Succeeds.lift rfl trivial
      exact hholds.bind fun _ _ => Succeeds.pure trivial
    | _ => cases h

theorem literal_holds {l : Literal} {d : Domain} (h : l.domain? = some d) : d.Holds l.value := by
  cases l <;> cases h
  · exact .bool _
  · exact .number _
  · exact .text _

theorem holds_of_forall₂ {ds : List Domain} {d : Domain} {vs : List Value} (h : List.Forall₂ Domain.Holds ds vs)
    (hd : ∀ e ∈ ds, e = d) : ∀ v ∈ vs, d.Holds v := by
  induction h with
  | nil => exact fun v hv => absurd hv List.not_mem_nil
  | cons hv _ ih =>
    intro w hw
    rcases List.mem_cons.1 hw with rfl | hw
    · exact hd _ List.mem_cons_self ▸ hv
    · exact ih (fun e he => hd e (List.mem_cons_of_mem _ he)) w hw

section
variable {s : Scope} {Γ : Context}

theorem succeeds_read (hs : s.Models Γ) {n : String} {d : Domain} (h : Γ.lookup n = some d) :
    Succeeds Store.Plain (Eval.read s n) d.Holds := by
  obtain ⟨v, hv, hd⟩ := hs.bound n d h
  refine Succeeds.get.bind fun st hst => ?_
  have hframes : st.frames = [] := hst
  simp only [hframes, Eval.local?, hv]
  exact Succeeds.pure hd

theorem succeeds_read_function (hs : s.Models Γ) {n : String} {f : Function} (h : Γ.lookup n = none)
    (hf : Function.named? n = some f) : Succeeds Store.Plain (Eval.read s n) (· = .function f) := by
  refine Succeeds.get.bind fun st hst => ?_
  have hframes : st.frames = [] := hst
  simp only [hframes, Eval.local?, hs.unbound n h, hf]
  exact Succeeds.pure rfl

mutual

/-- Where the domain of an expression can be told, evaluation gives a value of the domain and no fault. -/
theorem infer_sound (hs : s.Models Γ) :
    ∀ (e : Expr) (d : Domain), infer Γ e = some d → Succeeds Store.Plain (eval s e) d.Holds
  | .literal _ l, d, h => Succeeds.pure (literal_holds h)
  | .name _ n, d, h => succeeds_read hs h
  | .call _ (.name _ n) args [], d, h => by
    rw [infer] at h
    split at h
    · next f ds hunbound hf hds =>
      have hargs := inferAll_sound hs args ds hds
      rw [eval]
      refine (succeeds_read_function hs hunbound hf).bind fun v hv => hargs.bind fun vs hvs => ?_
      have hnamed : Succeeds Store.Plain (evalNamed s []) (· = []) := Succeeds.pure rfl
      refine hnamed.bind fun named hnone => (succeeds_record _).bind fun _ _ => ?_
      rw [hv, hnone]
      exact succeeds_apply _ _ h hvs
    · cases h
  | .row _ .tuple es, d, h => by
    rw [infer] at h
    split at h
    · next d' ds hds =>
      obtain ⟨hall, h⟩ := Option.ite_none_right_eq_some.1 h
      cases h
      rw [eval]
      refine (inferAll_sound hs es _ hds).bind fun vs hvs =>
        Succeeds.pure (.tuple (holds_of_forall₂ hvs fun e he => ?_))
      rcases List.mem_cons.1 he with rfl | he
      · rfl
      · simpa using List.all_eq_true.1 hall e he
    · cases h
  | .binary _ .sub a b, d, h => by
    rw [infer] at h
    split at h
    · next ha hb =>
      cases h
      rw [eval]
      refine (infer_sound hs a _ ha).bind fun v hv => (infer_sound hs b _ hb).bind fun w hw => ?_
      cases hv with
      | instant hl hg =>
        cases hw with
        | instant hl' hg' => exact Succeeds.lift rfl (since_holds (.instant hl hg) (.instant hl' hg'))
    · cases h
  | .compare _ e rest, d, h => by
    rw [infer] at h
    split at h
    · next d' he =>
      obtain ⟨hchain, h⟩ := Option.ite_none_right_eq_some.1 h
      cases h
      rw [eval]
      exact (infer_sound hs e d' he).bind fun v hv => inferChain_sound hs rest d' hchain e v hv
    · cases h
  | .member .., _, h | .subscript .., _, h | .slice .., _, h | .dict .., _, h | .comprehension .., _, h
  | .joined .., _, h | .placed .., _, h | .unary .., _, h | .logical .., _, h | .conditional .., _, h
  | .starred .., _, h | .foreign .., _, h => by cases h

theorem inferAll_sound (hs : s.Models Γ) : ∀ (es : List Expr) (ds : List Domain), inferAll Γ es = some ds →
    Succeeds Store.Plain (evalList s es) (List.Forall₂ Domain.Holds ds)
  | [], ds, h => by
    cases h
    exact Succeeds.pure .nil
  | e :: es, ds, h => by
    rw [inferAll] at h
    split at h
    · next d ds he hes =>
      cases h
      rw [evalList]
      refine (infer_sound hs e d he).bind fun v hv => (inferAll_sound hs es ds hes).bind fun vs hvs => ?_
      exact Succeeds.pure (.cons hv hvs)
    · cases h

theorem inferChain_sound (hs : s.Models Γ) :
    ∀ (rest : List (Comparison × Expr)) (d : Domain), inferChain Γ d rest = true → ∀ (left : Expr) (v : Value),
      d.Holds v → Succeeds Store.Plain (evalComparison s left v rest) Domain.bool.Holds
  | [], _, _, _, _, _ => Succeeds.pure (.bool true)
  | (c, e) :: rest, d, h, left, v, hv => by
    rw [inferChain] at h
    split at h
    · next d' he =>
      obtain ⟨hc, hrest⟩ := Bool.and_eq_true_iff.1 h
      have hlink : Succeeds Store.Plain (evalLink s left v (c, e)) fun r => d'.Holds r.2.1 := by
        rw [evalLink]
        refine (infer_sound hs e d' he).bind fun w hw => ?_
        exact (succeeds_compareValues hc hv hw _).bind fun _ _ => Succeeds.pure hw
      -- The right side of one comparison is the left side of the next.
      rw [evalComparison]
      refine hlink.bind fun ⟨e', w, holds⟩ hw => ?_
      dsimp only
      split
      · exact inferChain_sound hs rest d' hrest e' w hw
      · exact Succeeds.pure (.bool false)
    · cases h

end
end

end Conformance.Expr
