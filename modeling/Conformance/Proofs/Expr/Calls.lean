import Conformance.Proofs.Expr.Language
import Conformance.Proofs.Expr.Library

/-!
# Calls that an evaluation makes

What is admitted is checked by names, and what is called is found by the scope. The two agree but for two ways: a
target of a comprehension can have the name of a function, and the key of a function can be any value.
-/

namespace Conformance.Expr

open Conformance.Value (Arguments)

/-! ## Calls that are allowed -/

/-- Values that can be called, and those of which this cannot be told. -/
def isCallable : Value → Bool
  | .function _ | .method .. | .unbound .. | .other _ => true
  | _ => false

/-- A name calls the function of the library that has it. Otherwise a function of the library is called, or an
allowed method, or the call fails since there is nothing to call. -/
def Call.Allowed (c : Call) : Prop :=
  match c.called with
  | .function f => ∀ n, c.callee = .name n → f.name = n
  | .method _ m | .unbound _ m => m ∈ allowedMethods ∧ ∀ n, c.callee ≠ .name n
  | v => isCallable v = false ∧ ∀ n, c.callee ≠ .name n

/-- Some call by this name belongs to a comprehension that binds the name. -/
def Shadows (e : Expr) (n : String) : Prop :=
  ∃ visible owned column column' args named,
    Within e visible owned (.call column (.name column' n) args named) ∧ n ∈ owned

/-- A key that can be told from its text: a function of the library, an allowed method, or none. -/
def IsKey (owned : List String) : Expr → Prop
  | .name _ n => n ∈ Function.library.map (·.name) ∧ n ∉ owned
  | .member _ _ m => m ∈ allowedMethods
  | .literal _ l => l = .none
  | _ => False

/-- Some call that takes a key has one that cannot be told from its text. -/
def HasOpenKey (e : Expr) : Prop :=
  ∃ visible owned column column' n args named k,
    Within e visible owned (.call column (.name column' n) args named) ∧ (n ∈ keyTakers ∨ n ∈ owned) ∧
      (some "key", k) ∈ named ∧ ¬IsKey owned k

/-! ## The library -/

/-- The names of the frames are among the owned ones, and the calls that were made have a property. -/
structure Store.Sound (P : Call → Prop) (owned : List String) (st : Store) : Prop where
  names : ∀ f ∈ st.frames, ∀ e ∈ f, e.1 ∈ owned
  calls : ∀ c ∈ st.calls, P c

section
variable {P : Call → Prop} {owned : List String}

theorem Store.Sound.regenerated {st : Store} (h : st.Sound P owned) (g : Array Source) :
    Store.Sound P owned { st with generators := g } := ⟨h.names, h.calls⟩

theorem gives_record {c : Call} (h : P c) : Gives (Store.Sound P owned) (Eval.record c) fun _ => True := by
  refine Gives.modify fun st hst => ⟨hst.names, fun d hd => ?_⟩
  rcases List.mem_cons.1 hd with rfl | hd
  · exact h
  · exact hst.calls d hd

theorem Store.Sound.steadfast : Steadfast (Store.Sound P owned) fun _ => True :=
  ⟨fun _ _ => trivial, fun _ _ _ _ _ _ => trivial, fun _ g h _ => h.regenerated g⟩

theorem gives_taken (v : Value) : Gives (Store.Sound P owned) (Eval.taken v) fun _ => True :=
  (ends_taken Store.Sound.steadfast v).gives

theorem gives_sourceTaken (v : Value) : Gives (Store.Sound P owned) (Eval.sourceTaken v) fun _ => True :=
  (ends_sourceTaken Store.Sound.steadfast v).gives.any

theorem gives_newGenerator (source : Source) :
    Gives (Store.Sound P owned) (Eval.newGenerator source) fun _ => True :=
  (ends_newGenerator Store.Sound.steadfast fun _ _ => trivial).gives

theorem gives_lift {α : Type} (r : Except Fault α) : Gives (Store.Sound P owned) (Eval.lift r) fun _ => True :=
  Gives.lift fun _ _ => trivial

/-- A call adds to the log what it calls for the keys of members, and nothing else. -/
theorem Library.gives_call (s : Schema) (v : Value) {a : Arguments}
    (h : ∀ f, v = .function f → f.name ∈ keyTakers →
      ∀ k, a.named.lookup "key" = some k → k ≠ .none → P ⟨.key, k⟩) :
    Gives (Store.Sound P owned) (call s v a) fun _ => True := by
  refine (ends_call Store.Sound.steadfast s v fun f hf hkey k hk hnone => ?_).gives
  exact (gives_record (h f hf hkey k hk hnone)).ends

theorem gives_compareValues (c : Comparison) (one : Bool) (a b : Value) :
    Gives (Store.Sound P owned) (compareValues c one a b) fun _ => True :=
  (ends_compareValues Store.Sound.steadfast c one a b).gives

/-! ## Names and targets -/

variable {s : Scope}

theorem local?_eq_none {n : String} {frames : List Frame} (h : ∀ f ∈ frames, ∀ e ∈ f, e.1 ≠ n) :
    Eval.local? n frames = none := by
  induction frames with
  | nil => rfl
  | cons f fs ih =>
    have hf : f.lookup n = none := by
      rw [List.lookup_eq_none_iff]
      intro e he
      simpa using (h f List.mem_cons_self e he).symm
    rw [Eval.local?, hf, Option.none_or]
    exact ih fun g hg => h g (List.mem_cons_of_mem _ hg)

theorem gives_read (n : String) : Gives (Store.Sound P owned) (Eval.read s n) fun _ => True := by
  refine Gives.get.bind fun st _ => ?_
  dsimp only
  split
  · exact Gives.pure trivial
  · split
    · exact Gives.throw
    · exact Gives.throw
  · split
    · exact Gives.pure trivial
    · split
      · exact Gives.pure trivial
      · exact Gives.throw

/-- The name of a function gives the function, where no comprehension and no caller binds it. -/
theorem gives_read_function {n : String} (hs : s.bindings.lookup n = none) (ho : n ∉ owned) :
    Gives (Store.Sound P owned) (Eval.read s n) fun v => ∃ f, v = .function f ∧ f.name = n := by
  refine Gives.get.bind fun st hst => ?_
  have hlocal : Eval.local? n st.frames = none :=
    local?_eq_none fun f hf e he hen => ho (hen ▸ hst.names f hf e he)
  simp only [hlocal, hs]
  cases hn : Function.named? n with
  | none => exact Gives.throw
  | some f =>
    have hname : f.name = n := by simpa using List.find?_some hn
    exact Gives.pure ⟨f, rfl, hname⟩

theorem gives_write (n : String) (v : Value) :
    Gives (Store.Sound P owned) (Eval.write n v) fun _ => True := by
  refine Gives.modify fun st hst => ?_
  split
  · next f fs hframes =>
    refine ⟨fun g hg e he => ?_, hst.calls⟩
    rcases List.mem_cons.1 hg with rfl | hg
    · obtain ⟨e', he', rfl⟩ := List.mem_map.1 he
      have hold := hst.names f (by rw [hframes]; exact List.mem_cons_self) e' he'
      by_cases hn : e'.1 = n
      · rwa [if_pos hn, ← hn]
      · rwa [if_neg hn]
    · exact hst.names g (by rw [hframes]; exact List.mem_cons_of_mem _ hg) e he
  · exact hst

mutual

theorem gives_assign : ∀ (e : Expr) (v : Value), Gives (Store.Sound P owned) (assign e v) fun _ => True
  | .name _ n, v => by
    rw [assign]
    exact gives_write n v
  | .row _ _ es, v => by
    rw [assign]
    refine (gives_taken v).bind fun xs _ => ?_
    split
    · exact gives_assignAll es xs
    · exact Gives.throw
  | .literal .., _ | .member .., _ | .subscript .., _ | .slice .., _ | .call .., _ | .dict .., _
  | .comprehension .., _ | .joined .., _ | .placed .., _ | .unary .., _ | .logical .., _ | .binary .., _
  | .compare .., _ | .conditional .., _ | .starred .., _ | .foreign .., _ => by
    rw [assign] <;> first | exact Gives.throw | simp

theorem gives_assignAll : ∀ (es : List Expr) (vs : List Value),
    Gives (Store.Sound P owned) (assignAll es vs) fun _ => True
  | [], _ => Gives.pure trivial
  | _ :: _, [] => Gives.pure trivial
  | e :: es, v :: vs => by
    rw [assignAll]
    exact (gives_assign e v).bind fun _ _ => gives_assignAll es vs

end

/-! ## Comprehensions -/

section
variable {I : Store → Prop}

theorem keeps_forEach {body : Value → Steps} (h : ∀ x, Keeps I (body x) fun _ => True) (xs : List Value) :
    Keeps I (forEach body xs) fun _ => True := by
  induction xs with
  | nil => exact Keeps.pure trivial
  | cons x xs ih =>
    refine (h x).bind fun r _ => ?_
    split
    · exact ih.bind fun _ _ => Keeps.pure trivial
    · exact Keeps.pure trivial

theorem keeps_forSource {body : Value → Steps} (h : ∀ x, Keeps I (body x) fun _ => True) (source : Source) :
    Keeps I (forSource source body) fun _ => True := by
  refine (keeps_forEach h source.1).bind fun r _ => ?_
  split
  · exact Keeps.pure trivial
  · exact Keeps.pure trivial

theorem keeps_stepsAfter {α : Type} {first : Eval α} {next : α → Steps} (hfirst : Gives I first fun _ => True)
    (hnext : ∀ a, Keeps I (next a) fun _ => True) : Keeps I (stepsAfter first next) fun _ => True := by
  refine Keeps.bind hfirst fun r _ => ?_
  split
  · exact hnext _
  · exact Keeps.pure trivial

end

/-- The frame of a comprehension is gone at its end. -/
theorem gives_within {names : List String} {frame : Frame} {steps : Steps} (hframe : ∀ e ∈ frame, e.1 ∈ names)
    (h : Keeps (Store.Sound P (names ++ owned)) steps fun _ => True) :
    Gives (Store.Sound P owned) (within frame steps) fun _ => True := by
  intro st hst
  have hin : Store.Sound P (names ++ owned) { st with frames := frame :: st.frames } := by
    refine ⟨fun f hf e he => ?_, hst.calls⟩
    rcases List.mem_cons.1 hf with rfl | hf
    · exact List.mem_append_left _ (hframe e he)
    · exact List.mem_append_right _ (hst.names f hf e he)
  obtain ⟨hout, -⟩ := h _ hin
  exact ⟨⟨hst.names, hout.calls⟩, fun _ _ => trivial⟩

theorem gives_collected (kind : Collected) (source : Source) :
    Gives (Store.Sound P owned) (collected kind source) fun _ => True := by
  cases kind with
  | generator => exact gives_newGenerator source
  | list =>
    unfold collected
    dsimp only
    split
    · exact Gives.pure trivial
    · exact Gives.throw
  | set =>
    refine (gives_lift _).bind fun v _ => ?_
    split
    · exact Gives.pure trivial
    · exact Gives.throw

theorem mem_frameOf {cs : List Clause} {e : String × Option Value} (h : e ∈ frameOf cs) : e.1 ∈ boundBy cs := by
  obtain ⟨n, hn, rfl⟩ := List.mem_map.1 h
  exact List.mem_eraseDups.1 hn

end

/-! ## Attributes that can be called -/

theorem part?_eq_none {m : String} (h : m ∈ allowedMethods) (v : Value) : v.part? m = none := by
  simp only [allowedMethods, List.mem_cons, List.not_mem_nil, or_false] at h
  rcases h with rfl | rfl | rfl | rfl | rfl | rfl | rfl | rfl | rfl | rfl | rfl | rfl | rfl <;>
    cases v with
    | view ofField => cases ofField <;> rfl
    | _ => rfl

theorem isCallable_fieldValue (f : Field) (m : Message) : isCallable (Value.fieldValue f m) = false := by
  unfold Value.fieldValue
  cases f.shape with
  | singular => cases f.valueIn m <;> rfl
  | repeated => rfl
  | map key => rfl

/-- An attribute with the name of an allowed method is this method, or nothing that can be called. -/
theorem attributeOf_cases {schema : Schema} {v w : Value} {m : String} (hm : m ∈ allowedMethods)
    (h : v.attributeOf schema m = .ok w) :
    isCallable w = false ∨ (∃ r, w = .method r m) ∨ ∃ t, w = .unbound t m := by
  unfold Value.attributeOf at h
  split at h
  · unfold Value.messageAttribute at h
    dsimp only at h
    split at h
    -- A field may have the name of a method, but what it holds is data.
    · cases h
      exact .inl (isCallable_fieldValue _ _)
    · have hno : ∀ a ∈ allowedMethods, (a == "DESCRIPTOR") = false ∧ Value.messageMethods.contains a = false := by
        decide +kernel
      rw [(hno m hm).1, (hno m hm).2] at h
      simp only [Bool.false_eq_true, if_false] at h
      split at h
      · cases h
        exact .inl rfl
      · cases h
  · split at h
    · cases h
      exact .inr (.inr ⟨_, rfl⟩)
    · cases h
  · rw [part?_eq_none hm] at h
    dsimp only at h
    split at h
    · cases h
      exact .inr (.inl ⟨_, rfl⟩)
    · cases h

theorem attributeOf_allowed {schema : Schema} {v w : Value} {m : String} {callee : Callee}
    (hm : m ∈ allowedMethods) (hc : ∀ n, callee ≠ .name n) (h : v.attributeOf schema m = .ok w) :
    Call.Allowed ⟨callee, w⟩ := by
  rcases attributeOf_cases hm h with hno | ⟨r, rfl⟩ | ⟨t, rfl⟩
  · cases w <;> first | exact ⟨hno, hc⟩ | cases hno
  · exact ⟨hm, hc⟩
  · exact ⟨hm, hc⟩

/-! ## Evaluation -/

/-- What is known of a call: its callee is one of the language, and where its text does not tell what is called,
all calls of this kind have the property. -/
structure CallLawful (P : Call → Prop) (owned : List String) (f : Expr) (named : List (Option String × Expr)) :
    Prop where
  callee : IsCallee f
  shadowed : ∀ c n, f = .name c n → n ∈ owned → ∀ v, P ⟨.name n, v⟩
  key : ∀ c n, f = .name c n → n ∈ keyTakers ∨ n ∈ owned →
    ∀ k, (some "key", k) ∈ named → IsKey owned k ∨ ∀ v, P ⟨.key, v⟩

def Lawful (P : Call → Prop) (owned : List String) (e : Expr) : Prop :=
  ∀ visible inner c f args named, Within e visible inner (.call c f args named) →
    CallLawful P (inner ++ owned) f named

/-- No caller binds the name of a function, and all calls that are allowed have the property. -/
structure Allowing (P : Call → Prop) (s : Scope) : Prop where
  unbound : ∀ n ∈ Function.library.map (·.name), s.bindings.lookup n = none
  allowed : ∀ c : Call, c.Allowed → P c

section
variable {P : Call → Prop} {owned : List String} {s : Scope}

theorem Lawful.part {e x : Expr} {v o : List String} (h : Lawful P owned e) (hp : Part e v o x) :
    Lawful P (o ++ owned) x := by
  intro visible inner c f args named hw
  have hcall := h _ _ c f args named (.inside hp hw)
  rwa [List.append_assoc] at hcall

theorem Lawful.operand {e x : Expr} (h : Lawful P owned e) (hx : x ∈ e.operands) : Lawful P owned x :=
  h.part (.operand hx)

theorem Lawful.clauses {n : Nat} {kind : Collected} {e : Expr} {cs : List Clause}
    (h : Lawful P owned (.comprehension n kind e cs)) :
    (∀ c, cs.head? = some c → Lawful P owned c.iterated) ∧
      (∀ c ∈ cs.tail, Lawful P (boundBy cs ++ owned) c.iterated) ∧
        ∀ c ∈ cs, ∀ x ∈ c.conditions, Lawful P (boundBy cs ++ owned) x := by
  refine ⟨fun c hc => ?_, fun c hc => ?_, fun c hc x hx => ?_⟩
  · obtain ⟨after, rfl⟩ := List.head?_eq_some_iff.1 hc
    exact h.part .first
  · cases cs with
    | nil => cases hc
    | cons d cs =>
      obtain ⟨before, after, rfl⟩ := List.append_of_mem hc
      exact h.part .later
  · obtain ⟨before, after, rfl⟩ := List.append_of_mem hc
    exact h.part (.condition hx)

mutual

theorem gives_eval (hs : Allowing P s) (owned : List String) : ∀ e : Expr, Lawful P owned e →
    Gives (Store.Sound P owned) (eval s e) fun _ => True
  | .literal .., _ => Gives.pure trivial
  | .name _ n, _ => gives_read n
  | .member _ b n, h => by
    rw [eval]
    exact (gives_eval hs owned b (h.operand (by simp [operands]))).bind fun _ _ => gives_lift _
  | .subscript _ b i, h => by
    rw [eval]
    refine (gives_eval hs owned b (h.operand (by simp [operands]))).bind fun _ _ => ?_
    exact (gives_eval hs owned i (h.operand (by simp [operands]))).bind fun _ _ => gives_lift _
  | .slice _ a b c, h => by
    rw [eval]
    refine (gives_evalOption hs owned a fun e he => h.operand (by simp [operands, he])).bind fun _ _ => ?_
    refine (gives_evalOption hs owned b fun e he => h.operand (by simp [operands, he])).bind fun _ _ => ?_
    refine (gives_evalOption hs owned c fun e he => h.operand (by simp [operands, he])).bind fun _ _ => ?_
    exact Gives.pure trivial
  | .call c f args named, h => by
    have hcall : CallLawful P owned f named := h _ _ c f args named .whole
    rw [eval]
    have hcallee := gives_evalCallee hs owned f hcall fun x hx => h.operand (by simp [operands, hx])
    have hargs := gives_evalList hs owned args fun x hx => h.operand (by simp [operands, hx])
    have hnamed := gives_evalNamed hs owned named
      (fun a ha => h.operand (by simp [operands]; exact .inr (.inr ⟨_, ha⟩)))
      (fun (hneed : ∃ c n, f = .name c n ∧ (n ∈ keyTakers ∨ n ∈ owned)) k hk => by
        obtain ⟨c, n, hf, hn⟩ := hneed
        exact hcall.key c n hf hn k hk)
    refine hcallee.bind fun v ⟨hv, hfunction⟩ => hargs.bind fun positional _ => hnamed.bind fun vs hvs => ?_
    refine (gives_record hv).bind fun _ _ => Library.gives_call s.schema v fun g hg hkey k hk hnone => ?_
    -- Only a name gives a function, and then it is its own name or one that a comprehension binds.
    obtain ⟨c, n, hf, hn⟩ := hfunction g hg
    have hn : n ∈ keyTakers ∨ n ∈ owned := hn.imp_left fun h => by rwa [← h]
    refine hvs ⟨c, n, hf, hn⟩ k ?_ hnone
    obtain ⟨before, after, rfl, -⟩ := List.lookup_eq_some_iff.1 hk
    exact List.mem_append_right _ List.mem_cons_self
  | .row _ kind es, h => by
    rw [eval]
    refine (gives_evalList hs owned es fun x hx => h.operand hx).bind fun xs _ => ?_
    cases kind with
    | list => exact Gives.pure trivial
    | tuple => exact Gives.pure trivial
    | set => exact gives_lift _
  | .dict _ es, h => by
    rw [eval]
    have hkeys : ∀ x ∈ es.filterMap (·.1), Lawful P owned x := fun x hx => h.operand (List.mem_append_left _ hx)
    have hvalues : ∀ x ∈ es.map (·.2), Lawful P owned x := fun x hx => h.operand (List.mem_append_right _ hx)
    exact (gives_evalEntries hs owned es hkeys hvalues [] []).bind fun _ _ => Gives.pure trivial
  | .comprehension _ kind e cs, h => by
    rw [eval]
    -- The iterable of the first clause is evaluated before there is a frame, all else with the targets owned.
    obtain ⟨hfirst, hlater, hconditions⟩ := h.clauses
    have helement := gives_eval hs (boundBy cs ++ owned) e (h.part .element)
    refine (gives_evalFirst hs owned (fun _ => mem_frameOf) helement cs hfirst hlater hconditions).bind fun _ _ => ?_
    exact gives_collected _ _
  | .joined _ es, h => by
    rw [eval]
    refine (gives_evalList hs owned es fun x hx => h.operand hx).bind fun xs _ => ?_
    exact (gives_lift _).bind fun _ _ => Gives.pure trivial
  | .placed _ e conversion spec, h => by
    rw [eval]
    refine (gives_eval hs owned e (h.operand (by simp [operands]))).bind fun v _ => ?_
    refine (gives_evalOption hs owned spec fun x hx => h.operand (by simp [operands, hx])).bind fun w _ => ?_
    split
    · exact (gives_lift _).bind fun _ _ => Gives.pure trivial
    · exact (gives_lift _).bind fun _ _ => Gives.pure trivial
  | .unary _ op e, h => by
    rw [eval]
    exact (gives_eval hs owned e (h.operand (by simp [operands]))).bind fun _ _ => gives_lift _
  | .logical _ isAnd es, h => by
    rw [eval]
    exact gives_evalLogical hs owned isAnd es fun x hx => h.operand hx
  | .binary _ op a b, h => by
    rw [eval]
    refine (gives_eval hs owned a (h.operand (by simp [operands]))).bind fun _ _ => ?_
    exact (gives_eval hs owned b (h.operand (by simp [operands]))).bind fun _ _ => gives_lift _
  | .compare _ e rest, h => by
    rw [eval]
    refine (gives_eval hs owned e (h.operand (by simp [operands]))).bind fun v _ => ?_
    exact gives_evalComparison hs owned rest (fun x hx => h.operand (List.mem_cons_of_mem _ hx)) e v
  | .conditional _ c a b, h => by
    rw [eval]
    refine (gives_eval hs owned c (h.operand (by simp [operands]))).bind fun v _ => ?_
    split
    · exact gives_eval hs owned a (h.operand (by simp [operands]))
    · exact gives_eval hs owned b (h.operand (by simp [operands]))
  | .starred .., _ => by
    rw [eval]
    exact Gives.throw
  | .foreign .., _ => by
    rw [eval]
    exact Gives.throw

/-- A callee gives a value whose call has the property, and a function only for a name. -/
theorem gives_evalCallee (hs : Allowing P s) (owned : List String) {named : List (Option String × Expr)} : ∀ f : Expr,
    CallLawful P owned f named → (∀ x ∈ receiver f, Lawful P owned x) →
      Gives (Store.Sound P owned) (eval s f) fun v =>
        P ⟨f.callee, v⟩ ∧ ∀ g, v = .function g → ∃ c n, f = .name c n ∧ (g.name = n ∨ n ∈ owned)
  | .name c n, hcall, _ => by
    rw [eval]
    by_cases ho : n ∈ owned
    -- A target can be bound to anything.
    · exact (gives_read n).weaken fun v _ => ⟨hcall.shadowed c n rfl ho v, fun g _ => ⟨c, n, rfl, .inr ho⟩⟩
    · refine (gives_read_function (hs.unbound n hcall.callee) ho).weaken ?_
      rintro v ⟨f, rfl, rfl⟩
      refine ⟨hs.allowed _ fun n hn => by cases hn; rfl, fun g hg => ?_⟩
      cases hg
      exact ⟨c, _, rfl, .inl rfl⟩
  | .member c b m, hcall, h => by
    rw [eval]
    refine (gives_eval hs owned b (h b (by simp [receiver]))).bind fun v _ => Gives.lift fun w hw => ?_
    refine ⟨hs.allowed _ (attributeOf_allowed hcall.callee (fun n hn => by cases hn) hw), fun g hg => ?_⟩
    subst hg
    rcases attributeOf_cases hcall.callee hw with hno | ⟨r, hr⟩ | ⟨t, ht⟩
    · cases hno
    · cases hr
    · cases ht
  | .literal .., hcall, _ | .subscript .., hcall, _ | .slice .., hcall, _ | .call .., hcall, _
  | .row .., hcall, _ | .dict .., hcall, _ | .comprehension .., hcall, _ | .joined .., hcall, _
  | .placed .., hcall, _ | .unary .., hcall, _ | .logical .., hcall, _ | .binary .., hcall, _
  | .compare .., hcall, _ | .conditional .., hcall, _ | .starred .., hcall, _ | .foreign .., hcall, _ =>
    hcall.callee.elim

/-- A key that can be told from its text gives a value that may be called for keys. -/
theorem gives_evalKey (hs : Allowing P s) (owned : List String) : ∀ k : Expr, Lawful P owned k → IsKey owned k →
    Gives (Store.Sound P owned) (eval s k) fun v => v ≠ .none → P ⟨.key, v⟩
  | .name c n, _, hk => by
    rw [eval]
    refine (gives_read_function (hs.unbound n hk.1) hk.2).weaken ?_
    rintro v ⟨f, rfl, rfl⟩ _
    exact hs.allowed _ fun n hn => by cases hn
  | .member c b m, h, hk => by
    rw [eval]
    refine (gives_eval hs owned b (h.operand (by simp [operands]))).bind fun v _ => Gives.lift fun w hw _ => ?_
    exact hs.allowed _ (attributeOf_allowed hk (fun n hn => by cases hn) hw)
  | .literal c l, _, hk => by
    cases hk
    exact Gives.pure fun hne => absurd rfl hne
  | .subscript .., _, hk | .slice .., _, hk | .call .., _, hk | .row .., _, hk | .dict .., _, hk
  | .comprehension .., _, hk | .joined .., _, hk | .placed .., _, hk | .unary .., _, hk | .logical .., _, hk
  | .binary .., _, hk | .compare .., _, hk | .conditional .., _, hk | .starred .., _, hk
  | .foreign .., _, hk => hk.elim

theorem gives_evalOption (hs : Allowing P s) (owned : List String) :
    ∀ o : Option Expr, (∀ e, o = some e → Lawful P owned e) →
      Gives (Store.Sound P owned) (evalOption s o) fun _ => True
  | none, _ => Gives.pure trivial
  | some e, h => by
    rw [evalOption]
    exact (gives_eval hs owned e (h e rfl)).bind fun _ _ => Gives.pure trivial

theorem gives_evalList (hs : Allowing P s) (owned : List String) : ∀ es : List Expr, (∀ e ∈ es, Lawful P owned e) →
    Gives (Store.Sound P owned) (evalList s es) fun _ => True
  | [], _ => Gives.pure trivial
  | e :: es, h => by
    rw [evalList]
    refine (gives_eval hs owned e (h e List.mem_cons_self)).bind fun v _ => ?_
    refine (gives_evalList hs owned es fun x hx => h x (List.mem_cons_of_mem _ hx)).bind fun vs _ => ?_
    exact Gives.pure trivial

theorem gives_evalArgument (hs : Allowing P s) (owned : List String) {need : Prop} : ∀ a : Option String × Expr,
    Lawful P owned a.2 → (need → a.1 = some "key" → IsKey owned a.2 ∨ ∀ v, P ⟨.key, v⟩) →
      Gives (Store.Sound P owned) (evalArgument s a) fun r => need → r.1 = "key" → r.2 ≠ .none → P ⟨.key, r.2⟩
  | (n, e), h, hkey => by
    rw [evalArgument]
    have he : Gives (Store.Sound P owned) (eval s e) fun v =>
        need → n = some "key" → v ≠ .none → P ⟨.key, v⟩ := by
      by_cases hneed : need ∧ n = some "key"
      · rcases hkey hneed.1 hneed.2 with hk | hall
        · exact (gives_evalKey hs owned e h hk).weaken fun v hv _ _ => hv
        · exact (gives_eval hs owned e h).weaken fun v _ _ _ _ => hall v
      · exact (gives_eval hs owned e h).weaken fun v _ h1 h2 => absurd ⟨h1, h2⟩ hneed
    refine he.bind fun v hv => ?_
    cases n with
    | none => exact Gives.throw
    | some n => exact Gives.pure fun hneed hn => hv hneed (congrArg some hn)

/-- Where keys are called, the argument with the name `key` can be called by what is known of its text. -/
theorem gives_evalNamed (hs : Allowing P s) (owned : List String) {need : Prop} : ∀ es : List (Option String × Expr),
    (∀ a ∈ es, Lawful P owned a.2) → (need → ∀ k, (some "key", k) ∈ es → IsKey owned k ∨ ∀ v, P ⟨.key, v⟩) →
      Gives (Store.Sound P owned) (evalNamed s es) fun vs =>
        need → ∀ k, ("key", k) ∈ vs → k ≠ .none → P ⟨.key, k⟩
  | [], _, _ => Gives.pure fun _ k hk => absurd hk List.not_mem_nil
  | a :: es, h, hkey => by
    rw [evalNamed]
    have ha := gives_evalArgument hs owned a (h a List.mem_cons_self) fun (hneed : need) hn =>
      hkey hneed a.2 (by rw [← hn]; exact List.mem_cons_self)
    have hes := gives_evalNamed hs owned es (fun x hx => h x (List.mem_cons_of_mem _ hx)) fun (hneed : need) k hk =>
      hkey hneed k (List.mem_cons_of_mem _ hk)
    refine ha.bind fun r hr => hes.bind fun rs hrs => Gives.pure fun hneed k hk => ?_
    rcases List.mem_cons.1 hk with rfl | hk
    · exact hr hneed rfl
    · exact hrs hneed k hk

theorem gives_evalEntry (hs : Allowing P s) (owned : List String) : ∀ a : Option Expr × Expr,
    (∀ x, a.1 = some x → Lawful P owned x) → Lawful P owned a.2 →
      Gives (Store.Sound P owned) (evalEntry s a) fun _ => True
  | (k, e), hk, he => by
    rw [evalEntry]
    refine (gives_evalOption hs owned k hk).bind fun key _ => ?_
    have he := gives_eval hs owned e he
    split
    · exact he.bind fun v _ => Gives.pure trivial
    · refine he.bind fun v _ => ?_
      split
      · exact Gives.pure trivial
      · exact Gives.pure trivial
      · exact Gives.throw

theorem gives_evalEntries (hs : Allowing P s) (owned : List String) : ∀ es : List (Option Expr × Expr),
    (∀ x ∈ es.filterMap (·.1), Lawful P owned x) → (∀ x ∈ es.map (·.2), Lawful P owned x) →
      ∀ done waiting, Gives (Store.Sound P owned) (evalEntries s done waiting es) fun _ => True
  | [], _, _, _, _ => gives_lift _
  | a :: es, hkeys, hvalues, done, waiting => by
    rw [evalEntries]
    have ha := gives_evalEntry hs owned a (fun x hx => hkeys x (List.mem_filterMap.2 ⟨a, List.mem_cons_self, hx⟩))
      (hvalues _ (List.mem_map_of_mem List.mem_cons_self))
    have hes := gives_evalEntries hs owned es
      (fun x hx => by
        obtain ⟨b, hb, hbx⟩ := List.mem_filterMap.1 hx
        exact hkeys x (List.mem_filterMap.2 ⟨b, List.mem_cons_of_mem _ hb, hbx⟩))
      fun x hx => hvalues x (List.mem_cons_of_mem _ hx)
    refine ha.bind fun r _ => ?_
    split
    · exact hes _ _
    · exact (gives_lift _).bind fun _ _ => (gives_lift _).bind fun _ _ => hes _ _

theorem gives_evalLogical (hs : Allowing P s) (owned : List String) (isAnd : Bool) : ∀ es : List Expr,
    (∀ e ∈ es, Lawful P owned e) → Gives (Store.Sound P owned) (evalLogical s isAnd es) fun _ => True
  | [], _ => Gives.pure trivial
  | e :: es, h => by
    rw [evalLogical]
    refine (gives_eval hs owned e (h e List.mem_cons_self)).bind fun v _ => ?_
    split
    · exact Gives.pure trivial
    · exact gives_evalLogical hs owned isAnd es fun x hx => h x (List.mem_cons_of_mem _ hx)

theorem gives_evalComparison (hs : Allowing P s) (owned : List String) : ∀ rest : List (Comparison × Expr),
    (∀ x ∈ rest.map (·.2), Lawful P owned x) →
      ∀ left v, Gives (Store.Sound P owned) (evalComparison s left v rest) fun _ => True
  | [], _, _, _ => Gives.pure trivial
  | (c, e) :: rest, h, left, v => by
    rw [evalComparison, evalLink]
    have he := gives_eval hs owned e (h e List.mem_cons_self)
    have hlink : Gives (Store.Sound P owned)
        (do let w ← eval s e; return (e, w, ← compareValues c (nameOne v left e) v w) : Eval (Expr × Value × Bool))
        fun _ => True :=
      he.bind fun w _ => (gives_compareValues _ _ _ _).bind fun _ _ => Gives.pure trivial
    refine hlink.bind fun ⟨e, w, holds⟩ _ => ?_
    dsimp only
    split
    · exact gives_evalComparison hs owned rest (fun x hx => h x (List.mem_cons_of_mem _ hx)) _ _
    · exact Gives.pure trivial

theorem gives_evalConditions (hs : Allowing P s) (owned : List String) :
    ∀ es : List Expr, (∀ e ∈ es, Lawful P owned e) → Gives (Store.Sound P owned) (evalConditions s es) fun _ => True
  | [], _ => Gives.pure trivial
  | e :: es, h => by
    rw [evalConditions]
    refine (gives_eval hs owned e (h e List.mem_cons_self)).bind fun v _ => ?_
    split
    · exact gives_evalConditions hs owned es fun x hx => h x (List.mem_cons_of_mem _ hx)
    · exact Gives.pure trivial

theorem gives_evalFirst (hs : Allowing P s) (owned : List String) {names : List String} {frame : Frame}
    {element : Eval Value} (hframe : ∀ e ∈ frame, e.1 ∈ names)
    (helement : Gives (Store.Sound P (names ++ owned)) element fun _ => True) : ∀ cs : List Clause,
    (∀ c, cs.head? = some c → Lawful P owned c.iterated) →
      (∀ c ∈ cs.tail, Lawful P (names ++ owned) c.iterated) →
        (∀ c ∈ cs, ∀ x ∈ c.conditions, Lawful P (names ++ owned) x) →
          Gives (Store.Sound P owned) (evalFirst s frame element cs) fun _ => True
  | [], _, _, _ => Gives.pure trivial
  | .mk target iterated conditions isAsync :: cs, hfirst, hlater, hc => by
    rw [evalFirst]
    have hiterated := gives_eval hs owned iterated (hfirst _ rfl)
    have hconditions := gives_evalConditions hs (names ++ owned) conditions (hc _ List.mem_cons_self)
    have hrest := keeps_evalClauses hs (names ++ owned) helement cs hlater fun c h => hc c (List.mem_cons_of_mem _ h)
    refine hiterated.bind fun v _ => (gives_sourceTaken v).bind fun source _ => gives_within hframe ?_
    refine keeps_forSource (fun x => ?_) source
    refine keeps_stepsAfter ((gives_assign target x).bind fun _ _ => hconditions) fun holds => ?_
    split
    · exact hrest
    · exact Keeps.pure trivial

theorem keeps_evalClauses (hs : Allowing P s) (owned : List String) {element : Eval Value}
    (helement : Gives (Store.Sound P owned) element fun _ => True) : ∀ cs : List Clause,
    (∀ c ∈ cs, Lawful P owned c.iterated) → (∀ c ∈ cs, ∀ x ∈ c.conditions, Lawful P owned x) →
      Keeps (Store.Sound P owned) (evalClauses s element cs) fun _ => True
  | [], _, _ => keeps_stepsAfter helement fun _ => Keeps.pure trivial
  | .mk target iterated conditions isAsync :: cs, hi, hc => by
    rw [evalClauses]
    have hiterated := gives_eval hs owned iterated (hi _ List.mem_cons_self)
    have hconditions := gives_evalConditions hs owned conditions (hc _ List.mem_cons_self)
    have hrest := keeps_evalClauses hs owned helement cs (fun c h => hi c (List.mem_cons_of_mem _ h))
      fun c h => hc c (List.mem_cons_of_mem _ h)
    refine keeps_stepsAfter (hiterated.bind fun v _ => gives_sourceTaken v) fun source => ?_
    refine keeps_forSource (fun x => ?_) source
    refine keeps_stepsAfter ((gives_assign target x).bind fun _ _ => hconditions) fun holds => ?_
    split
    · exact hrest
    · exact Keeps.pure trivial

end

end

end Conformance.Expr

namespace Conformance.Program

open Conformance.Expr

/-- A call that is not allowed calls a target of a comprehension by the name of a function, or is made for a key
that can be any value. -/
theorem calls_allowed {key : ProgramKey} {p : Program} (h : compile key = .ok p)
    (hv : ∀ n ∈ Function.library.map (·.name), n ∉ key.variables) (s : Schema) (bindings : List (String × Value)) :
    ∀ c ∈ p.calls s bindings,
      c.Allowed ∨ (∃ n, c.callee = .name n ∧ Shadows p.tree n) ∨ (c.callee = .key ∧ HasOpenKey p.tree) := by
  obtain ⟨hvars, hin⟩ := inLanguage_of_compile h
  have hs : Allowing (fun c => c.Allowed ∨ (∃ n, c.callee = .name n ∧ Shadows p.tree n) ∨
      (c.callee = .key ∧ HasOpenKey p.tree)) (p.scope s bindings) := by
    refine ⟨fun n hn => ?_, fun c hc => .inl hc⟩
    rw [List.lookup_eq_none_iff]
    rintro ⟨m, v⟩ hmv
    obtain ⟨m', hm', heq⟩ := List.mem_filterMap.1 hmv
    obtain ⟨w, -, hw⟩ := Option.map_eq_some_iff.1 heq
    cases hw
    have hne : n ≠ m := fun heq => hv n hn (hvars ▸ heq ▸ hm')
    simpa using hne
  have hlawful : Lawful (fun c => c.Allowed ∨ (∃ n, c.callee = .name n ∧ Shadows p.tree n) ∨
      (c.callee = .key ∧ HasOpenKey p.tree)) [] p.tree := by
    intro visible inner column f args named hw
    rw [List.append_nil]
    obtain ⟨hcallee, -, -⟩ := hin _ _ _ hw
    refine ⟨hcallee, fun c n hf hn v => ?_, fun c n hf hn k hk => ?_⟩
    · subst hf
      exact .inr (.inl ⟨n, rfl, visible, inner, column, c, args, named, hw, hn⟩)
    · subst hf
      by_cases hkey : IsKey inner k
      · exact .inl hkey
      · exact .inr fun v => .inr (.inr ⟨rfl, visible, inner, column, c, n, args, named, k, hw, hn, hk, hkey⟩)
  intro c hc
  unfold calls at hc
  split at hc
  · have hrun := gives_eval hs [] p.tree hlawful {} ⟨fun f hf => absurd hf List.not_mem_nil, fun c hc =>
      absurd hc List.not_mem_nil⟩
    exact hrun.1.calls c hc
  · cases hc

theorem calls_allowed_of_size :
    ∃ p, compile ⟨"max(['b', 'ab'], key=size) == this.strip()", ["this", "rule", "now"]⟩ = .ok p ∧
      ∀ c ∈ p.calls ⟨[], []⟩ [("this", .text "ab "), ("rule", .none), ("now", .instant ⟨0⟩)],
        c.Allowed ∨ (∃ n, c.callee = .name n ∧ Shadows p.tree n) ∨ (c.callee = .key ∧ HasOpenKey p.tree) := by
  have hok : (compile ⟨"max(['b', 'ab'], key=size) == this.strip()", ["this", "rule", "now"]⟩).toOption.isSome := by
    decide +kernel
  cases hp : compile ⟨"max(['b', 'ab'], key=size) == this.strip()", ["this", "rule", "now"]⟩ with
  | error u => simp [hp, Except.toOption] at hok
  | ok p => exact ⟨p, rfl, calls_allowed hp (by decide) _ _⟩

def isMethodNamed (m : String) : Value → Bool
  | .method _ n => n == m
  | _ => false

def isFunction (f : Function) : Value → Bool
  | .function g => g == f
  | _ => false

theorem not_allowed_of_method {c : Call} {m : String} (h : isMethodNamed m c.called = true)
    (hm : m ∉ allowedMethods) : ¬c.Allowed := by
  obtain ⟨callee, called⟩ := c
  cases called with
  | method v n =>
    obtain rfl := beq_iff_eq.1 h
    intro hallowed
    exact hm hallowed.1
  | _ => cases h

theorem not_allowed_of_function {c : Call} {f : Function} {n : String} (h : isFunction f c.called = true)
    (hc : c.callee = .name n) (hn : f.name ≠ n) : ¬c.Allowed := by
  obtain ⟨callee, called⟩ := c
  cases called with
  | function g =>
    obtain rfl := beq_iff_eq.1 h
    intro hallowed
    exact hn (hallowed n hc)
  | _ => cases h

/-- A list has no allowed method `index`, but it can be the key of a maximum; and the name of a function can be a
target, which then is called by it. -/
theorem calls_allowed_of_targets_and_keys :
    let names := ["this", "rule", "now"]
    let bindings : List (String × Value) := [("this", .int 1), ("rule", .int 1), ("now", .instant ⟨0⟩)]
    (∃ p, compile ⟨"max(['b', 'a'], key=['b', 'a'].index) == 'a'", names⟩ = .ok p ∧
      ∃ c ∈ p.calls ⟨[], []⟩ bindings, c.callee = .key ∧ ¬c.Allowed) ∧
    ∃ p, compile ⟨"[size('ab') for size in [str]] == ['ab']", names⟩ = .ok p ∧
      ∃ c ∈ p.calls ⟨[], []⟩ bindings, c.callee = .name "size" ∧ ¬c.Allowed := by
  intro names bindings
  have hfound (source : String) (test : Call → Bool)
      (h : ((compile ⟨source, names⟩).toOption.any fun p => (p.calls ⟨[], []⟩ bindings).any test) = true) :
      ∃ p, compile ⟨source, names⟩ = .ok p ∧ ∃ c ∈ p.calls ⟨[], []⟩ bindings, test c = true := by
    cases hp : compile ⟨source, names⟩ with
    | error u => simp [hp, Except.toOption] at h
    | ok p =>
      rw [hp] at h
      exact ⟨p, rfl, List.any_eq_true.1 h⟩
  constructor
  · obtain ⟨p, hp, c, hc, htest⟩ := hfound "max(['b', 'a'], key=['b', 'a'].index) == 'a'"
      (fun c => c.callee == .key && isMethodNamed "index" c.called) (by decide +kernel)
    obtain ⟨hcallee, hcalled⟩ := Bool.and_eq_true_iff.1 htest
    exact ⟨p, hp, c, hc, beq_iff_eq.1 hcallee, not_allowed_of_method hcalled (by decide)⟩
  · obtain ⟨p, hp, c, hc, htest⟩ := hfound "[size('ab') for size in [str]] == ['ab']"
      (fun c => c.callee == .name "size" && isFunction .str c.called) (by decide +kernel)
    obtain ⟨hcallee, hcalled⟩ := Bool.and_eq_true_iff.1 htest
    have hname := beq_iff_eq.1 hcallee
    exact ⟨p, hp, c, hc, hname, not_allowed_of_function hcalled hname (by decide)⟩

end Conformance.Program
