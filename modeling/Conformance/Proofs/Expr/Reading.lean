import Conformance.Proofs.Expr.Frames

/-!
# What an evaluation reads

Two evaluations of one expression do the same where each name that it reads gives the same in both. A fault of a name
comes of a name that gives nothing, and the check leaves only one way to that: a name can be read in a comprehension
before it is a target that is visible.
-/

namespace Conformance.Expr

namespace Views

variable {w : Views} {fs : List Frame} {v o : List String}

/-! ## Comprehensions -/

section
variable {α : Type} {I : Store → Prop} {E : Fault → Store → Prop} {R : Source → Store → Prop}

theorem matches_stepsAfter {first first' : Eval α} {next next' : α → Steps} {Q : α → Store → Prop}
    (hfirst : Alike I E first first' Q) (hnext : ∀ a, Matches (Q a) (next a) (next' a) R)
    (hfault : ∀ f st, E f st → R ([], some f) st) : Matches I (stepsAfter first next) (stepsAfter first' next') R := by
  refine Matches.bind hfirst fun r => ?_
  cases r with
  | ok a => exact (hnext a).strengthen fun st hst => hst.1 a rfl
  | error f => exact Matches.pure fun st hst => hfault f st (hst.2 f rfl)

end

/-- What the steps of a comprehension lead to: a source that ends in a tolerated fault, if it does, and the frame is
still there. -/
def Stepped (w : Views) (fs : List Frame) (v o : List String) (source : Source) (st : Store) : Prop :=
  source.EndsIn w.Tolerates ∧ w.Iterating fs v o st

theorem endsIn_none (xs : List Value) : Source.EndsIn w.Tolerates (xs, none) := by
  intro f hf
  cases hf

theorem endsIn_some {xs : List Value} {f : Fault} (h : w.Tolerates f) : Source.EndsIn w.Tolerates (xs, some f) := by
  intro g hg
  cases hg
  exact h

theorem matches_forEach {body body' : Value → Steps}
    (h : ∀ x, Matches (w.Iterating fs v o) (body x) (body' x) (w.Stepped fs v o)) (xs : List Value) :
    Matches (w.Iterating fs v o) (forEach body xs) (forEach body' xs) (w.Stepped fs v o) := by
  induction xs with
  | nil => exact Matches.pure fun st hst => ⟨endsIn_none _, hst⟩
  | cons x xs ih =>
    refine Matches.bind (h x) fun r => ?_
    obtain ⟨ys, fault⟩ := r
    cases fault with
    | some f => exact Matches.pure fun st hst => hst
    | none =>
      refine Matches.bind (ih.strengthen fun st hst => hst.2) fun r => ?_
      exact Matches.pure fun st hst => ⟨hst.1.members, hst.2⟩

theorem matches_forSource {body body' : Value → Steps} {source : Source} (hs : source.EndsIn w.Tolerates)
    (h : ∀ x, Matches (w.Iterating fs v o) (body x) (body' x) (w.Stepped fs v o)) :
    Matches (w.Iterating fs v o) (forSource source body) (forSource source body') (w.Stepped fs v o) := by
  refine Matches.bind (matches_forEach h source.1) fun r => ?_
  obtain ⟨ys, fault⟩ := r
  cases fault with
  | some f => exact Matches.pure fun st hst => hst
  | none => exact Matches.pure fun st hst => ⟨hs.members, hst.2⟩

/-- For one member: its target is assigned, and the steps after it start with the names of this target. -/
theorem matches_iteration {target : Expr} {conditions conditions' : Eval Bool} {next next' : Steps}
    (ht : ∀ n ∈ targetIds target, n ∈ o)
    (hc : w.Agree (w.Iterating fs (v ++ targetIds target) o) conditions conditions')
    (hnext : Matches (w.Iterating fs (v ++ targetIds target) o) next next' (w.Stepped fs (v ++ targetIds target) o))
    (x : Value) :
    Matches (w.Iterating fs v o)
      (stepsAfter (do assign target x; conditions) fun holds => if holds then next else return ([], none))
      (stepsAfter (do assign target x; conditions') fun holds => if holds then next' else return ([], none))
      (w.Stepped fs v o) := by
  -- After the steps the target keeps its value, but before the next member only the earlier names are sure to have one.
  have hmono : ∀ {st}, w.Iterating fs (v ++ targetIds target) o st → w.Iterating fs v o st :=
    fun hst => hst.mono fun n hn => List.mem_append_left _ hn
  have hfirst := (alike_assign w fs o target v x ht).bind fun _ => hc.weaken (fun f st hf => ⟨hf.1, hmono hf.2⟩)
    fun _ _ hst => hst
  refine matches_stepsAfter hfirst (fun holds => ?_) fun f st hf => ⟨endsIn_some hf.1, hf.2⟩
  cases holds with
  | true => exact hnext.weaken fun source st hst => ⟨hst.1, hmono hst.2⟩
  | false => exact Matches.pure fun st hst => ⟨endsIn_none _, hmono hst⟩

/-- The frame of a comprehension is gone at its end. -/
theorem alike_within {frame : Frame} {steps steps' : Steps} (hframe : frame.Binds v o)
    (h : Matches (w.Iterating fs v o) steps steps' (w.Stepped fs v o)) :
    Alike (w.On fs) (fun f st => w.Tolerates f ∧ w.On fs st) (within frame steps) (within frame steps')
      fun source st => source.EndsIn w.Tolerates ∧ w.On fs st := by
  intro st hst
  have hin : w.Iterating fs v o { st with frames := frame :: st.frames } :=
    ⟨frame, hframe, by rw [hst.frames], hst.sources⟩
  obtain ⟨hsame, hends, f, -, hon⟩ := h _ hin
  have hrun : ∀ steps : Steps, (within frame steps).run.run st =
      (.ok (steps.run { st with frames := frame :: st.frames }).1,
        { (steps.run { st with frames := frame :: st.frames }).2 with frames := st.frames }) := fun _ => rfl
  rw [hrun, hrun, ← hsame]
  refine ⟨rfl, fun source hsource => ?_, fun f hf => ?_⟩
  · cases hsource
    exact ⟨hends, hst.frames, hon.sources⟩
  · cases hf

theorem agree_collected (kind : Collected) {source : Source} (hs : source.EndsIn w.Tolerates) :
    w.Agree (w.On fs) (collected kind source) (collected kind source) := by
  obtain ⟨xs, fault⟩ := source
  cases kind with
  | generator => exact agree_of_ends (ends_newGenerator On.steadfast hs)
  | list =>
    cases fault with
    | none => exact agree_pure _
    | some f => exact agree_throw (hs f rfl)
  | set =>
    refine (agree_of_ends (On.steadfast.lift (nameless_makeSet xs))).bind fun v => ?_
    cases fault with
    | none => exact agree_pure v
    | some f => exact agree_throw (hs f rfl)

theorem boundBy_snoc (before : List Clause) (c : Clause) :
    boundBy (before ++ [c]) = boundBy before ++ targetIds c.target := by
  rw [boundBy, List.flatMap_append, List.flatMap_cons, List.flatMap_nil, List.append_nil]
  rfl

/-! ## Evaluation -/

theorem ends_record (c : Call) : Ends (w.On fs) w.Tolerates (Eval.record c) fun _ => True :=
  Ends.modify fun _ hst => ⟨hst.frames, hst.sources⟩

theorem agree_lift {α : Type} {r : Except Fault α} (h : Nameless r) :
    w.Agree (w.On fs) (Eval.lift r) (Eval.lift r) := agree_of_ends (On.steadfast.lift h)

mutual

theorem agree_eval (w : Views) (fs : List Frame) : ∀ e : Expr, w.Fits fs e →
    w.Agree (w.On fs) (eval w.one e) (eval w.other e)
  | .literal _ l, _ => by
    rw [eval, eval]
    exact agree_pure l.value
  | .name _ n, h => by
    rw [eval, eval]
    exact agree_read (h.reads n .name)
  | .member _ b n, h => by
    rw [eval, eval, ← w.schema]
    exact (agree_eval w fs b (h.operand (by simp [operands]))).bind fun v => agree_lift (by simp)
  | .subscript _ b i, h => by
    rw [eval, eval]
    refine (agree_eval w fs b (h.operand (by simp [operands]))).bind fun v => ?_
    exact (agree_eval w fs i (h.operand (by simp [operands]))).bind fun i => agree_lift (by simp)
  | .slice _ a b c, h => by
    rw [eval, eval]
    refine (agree_evalOption w fs a fun e he => h.operand (by simp [operands, he])).bind fun a => ?_
    refine (agree_evalOption w fs b fun e he => h.operand (by simp [operands, he])).bind fun b => ?_
    exact (agree_evalOption w fs c fun e he => h.operand (by simp [operands, he])).bind fun c => agree_pure _
  | .call c f args named, h => by
    rw [eval, eval, ← w.schema]
    have hargs := agree_evalList w fs args fun x hx => h.operand (by simp [operands, hx])
    have hnamed := agree_evalNamed w fs named fun a ha => h.operand (by simp [operands]; exact .inr (.inr ⟨_, ha⟩))
    refine (agree_eval w fs f h.callee).bind fun v => hargs.bind fun positional => hnamed.bind fun named => ?_
    refine (agree_of_ends (ends_record _)).bind fun _ => ?_
    exact agree_of_ends (Library.ends_call On.steadfast w.one.schema v fun _ _ _ k _ _ => ends_record _)
  | .row _ kind es, h => by
    rw [eval, eval]
    refine (agree_evalList w fs es fun x hx => h.operand hx).bind fun xs => ?_
    cases kind with
    | list => exact agree_pure _
    | tuple => exact agree_pure _
    | set => exact agree_lift (by simp)
  | .dict _ es, h => by
    rw [eval, eval]
    have hkeys : ∀ x ∈ es.filterMap (·.1), w.Fits fs x := fun x hx => h.operand (List.mem_append_left _ hx)
    have hvalues : ∀ x ∈ es.map (·.2), w.Fits fs x := fun x hx => h.operand (List.mem_append_right _ hx)
    exact (agree_evalEntries w fs es hkeys hvalues [] []).bind fun _ => agree_pure _
  | .comprehension m kind e cs, h => by
    rw [eval, eval]
    have helement : w.Agree (w.Iterating fs (boundBy cs) (boundBy cs)) (eval w.one e) (eval w.other e) :=
      agree_iterating fun f hf => agree_eval w (f :: fs) e (h.inner .element hf)
    refine Alike.bind (agree_evalFirst w fs cs h helement) fun source st hst => ?_
    exact agree_collected kind hst.1 st hst.2
  | .joined _ es, h => by
    rw [eval, eval]
    refine (agree_evalList w fs es fun x hx => h.operand hx).bind fun xs => ?_
    exact (agree_lift (nameless_mapM (by simp) xs)).bind fun _ => agree_pure _
  | .placed _ e conversion spec, h => by
    rw [eval, eval]
    refine (agree_eval w fs e (h.operand (by simp [operands]))).bind fun v => ?_
    refine (agree_evalOption w fs spec fun x hx => h.operand (by simp [operands, hx])).bind fun spec => ?_
    split
    · exact (agree_lift (by simp)).bind fun _ => agree_pure _
    · exact (agree_lift (by simp)).bind fun _ => agree_pure _
  | .unary _ op e, h => by
    rw [eval, eval]
    exact (agree_eval w fs e (h.operand (by simp [operands]))).bind fun v => agree_lift (by simp)
  | .logical _ isAnd es, h => by
    rw [eval, eval]
    exact agree_evalLogical w fs isAnd es fun x hx => h.operand hx
  | .binary _ op a b, h => by
    rw [eval, eval]
    refine (agree_eval w fs a (h.operand (by simp [operands]))).bind fun a => ?_
    exact (agree_eval w fs b (h.operand (by simp [operands]))).bind fun b => agree_lift (by simp)
  | .compare _ e rest, h => by
    rw [eval, eval]
    refine (agree_eval w fs e (h.operand (by simp [operands]))).bind fun v => ?_
    exact agree_evalComparison w fs rest (fun x hx => h.operand (List.mem_cons_of_mem _ hx)) e v
  | .conditional _ c a b, h => by
    rw [eval, eval]
    refine (agree_eval w fs c (h.operand (by simp [operands]))).bind fun v => ?_
    split
    · exact agree_eval w fs a (h.operand (by simp [operands]))
    · exact agree_eval w fs b (h.operand (by simp [operands]))
  | .starred .., _ => by
    rw [eval, eval]
    exact agree_throw (tolerates_of_nameless rfl)
  | .foreign .., _ => by
    rw [eval, eval]
    exact agree_throw (tolerates_of_nameless rfl)
termination_by structural x => x

theorem agree_evalOption (w : Views) (fs : List Frame) : ∀ o : Option Expr, (∀ e, o = some e → w.Fits fs e) →
    w.Agree (w.On fs) (evalOption w.one o) (evalOption w.other o)
  | none, _ => by
    rw [evalOption, evalOption]
    exact agree_pure _
  | some e, h => by
    rw [evalOption, evalOption]
    exact (agree_eval w fs e (h e rfl)).bind fun v => agree_pure _
termination_by structural x => x

theorem agree_evalList (w : Views) (fs : List Frame) : ∀ es : List Expr, (∀ e ∈ es, w.Fits fs e) →
    w.Agree (w.On fs) (evalList w.one es) (evalList w.other es)
  | [], _ => by
    rw [evalList, evalList]
    exact agree_pure _
  | e :: es, h => by
    rw [evalList, evalList]
    refine (agree_eval w fs e (h e List.mem_cons_self)).bind fun v => ?_
    exact (agree_evalList w fs es fun x hx => h x (List.mem_cons_of_mem _ hx)).bind fun vs => agree_pure _
termination_by structural x => x

theorem agree_evalArgument (w : Views) (fs : List Frame) : ∀ a : Option String × Expr, w.Fits fs a.2 →
    w.Agree (w.On fs) (evalArgument w.one a) (evalArgument w.other a)
  | (n, e), h => by
    rw [evalArgument, evalArgument]
    refine (agree_eval w fs e h).bind fun v => ?_
    cases n with
    | some n => exact agree_pure _
    | none => exact agree_throw (tolerates_of_nameless rfl)
termination_by structural x => x

theorem agree_evalNamed (w : Views) (fs : List Frame) : ∀ es : List (Option String × Expr),
    (∀ a ∈ es, w.Fits fs a.2) → w.Agree (w.On fs) (evalNamed w.one es) (evalNamed w.other es)
  | [], _ => by
    rw [evalNamed, evalNamed]
    exact agree_pure _
  | a :: es, h => by
    rw [evalNamed, evalNamed]
    refine (agree_evalArgument w fs a (h a List.mem_cons_self)).bind fun v => ?_
    exact (agree_evalNamed w fs es fun x hx => h x (List.mem_cons_of_mem _ hx)).bind fun vs => agree_pure _
termination_by structural x => x

theorem agree_evalEntry (w : Views) (fs : List Frame) : ∀ a : Option Expr × Expr,
    (∀ x, a.1 = some x → w.Fits fs x) → w.Fits fs a.2 →
      w.Agree (w.On fs) (evalEntry w.one a) (evalEntry w.other a)
  | (k, e), hk, he => by
    rw [evalEntry, evalEntry]
    have he := agree_eval w fs e he
    refine (agree_evalOption w fs k hk).bind fun key => ?_
    cases key with
    | some k => exact he.bind fun v => agree_pure _
    | none =>
      refine he.bind fun v => ?_
      split
      · exact agree_pure _
      · exact agree_pure _
      · exact agree_throw (tolerates_of_nameless rfl)
termination_by structural x => x

theorem agree_evalEntries (w : Views) (fs : List Frame) : ∀ es : List (Option Expr × Expr),
    (∀ x ∈ es.filterMap (·.1), w.Fits fs x) → (∀ x ∈ es.map (·.2), w.Fits fs x) → ∀ done waiting,
      w.Agree (w.On fs) (evalEntries w.one done waiting es) (evalEntries w.other done waiting es)
  | [], _, _, _, _ => by
    rw [evalEntries, evalEntries]
    exact agree_lift (by simp)
  | a :: es, hkeys, hvalues, done, waiting => by
    rw [evalEntries, evalEntries]
    have ha := agree_evalEntry w fs a (fun x hx => hkeys x (List.mem_filterMap.2 ⟨a, List.mem_cons_self, hx⟩))
      (hvalues _ (List.mem_map_of_mem List.mem_cons_self))
    have hes := agree_evalEntries w fs es
      (fun x hx => by
        obtain ⟨b, hb, hbx⟩ := List.mem_filterMap.1 hx
        exact hkeys x (List.mem_filterMap.2 ⟨b, List.mem_cons_of_mem _ hb, hbx⟩))
      fun x hx => hvalues x (List.mem_cons_of_mem _ hx)
    refine ha.bind fun r => ?_
    cases r with
    | inl new => exact hes _ _
    | inr new => exact (agree_lift (by simp)).bind fun _ => (agree_lift (by simp)).bind fun _ => hes _ _
termination_by structural x => x

theorem agree_evalLogical (w : Views) (fs : List Frame) (isAnd : Bool) : ∀ es : List Expr,
    (∀ e ∈ es, w.Fits fs e) → w.Agree (w.On fs) (evalLogical w.one isAnd es) (evalLogical w.other isAnd es)
  | [], _ => by
    rw [evalLogical, evalLogical]
    exact agree_pure _
  | e :: es, h => by
    rw [evalLogical, evalLogical]
    refine (agree_eval w fs e (h e List.mem_cons_self)).bind fun v => ?_
    split
    · exact agree_pure v
    · exact agree_evalLogical w fs isAnd es fun x hx => h x (List.mem_cons_of_mem _ hx)
termination_by structural x => x

theorem agree_evalComparison (w : Views) (fs : List Frame) : ∀ rest : List (Comparison × Expr),
    (∀ x ∈ rest.map (·.2), w.Fits fs x) → ∀ left v,
      w.Agree (w.On fs) (evalComparison w.one left v rest) (evalComparison w.other left v rest)
  | [], _, _, _ => by
    rw [evalComparison, evalComparison]
    exact agree_pure _
  | (c, e) :: rest, h, left, v => by
    rw [evalComparison, evalComparison, evalLink, evalLink]
    have hlink : w.Agree (w.On fs)
        (do let u ← eval w.one e; return (e, u, ← compareValues c (nameOne v left e) v u))
        (do let u ← eval w.other e; return (e, u, ← compareValues c (nameOne v left e) v u)) := by
      refine (agree_eval w fs e (h e List.mem_cons_self)).bind fun u => ?_
      exact (agree_of_ends (ends_compareValues On.steadfast _ _ _ _)).bind fun _ => agree_pure _
    refine hlink.bind fun link => ?_
    obtain ⟨right, u, holds⟩ := link
    cases holds with
    | true => exact agree_evalComparison w fs rest (fun x hx => h x (List.mem_cons_of_mem _ hx)) right u
    | false => exact agree_pure _
termination_by structural x => x

theorem agree_evalConditions (w : Views) (fs : List Frame) : ∀ es : List Expr, (∀ e ∈ es, w.Fits fs e) →
    w.Agree (w.On fs) (evalConditions w.one es) (evalConditions w.other es)
  | [], _ => by
    rw [evalConditions, evalConditions]
    exact agree_pure _
  | e :: es, h => by
    rw [evalConditions, evalConditions]
    refine (agree_eval w fs e (h e List.mem_cons_self)).bind fun v => ?_
    split
    · exact agree_evalConditions w fs es fun x hx => h x (List.mem_cons_of_mem _ hx)
    · exact agree_pure _
termination_by structural x => x

theorem agree_evalFirst (w : Views) (fs : List Frame) {m : Nat} {kind : Collected} {x : Expr}
    {element element' : Eval Value} : ∀ cs : List Clause, w.Fits fs (.comprehension m kind x cs) →
      w.Agree (w.Iterating fs (boundBy cs) (boundBy cs)) element element' →
        Alike (w.On fs) (fun f st => w.Tolerates f ∧ w.On fs st) (evalFirst w.one (frameOf cs) element cs)
          (evalFirst w.other (frameOf cs) element' cs) fun source st => source.EndsIn w.Tolerates ∧ w.On fs st
  | [], _, _ => by
    rw [evalFirst, evalFirst]
    exact Alike.pure fun st hst => ⟨endsIn_none _, hst⟩
  | .mk target iterated conditions isAsync :: cs, h, helement => by
    -- The first iterable is evaluated without the frame, all else in it.
    have hiterated := agree_eval w fs iterated (h.outer .first)
    have hconditions := agree_iterating fun f hf => agree_evalConditions w (f :: fs) conditions fun y hy =>
      h.inner (@Part.condition _ _ _ _ _ [] _ hy) hf
    have hrest := matches_evalClauses w fs h helement cs (.mk target iterated conditions isAsync) [] rfl
    rw [← List.nil_append [_]] at hrest
    rw [boundBy_snoc] at hconditions hrest
    rw [evalFirst, evalFirst]
    refine Alike.bind hiterated fun v => Alike.bind (ends_sourceTaken On.steadfast v).alike fun source st hst => ?_
    refine alike_within (.frameOf _) (matches_forSource hst.1 fun y => ?_) st hst.2
    exact matches_iteration (fun n hn => List.mem_append_left _ hn) hconditions hrest y
termination_by structural x => x

theorem matches_evalClauses (w : Views) (fs : List Frame) {m : Nat} {kind : Collected} {x : Expr}
    {whole : List Clause} {element element' : Eval Value} (h : w.Fits fs (.comprehension m kind x whole))
    (helement : w.Agree (w.Iterating fs (boundBy whole) (boundBy whole)) element element') :
    ∀ (cs : List Clause) (d : Clause) (before : List Clause), whole = d :: before ++ cs →
      Matches (w.Iterating fs (boundBy (d :: before)) (boundBy whole)) (evalClauses w.one element cs)
        (evalClauses w.other element' cs) (w.Stepped fs (boundBy (d :: before)) (boundBy whole))
  | [], d, before, hwhole => by
    rw [List.append_nil] at hwhole
    rw [evalClauses, evalClauses, ← hwhole]
    refine matches_stepsAfter helement (fun a => ?_) fun f st hf => ⟨endsIn_some hf.1, hf.2⟩
    exact Matches.pure fun st hst => ⟨endsIn_none _, hst⟩
  | .mk target iterated conditions isAsync :: cs, d, before, hwhole => by
    have hiterated : w.Agree (w.Iterating fs (boundBy (d :: before)) (boundBy whole)) (eval w.one iterated)
        (eval w.other iterated) := by
      refine agree_iterating fun f hf => agree_eval w (f :: fs) iterated ?_
      subst hwhole
      exact h.inner .later hf
    have hconditions : w.Agree (w.Iterating fs (boundBy (d :: before) ++ targetIds target) (boundBy whole))
        (evalConditions w.one conditions) (evalConditions w.other conditions) := by
      refine agree_iterating fun f hf => agree_evalConditions w (f :: fs) conditions fun y hy => ?_
      subst hwhole
      refine h.inner (.condition hy) ?_
      rwa [boundBy_snoc]
    have hrest := matches_evalClauses w fs h helement cs d (before ++ [.mk target iterated conditions isAsync])
      (by simp [hwhole])
    rw [← List.cons_append, boundBy_snoc] at hrest
    have htarget : ∀ n ∈ targetIds target, n ∈ boundBy whole := by
      intro n hn
      rw [hwhole, boundBy, List.flatMap_append]
      exact List.mem_append_right _ (List.mem_append_left _ hn)
    rw [evalClauses, evalClauses]
    refine matches_stepsAfter (Alike.bind hiterated fun v => (ends_sourceTaken Iterating.steadfast v).alike)
      (fun source st hst => ?_) fun f st hf => ⟨endsIn_some hf.1, hf.2⟩
    exact matches_forSource hst.1 (matches_iteration htarget hconditions hrest) st hst.2
termination_by structural x => x

end

end Views

end Conformance.Expr
