import Conformance.Proofs.Expr.Computation
import Conformance.Proofs.Value.Faults

/-!
# What the library does to an evaluation

Functions and methods leave the names alone. They take from generators, call functions for keys, and end in faults of
their own or in those that generators end in. So whatever is invariant under that is kept by all calls.
-/

namespace Conformance

theorem Pattern.Malformed.nameless_fault (m : Pattern.Malformed) : m.fault.isOfName = false := by
  cases m <;> rfl

namespace Expr

open Conformance.Value (Arguments)

/-! ## Sequences -/

/-- The fault that ends a source has a property. -/
def Source.EndsIn (F : Fault → Prop) (source : Source) : Prop := ∀ f, source.2 = some f → F f

theorem Source.EndsIn.members {F : Fault → Prop} {xs ys : List Value} {fault : Option Fault}
    (h : Source.EndsIn F (xs, fault)) : Source.EndsIn F (ys, fault) := h

/-- An invariant that generators do not touch but for the faults that they end in, which are among those that all
operations on values may end in. -/
structure Steadfast (I : Store → Prop) (F : Fault → Prop) : Prop where
  faults : ∀ f, f.isOfName = false → F f
  sources : ∀ st, I st → ∀ source ∈ st.generators, source.EndsIn F
  regenerated : ∀ st g, I st → (∀ source ∈ g, source.EndsIn F) → I { st with generators := g }

section
variable {I : Store → Prop} {F : Fault → Prop} (h : Steadfast I F)
include h

theorem Steadfast.lift {α : Type} {r : Except Fault α} (hr : Nameless r) : Ends I F (Eval.lift r) fun _ => True :=
  fun _ hst => ⟨hst, fun _ _ => trivial, fun f hf => h.faults f (hr f hf)⟩

theorem ends_sourceOf (v : Value) : Ends I F (Eval.sourceOf v) (Source.EndsIn F) := by
  unfold Eval.sourceOf
  split
  · next id =>
    refine Ends.get.bind fun st hst => Ends.pure ?_
    cases hs : st.generators[id]? with
    | none => simp [Source.EndsIn]
    | some source => exact h.sources st hst source (Array.mem_of_getElem? hs)
  · split
    · exact Ends.pure fun f hf => by cases hf
    · exact Ends.throw (h.faults _ rfl)

theorem ends_leave (v : Value) {rest : Source} (hrest : rest.EndsIn F) :
    Ends I F (Eval.leave v rest) fun _ => True := by
  unfold Eval.leave
  split
  · refine Ends.modify fun st hst => h.regenerated st _ hst fun source hs => ?_
    obtain ⟨i, hi⟩ := Array.mem_iff_getElem?.1 hs
    rw [Array.getElem?_setIfInBounds] at hi
    split at hi
    · split at hi
      · cases hi
        exact hrest
      · cases hi
    · exact h.sources st hst source (Array.mem_of_getElem? hi)
  · exact Ends.pure trivial

theorem ends_sourceTaken (v : Value) : Ends I F (Eval.sourceTaken v) (Source.EndsIn F) := by
  refine (ends_sourceOf h v).bind fun source hs => ?_
  refine (ends_leave h v fun f hf => ?_).bind fun _ _ => Ends.pure hs
  cases hf

theorem ends_taken (v : Value) : Ends I F (Eval.taken v) fun _ => True := by
  refine (ends_sourceTaken h v).bind fun source hs => ?_
  split
  · exact Ends.pure trivial
  · next f => exact Ends.throw (hs f rfl)

theorem ends_findIn (test : Value → Bool) (v : Value) : Ends I F (Eval.findIn test v) fun _ => True := by
  refine (ends_sourceOf h v).bind fun source hs => ?_
  obtain ⟨xs, fault⟩ := source
  dsimp only
  split
  · exact (ends_leave h v hs.members).bind fun _ _ => Ends.pure trivial
  · refine (ends_leave h v fun f hf => by cases hf).bind fun _ _ => ?_
    split
    · next f => exact Ends.throw (hs f rfl)
    · exact Ends.pure trivial

theorem ends_newGenerator {source : Source} (hs : source.EndsIn F) :
    Ends I F (Eval.newGenerator source) fun _ => True := by
  refine Ends.get.bind fun st _ => ?_
  have hpush : ∀ st, I st → I { st with generators := st.generators.push source } := by
    intro st hst
    refine h.regenerated st _ hst fun other ho => ?_
    obtain ho | rfl := Array.mem_push.1 ho
    · exact h.sources st hst other ho
    · exact hs
  refine Ends.bind (Ends.modify hpush) fun _ _ => ?_
  exact Ends.pure trivial

end

/-! ## Conversions and checks -/

namespace Library

@[simp] theorem nameless_readInteger (base : Nat) (s : Option (List Char)) : Nameless (readInteger base s) := by
  unfold readInteger
  split <;> simp

@[simp] theorem nameless_toFloat (v : Value) : Nameless (toFloat v) := by
  unfold toFloat
  dsimp only
  split
  · split <;> simp
  · split <;> simp
  · simp

@[simp] theorem nameless_toInt (v : Value) : Nameless (toInt v) := by
  unfold toInt
  split <;> simp

@[simp] theorem nameless_toIntOfBase (v base : Value) : Nameless (toIntOfBase v base) := by
  refine nameless_bind.2 ⟨base.nameless_index, fun n _ => ?_⟩
  split <;> simp

@[simp] theorem nameless_decodeText (b : List UInt8) (code : String) : Nameless (decodeText b code) := by
  unfold decodeText
  dsimp only
  rw [nameless_ite]
  refine ⟨fun _ => ?_, fun _ => by simp⟩
  split <;> simp

@[simp] theorem nameless_toText (object code errors : Option Value) : Nameless (toText object code errors) := by
  unfold toText
  split <;> simp

@[simp] theorem nameless_textCheck (test : List Char → Bool) (v : Value) : Nameless (textCheck test v) := by
  unfold textCheck
  split <;> simp

@[simp] theorem nameless_checkMail (v : Value) : Nameless (checkMail v) := by
  unfold checkMail
  split
  · simp
  · rw [nameless_ite]
    refine ⟨fun _ => by simp, fun _ => ?_⟩
    split <;> simp

@[simp] theorem nameless_checkHostname (v : Value) : Nameless (checkHostname v) := by
  unfold checkHostname
  rw [nameless_ite]
  refine ⟨fun _ => by simp, fun _ => ?_⟩
  split <;> simp

@[simp] theorem nameless_checkAddress (v : Value) : Nameless (checkAddress v) := by simp [checkAddress]

@[simp] theorem nameless_checkUuid (v : Value) : Nameless (checkUuid v) := by
  unfold checkUuid
  split <;> simp

@[simp] theorem nameless_checkInfinite (v sign : Value) : Nameless (checkInfinite v sign) := by simp [checkInfinite]

@[simp] theorem nameless_patternOf (v : Value) : Nameless (patternOf v) := by
  unfold patternOf
  split
  · simp
  · cases hp : Pattern.ofText _ with
    | ok p => exact nameless_ok p
    | error m => exact nameless_error.2 m.nameless_fault
  · split
    · simp
    · exact nameless_error.2 (Pattern.Malformed.nameless_fault _)
  · simp

@[simp] theorem nameless_checkMatch (v pattern : Value) : Nameless (checkMatch v pattern) := by
  unfold checkMatch
  split
  · split <;> simp
  · simp
  · simp

@[simp] theorem nameless_isSet (s : Schema) (message name : Value) : Nameless (isSet s message name) := by
  unfold isSet
  split
  · dsimp only
    split
    · split <;> simp
    · simp
    · simp
  · simp

@[simp] theorem nameless_single (a : Arguments) : Nameless (single a) := by
  refine nameless_bind.2 ⟨a.nameless_plain 1 1, fun args _ => ?_⟩
  split <;> simp

@[simp] theorem nameless_namedSingle (a : Arguments) (name : String) : Nameless (namedSingle a name) := by
  refine nameless_bind.2 ⟨a.nameless_bind 1 1 _, fun args _ => ?_⟩
  split <;> simp

end Library

/-! ## Calls -/

/-- The functions that call one of their arguments. -/
def keyTakers : List String := ["max", "min", "sorted"]

namespace Library

section
variable {I : Store → Prop} {F : Fault → Prop} (h : Steadfast I F)
include h

theorem ends_holds (c x : Value) : Ends I F (holds c x) fun _ => True := by
  unfold holds
  split
  · exact ends_findIn h _ _
  · exact h.lift (by simp)

theorem ends_checkNetwork (v version strict : Value) : Ends I F (checkNetwork v version strict) fun _ => True := by
  refine (ends_holds h _ _).bind fun slashed _ => ?_
  split
  · exact Ends.pure trivial
  · split
    · split
      · exact Ends.pure trivial
      · exact Ends.pure trivial
    · exact Ends.pure trivial

omit h in
/-- Calls for a key keep the invariant where there is one. -/
def KeyEnds (I : Store → Prop) (F : Fault → Prop) (callKey : KeyCall) (key : Option Value) : Prop :=
  ∀ f, key = some f → f ≠ .none → ∀ x, Ends I F (callKey f x) fun _ => True

variable {callKey : KeyCall} {key : Option Value}

omit h in
theorem ends_keyOf (hk : KeyEnds I F callKey key) (x : Value) : Ends I F (keyOf callKey key x) fun _ => True := by
  unfold keyOf
  split
  · exact Ends.pure trivial
  · exact Ends.pure trivial
  · next f hf => exact hk f rfl (fun hn => hf (by rw [hn])) x

omit h in
theorem ends_keyed (hk : KeyEnds I F callKey key) (xs : List Value) :
    Ends I F (keyed callKey key xs) fun _ => True := by
  induction xs with
  | nil => exact Ends.pure trivial
  | cons x xs ih => exact (ends_keyOf hk x).bind fun _ _ => ih.bind fun _ _ => Ends.pure trivial

theorem ends_extremeFrom (hk : KeyEnds I F callKey key) (r : Relation) (xs : List Value) :
    ∀ best, Ends I F (extremeFrom callKey key r best xs) fun _ => True := by
  induction xs with
  | nil => exact fun best => Ends.pure trivial
  | cons x xs ih =>
    intro best
    refine (ends_keyOf hk x).bind fun k _ => ?_
    split
    · exact ih _
    · refine (h.lift (by simp)).bind fun smaller _ => ?_
      split
      · exact ih _
      · exact ih _

theorem ends_extreme {a : Arguments} (hk : KeyEnds I F callKey (a.named.lookup "key")) (r : Relation) :
    Ends I F (extreme callKey r a) fun _ => True := by
  have hthrow {α : Type} {Q : α → Prop} {f : Fault} (hf : f.isOfName = false) : Ends I F (throw f) Q :=
    Ends.throw (h.faults f hf)
  unfold extreme
  dsimp only
  split
  · exact Ends.throw_bind (h.faults _ rfl)
  · split
    · exact hthrow rfl
    · refine (ends_sourceTaken h _).bind fun source hs => (ends_extremeFrom h hk r _ _).bind fun best _ => ?_
      split
      · next hf => exact Ends.throw (hs _ hf)
      · exact Ends.pure trivial
      · exact Ends.pure trivial
      · exact hthrow rfl
    · split
      · exact Ends.throw_bind (h.faults _ rfl)
      · refine (ends_extremeFrom h hk r _ _).bind fun best _ => ?_
        split
        · exact Ends.pure trivial
        · exact hthrow rfl

theorem ends_sorted {a : Arguments} (hk : KeyEnds I F callKey (a.named.lookup "key")) :
    Ends I F (sorted callKey a) fun _ => True := by
  unfold sorted
  have hrest : ∀ (xs : List Value) (reverse : Bool), Ends I F (do
      let ks ← keyed callKey (a.named.lookup "key") xs
      let ks := if reverse then ks.reverse else ks
      let out ← Eval.lift (sortBy (fun x y => x.1.related .lt y.1) ks)
      return Value.list ((if reverse then out.reverse else out).map (·.2))) fun _ => True := by
    intro xs reverse
    refine (ends_keyed hk xs).bind fun _ _ => ?_
    exact (h.lift (nameless_sortBy (by simp) _)).bind fun _ _ => Ends.pure trivial
  split
  · refine (ends_taken h _).bind fun xs _ => ?_
    dsimp only
    split
    · exact Ends.throw_bind (h.faults _ rfl)
    · split
      · exact hrest xs false
      · refine (h.lift (by simp)).bind fun n _ => ?_
        split
        · exact Ends.throw_bind (h.faults _ rfl)
        · exact hrest xs (n != 0)
  · exact Ends.throw (h.faults _ rfl)

theorem ends_checkUnique (v : Value) : Ends I F (checkUnique v) fun _ => True := by
  refine (ends_sourceOf h v).bind fun source hs => ?_
  obtain ⟨xs, fault⟩ := source
  dsimp only
  split
  · exact (ends_leave h v hs.members).bind fun _ _ => Ends.pure trivial
  · refine (ends_leave h v fun f hf => by cases hf).bind fun _ _ => ?_
    split
    · next f => exact Ends.throw (hs f rfl)
    · exact Ends.pure trivial

theorem ends_apply (s : Schema) (f : Function) {a : Arguments}
    (hk : f.name ∈ keyTakers → KeyEnds I F callKey (a.named.lookup "key")) :
    Ends I F (apply s callKey f a) fun _ => True := by
  have hthrow {f : Fault} (hf : f.isOfName = false) : Ends I F (throw f) fun _ : Value => True :=
    Ends.throw (h.faults f hf)
  cases f with
  | max => exact ends_extreme h (hk (by decide)) _
  | min => exact ends_extreme h (hk (by decide)) _
  | sorted => exact ends_sorted h (hk (by decide))
  | all | any =>
    exact (h.lift (by simp)).bind fun v _ => (ends_findIn h _ v).bind fun _ _ => Ends.pure trivial
  | isIpPrefix =>
    refine (h.lift (by simp)).bind fun args _ => ?_
    split
    · exact (ends_checkNetwork h _ _ _).bind fun _ _ => Ends.pure trivial
    · exact hthrow rfl
  | unique =>
    exact (h.lift (by simp)).bind fun v _ => (ends_checkUnique h v).bind fun _ _ => Ends.pure trivial
  | abs => exact h.lift (by simp)
  | bool =>
    refine (h.lift (by simp)).bind fun args _ => ?_
    split
    · exact Ends.pure trivial
    · exact Ends.pure trivial
  | isIp =>
    refine (h.lift (by simp)).bind fun args _ => ?_
    split
    · exact Ends.pure trivial
    · exact hthrow rfl
  | float =>
    refine (h.lift (by simp)).bind fun args _ => ?_
    split
    · exact Ends.pure trivial
    · exact h.lift (by simp)
  | int =>
    refine (h.lift (by simp)).bind fun args _ => ?_
    split
    · exact h.lift (by simp)
    · exact h.lift (by simp)
    · exact Ends.pure trivial
    · exact hthrow rfl
  | str =>
    refine (h.lift (by simp)).bind fun args _ => ?_
    split
    · exact h.lift (by simp)
    · exact hthrow rfl
  | len | size =>
    refine (h.lift (by simp)).bind fun v _ => ?_
    split
    · exact Ends.pure trivial
    · exact hthrow rfl
  | has | isHostAndPort | isInf | hasMatch =>
    refine (h.lift (by simp)).bind fun args _ => ?_
    split
    · exact (h.lift (by simp)).bind fun _ _ => Ends.pure trivial
    · exact hthrow rfl
  | isAddress | isEmail | isHostname | isNan | isUri | isUriRef | isUuid =>
    exact (h.lift (by simp)).bind fun _ _ => Ends.pure trivial

theorem ends_callWith (s : Schema) (v : Value) {a : Arguments}
    (hk : ∀ f, v = .function f → f.name ∈ keyTakers → KeyEnds I F callKey (a.named.lookup "key")) :
    Ends I F (callWith s callKey v a) fun _ => True := by
  unfold callWith
  split
  · exact ends_apply h s _ (hk _ rfl)
  · unfold applyMethod
    split
    · exact (ends_taken h _).bind fun _ _ => h.lift (by simp)
    · exact h.lift (by simp)
  · exact h.lift (by simp)
  · exact Ends.throw (h.faults _ rfl)

/-- A call keeps the invariant where it is kept by recording the calls for keys. -/
theorem ends_call (s : Schema) (v : Value) {a : Arguments}
    (hk : ∀ f, v = .function f → f.name ∈ keyTakers → ∀ k, a.named.lookup "key" = some k → k ≠ .none →
      Ends I F (Eval.record ⟨.key, k⟩) fun _ => True) :
    Ends I F (call s v a) fun _ => True := by
  apply ends_callWith h
  intro f hf hkey k hlookup hnone x
  refine (hk f hf hkey k hlookup hnone).bind fun _ _ => ?_
  apply ends_callWith h
  intro _ _ _ k' hk'
  cases hk'

end

end Library

theorem ends_compareValues {I : Store → Prop} {F : Fault → Prop} (h : Steadfast I F) (c : Comparison) (one : Bool)
    (a b : Value) : Ends I F (compareValues c one a b) fun _ => True := by
  cases c with
  | eq | notEq | same | notSame => exact Ends.pure trivial
  | lt | le | gt | ge => exact h.lift (by simp)
  | isIn => exact Library.ends_holds h _ _
  | notIn => exact (Library.ends_holds h _ _).bind fun _ _ => Ends.pure trivial

/-! ## Collections and texts -/

@[simp] theorem nameless_makeSet (xs : List Value) : Nameless (makeSet xs) := by simp [makeSet]

@[simp] theorem nameless_putEntries (es new : List (Value × Value)) : Nameless (putEntries es new) := by
  simp [putEntries]

@[simp] theorem nameless_placedText (v : Value) (c : Conversion) (spec : String) :
    Nameless (placedText v c spec) := by
  cases c <;> simp [placedText]

end Expr
end Conformance
