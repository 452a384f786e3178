import Conformance.Expr.Evaluation

/-!
# Faults of operations on values

Operations on values can end in many faults, but never in those of names. Each operation has its lemma, and all of
them are for `simp`, so that what is put together from operations needs no more than to be unfolded.
-/

namespace Conformance

/-- The faults that a name can be read with. -/
@[simp]
def Fault.isOfName (f : Fault) : Bool := f == .unknownName || f == .unassignedName

/-- A result that is not a fault of a name. -/
def Nameless {α : Type} (r : Except Fault α) : Prop := ∀ f, r = .error f → f.isOfName = false

section
variable {α β : Type}

@[simp] theorem nameless_ok (a : α) : Nameless (.ok a) := by
  intro f h
  cases h

@[simp] theorem nameless_pure (a : α) : Nameless (pure a) := nameless_ok a

@[simp] theorem nameless_error {f : Fault} : Nameless (.error f : Except Fault α) ↔ f.isOfName = false := by
  constructor
  · intro h
    exact h f rfl
  · intro h g hg
    cases hg
    exact h

@[simp] theorem nameless_throw {f : Fault} : Nameless (throw f : Except Fault α) ↔ f.isOfName = false :=
  nameless_error

@[simp] theorem nameless_bind {x : Except Fault α} {g : α → Except Fault β} :
    Nameless (x >>= g) ↔ Nameless x ∧ ∀ a, x = .ok a → Nameless (g a) := by
  cases x <;> simp [bind, Except.bind]

@[simp] theorem nameless_map {x : Except Fault α} {g : α → β} : Nameless (g <$> x) ↔ Nameless x := by
  cases x with
  | ok a => exact iff_of_true (nameless_ok _) (nameless_ok _)
  | error f => exact Iff.trans nameless_error nameless_error.symm

@[simp] theorem nameless_discard {x : Except Fault α} : Nameless (discard x) ↔ Nameless x := nameless_map

@[simp] theorem nameless_ite {c : Prop} [Decidable c] {x y : Except Fault α} :
    Nameless (if c then x else y) ↔ (c → Nameless x) ∧ (¬c → Nameless y) := by
  by_cases h : c <;> simp [h]

theorem nameless_mapM {g : α → Except Fault β} (h : ∀ a, Nameless (g a)) (as : List α) : Nameless (as.mapM g) := by
  induction as with
  | nil => simp
  | cons a as ih => simp [h, ih]

theorem nameless_forIn {g : α → β → Except Fault (ForInStep β)} (h : ∀ a b, Nameless (g a b)) (as : List α) (b : β) :
    Nameless (forIn as b g) := by
  induction as generalizing b with
  | nil => simp
  | cons a as ih =>
    simp only [List.forIn_cons, nameless_bind, h, true_and]
    intro step _
    cases step <;> simp [ih]

end

/-! ## Numbers -/

namespace Value

open Decimal

@[simp] theorem nameless_floatOfInt (n : Int) : Nameless (floatOfInt n) := by simp [floatOfInt]

@[simp] theorem nameless_real (v : Value) : Nameless v.real := by
  unfold real
  split
  · simp
  · split <;> simp

@[simp] theorem nameless_truncated (x : Binary64) : Nameless (truncated x) := by cases x <;> simp [truncated]

@[simp] theorem nameless_whole (v : Value) : Nameless v.whole := by
  unfold whole
  split
  · simp
  · split <;> simp

@[simp] theorem nameless_index (v : Value) : Nameless v.index := by
  unfold index
  split <;> simp

@[simp] theorem nameless_inRange (x : Binary64) : Nameless (inRange x) := by simp [inRange]

@[simp] theorem nameless_floatPower (x y : Binary64) : Nameless (floatPower x y) := by simp [floatPower]

@[simp] theorem nameless_trueDivide (a b : Int) : Nameless (trueDivide a b) := by simp [trueDivide]

@[simp] theorem nameless_intPower (a b : Int) : Nameless (intPower a b) := by simp [intPower]

@[simp] theorem nameless_intOp (op : BinaryOp) (a b : Int) : Nameless (intOp op a b) := by cases op <;> simp [intOp]

@[simp] theorem nameless_floatOp (op : BinaryOp) (x y : Binary64) : Nameless (floatOp op x y) := by
  cases op <;> simp [floatOp]

@[simp] theorem nameless_complexOp (op : BinaryOp) (a b c d : Binary64) : Nameless (complexOp op a b c d) := by
  cases op <;> simp [complexOp]

@[simp] theorem nameless_numberOp (op : BinaryOp) (a b : Value) : Nameless (numberOp op a b) := by
  unfold numberOp
  split
  · simp
  · split
    · split <;> simp
    · split <;> simp
    · simp

@[simp] theorem nameless_repeatList {α : Type} {f : Fault} (h : Nameless (.error f : Except Fault (List α)))
    (xs : List α) (n : Int) : Nameless (repeatList f xs n) := by
  unfold repeatList
  rw [nameless_ite, nameless_ite, nameless_ite]
  exact ⟨fun _ => by simp, fun _ => ⟨fun _ => by simp, fun _ => ⟨fun _ => h, fun _ => by simp⟩⟩⟩

theorem nameless_repeated? {v : Value} {n : Int} {r : Except Fault Value} (h : repeated? v n = some r) :
    Nameless r := by
  unfold repeated? at h
  split at h <;> cases h <;> simp

/-! ## Times -/

@[simp] theorem nameless_newSpan (micros : Int) : Nameless (newSpan micros) := by
  unfold newSpan
  split <;> simp

@[simp] theorem nameless_newInstant (micros : Int) : Nameless (newInstant micros) := by
  unfold newInstant
  split <;> simp

@[simp] theorem nameless_exactRatio (x : Binary64) : Nameless (exactRatio x) := by
  unfold exactRatio
  split <;> simp

@[simp] theorem nameless_scaleSpan (s : Calendar.Span) (factor : Value) : Nameless (scaleSpan s factor) := by
  unfold scaleSpan
  split
  · simp
  · split <;> simp

@[simp] theorem nameless_divideSpan (s : Calendar.Span) (factor : Value) : Nameless (divideSpan s factor) := by
  unfold divideSpan
  split
  · simp
  · simp
  · split <;> simp

@[simp] theorem nameless_floorDivideSpan (s : Calendar.Span) (factor : Value) :
    Nameless (floorDivideSpan s factor) := by
  unfold floorDivideSpan
  split
  · simp
  · split <;> simp

@[simp] theorem nameless_timeOp (op : BinaryOp) (a b : Value) : Nameless (timeOp op a b) := by
  unfold timeOp
  split <;> simp

end Value

@[simp] theorem Message.nameless_bound (m : Message) : Nameless m.bound := by
  unfold bound
  split
  · split <;> simp
  · split
    · split <;> simp
    · simp

namespace Value

@[simp] theorem nameless_standsFor (v : Value) : Nameless v.standsFor := by
  unfold standsFor
  split <;> simp

@[simp] theorem nameless_messageOp (op : BinaryOp) (a b : Value) : Nameless (messageOp op a b) := by
  simp [messageOp]

/-! ## Texts -/

@[simp] theorem nameless_integerText (n : Int) : Nameless (integerText n) := by simp [integerText]

mutual

@[simp] theorem nameless_display : ∀ v : Value, Nameless v.display
  | list xs | elements _ xs => by simp [display, nameless_displayAll xs]
  | tuple xs => by
    rw [display, nameless_bind]
    refine ⟨nameless_displayAll xs, fun ss _ => ?_⟩
    split <;> simp
  | set _ xs => by simp [display, nameless_displayAll xs]
  | dict es | entries _ _ es | view _ _ es => by simp [display, nameless_displayEntries es]
  | slice a b c => by simp [display, nameless_display a, nameless_display b, nameless_display c]
  | none | ellipsis | bool _ | int _ | float _ | complex .. | text _ | bytes _ | instant _ | span _ | zone
  | pattern _ | message _ | descriptor _ | generator _ | function _ | method .. | unbound .. | other _ => by simp [display]

theorem nameless_displayAll : ∀ xs : List Value, Nameless (displayAll xs)
  | [] => by simp [displayAll]
  | x :: xs => by simp [displayAll, nameless_display x, nameless_displayAll xs]

theorem nameless_displayEntry : ∀ e : Value × Value, Nameless (displayEntry e)
  | (k, v) => by simp [displayEntry, nameless_display k, nameless_display v]

theorem nameless_displayEntries : ∀ es : List (Value × Value), Nameless (displayEntries es)
  | [] => by simp [displayEntries]
  | e :: es => by simp [displayEntries, nameless_displayEntry e, nameless_displayEntries es]

end

@[simp] theorem nameless_plainText (v : Value) : Nameless v.plainText := by
  unfold plainText
  split <;> simp

@[simp] theorem nameless_asciiDisplay (v : Value) : Nameless v.asciiDisplay := by simp [asciiDisplay]

/-! ## Formats -/

end Value

namespace Spec

@[simp] theorem nameless_applyText (spec : Spec) (s : List Char) : Nameless (spec.applyText s) := by
  simp [applyText]

@[simp] theorem nameless_applyFloat (spec : Spec) (x : Decimal.Binary64) : Nameless (spec.applyFloat x) := by
  unfold applyFloat
  split <;> simp

@[simp] theorem nameless_applyInt (spec : Spec) (n : Int) : Nameless (spec.applyInt n) := by
  unfold applyInt
  dsimp only
  split <;> simp

end Spec

@[simp] theorem Value.nameless_format (v : Value) (spec : String) : Nameless (v.format spec) := by
  unfold format
  rw [nameless_ite]
  refine ⟨fun _ => v.nameless_plainText, fun _ => ?_⟩
  dsimp only
  split <;> simp
  all_goals split <;> simp

/-! ## Substitutions -/

namespace Substitute

@[simp] theorem nameless_next (s : Supply) : Nameless (next s) := by
  unfold next
  split <;> simp

@[simp] theorem nameless_number (s : List Char) (supply : Supply) : Nameless (number s supply) := by
  unfold number
  split
  · rw [nameless_bind]
    refine ⟨nameless_next supply, fun r _ => ?_⟩
    dsimp only
    split <;> simp
  · simp

@[simp] theorem nameless_integer (d : Directive) (kind : Char) (v : Value) : Nameless (integer d kind v) := by
  unfold integer
  extract_lets mark laidOut
  have hlaid (n : Int) : Nameless (laidOut n) := by
    dsimp only [laidOut]
    split <;> simp
  split <;> simp [hlaid]

@[simp] theorem nameless_fraction (d : Directive) (kind : Char) (v : Value) : Nameless (fraction d kind v) := by
  rw [fraction, nameless_bind]
  refine ⟨v.nameless_real, fun x _ => ?_⟩
  split <;> simp

@[simp] theorem nameless_character (octets : Bool) (v : Value) : Nameless (character octets v) := by
  unfold character
  split
  · simp
  · simp
  · split <;> simp

@[simp] theorem nameless_convert (octets : Bool) (d : Directive) (kind : Char) (v : Value) :
    Nameless (convert octets d kind v) := by
  unfold convert
  split <;> simp
  all_goals
    intro _
    split <;> simp

@[simp] theorem nameless_named (octets : Bool) (key : List Char) (s : Supply) : Nameless (named octets key s) := by
  unfold named
  split
  · simp
  · dsimp only
    split
    · split <;> simp
    · split <;> simp
    · simp

@[simp] theorem nameless_directive (octets : Bool) (s : List Char) (supply : Supply) :
    Nameless (directive octets s supply) := by
  unfold directive
  -- The steps after a name, and those after a precision, are the same whether or not there is one.
  extract_lets converted sized
  have hconverted : ∀ r, Nameless (converted r) := by
    rintro ⟨d, s, supply⟩
    simp only [converted]
    split <;> simp
  have hsized : ∀ r, Nameless (sized r) := by
    rintro ⟨s, supply⟩
    simp only [sized, nameless_bind, nameless_number, true_and]
    rintro ⟨width, s, supply⟩ -
    dsimp only
    split <;> simp [hconverted]
  split
  · split <;> simp [hsized]
  · simp [hsized]

@[simp] theorem nameless_run (octets : Bool) (fuel : Nat) (s : List Char) (supply : Supply) :
    Nameless (run octets fuel s supply) := by
  induction fuel generalizing s supply with
  | zero => simp [run]
  | succ fuel ih =>
    unfold run
    dsimp only
    split
    · simp
    · simp [ih]

@[simp] theorem nameless_substitute (octets : Bool) (s : List Char) (v : Value) :
    Nameless (substitute octets s v) := nameless_run octets _ s _

end Substitute

/-! ## Operators -/

namespace Value

@[simp] theorem nameless_subtractSets (a b : Value) : Nameless (subtractSets a b) := by
  unfold subtractSets
  split
  · simp
  · rw [nameless_ite]
    refine ⟨fun _ => ?_, fun _ => by simp⟩
    split <;> simp

@[simp] theorem nameless_binary (op : BinaryOp) (a b : Value) : Nameless (binary op a b) := by
  unfold binary
  split <;> try simp
  split
  · next h =>
    obtain ⟨n, -, hr⟩ := Option.bind_eq_some_iff.1 h
    exact nameless_repeated? hr
  · next h _ =>
    obtain ⟨n, -, hr⟩ := Option.bind_eq_some_iff.1 h
    exact nameless_repeated? hr
  · simp

@[simp] theorem nameless_negate (v : Value) : Nameless v.negate := by
  unfold negate
  split
  · simp
  · simp
  · simp
  · split <;> simp

@[simp] theorem nameless_unary (op : UnaryOp) (v : Value) : Nameless (v.unary op) := by
  cases op with
  | plus =>
    unfold unary
    dsimp only
    split <;> simp
  | _ => simp [unary]

@[simp] theorem nameless_absolute (v : Value) : Nameless v.absolute := by
  unfold absolute
  split
  · simp
  · simp
  · simp
  · split <;> simp

/-! ## Order -/

theorem nameless_relatedAll {r : Relation} {xs : List Value} (h : ∀ x ∈ xs, ∀ y, Nameless (x.related r y)) :
    ∀ ys, Nameless (relatedAll r xs ys) := by
  induction xs with
  | nil => simp [relatedAll]
  | cons x xs ih =>
    intro ys
    have hxs := ih fun y hy => h y (List.mem_cons_of_mem _ hy)
    cases ys <;> simp [relatedAll, h x List.mem_cons_self, hxs]

@[simp] theorem nameless_related (r : Relation) (a b : Value) : Nameless (a.related r b) := by
  induction hn : sizeOf a using Nat.strongRecOn generalizing a b with
  | ind n ih =>
    have hall (xs : List Value) (hxs : sizeOf xs < n) : ∀ ys, Nameless (relatedAll r xs ys) := by
      apply nameless_relatedAll
      intro x hx y
      exact ih _ (Nat.lt_trans (List.sizeOf_lt_of_mem hx) hxs) x y rfl
    unfold related
    split
    · simp
    · simp
    · exact hall _ (by rw [← hn]; simp) _
    · exact hall _ (by rw [← hn]; simp) _
    · simp
    · simp
    · split
      · simp
      · simp
      · split <;> simp

end Value

section
variable {α : Type} {lt : α → α → Except Fault Bool} (h : ∀ a b, Nameless (lt a b))
include h

theorem nameless_runLength (descending : Bool) (xs : List α) : ∀ x, Nameless (runLength lt descending x xs) := by
  induction xs with
  | nil => simp [runLength]
  | cons y ys ih => simp [runLength, h, ih]

theorem nameless_insertionPlace (x : α) (xs : Array α) (fuel : Nat) : ∀ low high,
    Nameless (insertionPlace lt x xs fuel low high) := by
  induction fuel with
  | zero => simp [insertionPlace]
  | succ fuel ih =>
    intro low high
    unfold insertionPlace
    rw [nameless_ite]
    refine ⟨fun _ => ?_, fun _ => by simp⟩
    dsimp only
    split <;> simp [h, ih]

theorem nameless_insertAll (xs : List α) : ∀ sorted, Nameless (insertAll lt sorted xs) := by
  induction xs with
  | nil => simp [insertAll]
  | cons x xs ih => simp [insertAll, nameless_insertionPlace h, ih]

theorem nameless_sortShort (xs : List α) : Nameless (sortShort lt xs) := by
  unfold sortShort
  split <;> simp [h, nameless_runLength h, nameless_insertAll h]

theorem nameless_mergeSorted : ∀ xs ys : List α, Nameless (mergeSorted lt xs ys)
  | [], ys => by simp [mergeSorted]
  | x :: xs, [] => by simp [mergeSorted]
  | x :: xs, y :: ys => by
    have hleft := nameless_mergeSorted (x :: xs) ys
    have hright := nameless_mergeSorted xs (y :: ys)
    simp [mergeSorted, h, hleft, hright]
termination_by xs ys => xs.length + ys.length

theorem nameless_sortBy (xs : List α) : Nameless (sortBy lt xs) := by
  have hhalving : ∀ fuel (xs : List α), Nameless (sortHalving lt fuel xs) := by
    intro fuel
    induction fuel with
    | zero => simp [sortHalving, nameless_sortShort h]
    | succ fuel ih => simp [sortHalving, nameless_sortShort h, nameless_mergeSorted h, ih]
  exact hhalving _ xs

end

/-! ## Members -/

namespace Value

@[simp] theorem nameless_sliceBound (v : Value) : Nameless (sliceBound v) := by
  unfold sliceBound
  split <;> simp

@[simp] theorem nameless_slicePlaces (size : Nat) (start stop step : Value) :
    Nameless (slicePlaces size start stop step) := by
  simp [slicePlaces]

@[simp] theorem nameless_member {α : Type} (xs : List α) (i : Value) : Nameless (member xs i) := by
  rw [member, nameless_bind]
  refine ⟨nameless_index i, fun n _ => ?_⟩
  split <;> simp

@[simp] theorem nameless_subscript (v i : Value) : Nameless (v.subscript i) := by
  unfold subscript
  split <;> try simp
  intros
  split <;> simp

@[simp] theorem nameless_amongKeys (x : Value) (xs : List Value) : Nameless (amongKeys x xs) := by
  unfold amongKeys
  split <;> simp

@[simp] theorem nameless_contains (c x : Value) : Nameless (c.contains x) := by
  unfold contains
  split <;> try simp
  all_goals split <;> simp

@[simp] theorem nameless_messageAttribute (s : Schema) (m : Message) (name : String) :
    Nameless (messageAttribute s m name) := by
  unfold messageAttribute
  dsimp only
  split
  · simp
  · rw [nameless_ite, nameless_ite]
    refine ⟨fun _ => by simp, fun _ => ⟨fun _ => by simp, fun _ => ?_⟩⟩
    split <;> simp

@[simp] theorem nameless_attributeOf (s : Schema) (v : Value) (name : String) : Nameless (v.attributeOf s name) := by
  unfold attributeOf
  split
  · simp
  · simp
  · split <;> simp

/-! ## Methods -/

namespace Arguments

@[simp] theorem nameless_bind (a : Arguments) (required limit : Nat) (names : List (Nat × String)) :
    Nameless (a.bind required limit names) := by
  unfold bind
  extract_lets given named all finish checked
  have hchecked (u : Unit) : Nameless (checked u) := by
    refine Conformance.nameless_bind.2 ⟨nameless_forIn (fun x _ => ?_) _ _, fun _ _ => by simp [finish]⟩
    dsimp only
    split <;> simp
  simp [hchecked]

@[simp] theorem nameless_plain (a : Arguments) (least most : Nat) : Nameless (a.plain least most) := by
  simp [plain]

end Arguments

@[simp] theorem nameless_searchBounds (size : Nat) (bounds : List Value) : Nameless (searchBounds size bounds) := by
  simp [searchBounds]

section
variable {α : Type} {read : Value → Except Fault (List α)} (h : ∀ v, Nameless (read v))
include h

theorem nameless_oneOrAny (test : List α → Bool) (v : Value) : Nameless (oneOrAny read test v) := by
  have hany (vs : List Value) : Nameless (anyPart read test vs) := by
    induction vs with
    | nil => simp [anyPart]
    | cons v vs ih => simp [anyPart, h, ih]
  unfold oneOrAny
  split <;> simp [h, hany]

theorem nameless_splitParts [BEq α] (blank : α → Bool) (xs : List α) (args : List (Option Value)) :
    Nameless (splitParts blank read xs args) := by
  unfold splitParts
  extract_lets cut
  have hcut (limit : Int) : Nameless (cut limit) := by
    dsimp only [cut]
    split
    · simp
    · split <;> simp [h]
  split <;> simp [hcut]

theorem nameless_stripEnds [BEq α] (blank : α → Bool) (xs : List α) (args : List Value) :
    Nameless (stripEnds blank read xs args) := by
  unfold stripEnds
  split <;> simp [h]

end

@[simp] theorem nameless_characters (v : Value) : Nameless (characters v) := by
  unfold characters
  split <;> simp

@[simp] theorem nameless_octets (v : Value) : Nameless (octets v) := by
  unfold octets
  split <;> simp

@[simp] theorem nameless_octetsOrNumber (v : Value) : Nameless (octetsOrNumber v) := by
  unfold octetsOrNumber
  split <;> simp

@[simp] theorem nameless_joinTexts (sep : String) (v : Value) : Nameless (joinTexts sep v) := by
  unfold joinTexts
  split <;> simp [nameless_mapM]

@[simp] theorem nameless_textMethod (s name : String) (a : Arguments) : Nameless (textMethod s name a) := by
  unfold textMethod
  dsimp only
  split <;> simp [nameless_splitParts, nameless_stripEnds]
  all_goals
    intro args _
    split <;> simp [nameless_oneOrAny]

@[simp] theorem nameless_bytesMethod (s : List UInt8) (name : String) (a : Arguments) :
    Nameless (bytesMethod s name a) := by
  unfold bytesMethod
  split <;> simp [nameless_splitParts, nameless_stripEnds]
  all_goals
    intro args _
    split <;> simp [nameless_oneOrAny]

@[simp] theorem nameless_listMethod (xs : List Value) (name : String) (a : Arguments) :
    Nameless (listMethod xs name a) := by
  unfold listMethod
  split
  · refine Conformance.nameless_bind.2 ⟨a.nameless_plain 1 1, fun args _ => ?_⟩
    split <;> simp
  · refine Conformance.nameless_bind.2 ⟨a.nameless_plain 1 1, fun args _ => ?_⟩
    split
    · split <;> simp
    · simp
  · simp

@[simp] theorem nameless_mappingMethod (ofField : Bool) (accepts : Value → Bool) (es : List (Value × Value))
    (name : String) (a : Arguments) : Nameless (mappingMethod ofField accepts es name a) := by
  unfold mappingMethod
  split
  · simp
  · simp
  · simp
  · refine Conformance.nameless_bind.2 ⟨a.nameless_bind 1 2 _, fun args _ => ?_⟩
    split <;> simp
  · simp

@[simp] theorem nameless_callMethod (v : Value) (name : String) (a : Arguments) : Nameless (v.callMethod name a) := by
  unfold callMethod
  split <;> simp

@[simp] theorem nameless_callUnbound (type name : String) (a : Arguments) : Nameless (callUnbound type name a) := by
  unfold callUnbound
  split <;> simp

end Value
end Conformance
