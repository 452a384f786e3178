import Conformance.Proofs.Constraint.Accepted
import Conformance.Proofs.Walk.Inner

/-!
# Tasks without faults

The tasks of a message that conforms to its schema: all its values can be bound, and the standard rules that its
type compiles to give a truth value on them.
-/

namespace Conformance

/-! ## Regular schemas -/

/-- Names of fields are unique, defaults are values of their types, and constraints are read from options. -/
structure MessageType.Regular (t : MessageType) : Prop where
  unique : ∀ f ∈ t.fields, t.field? f.name = some f
  defaults : ∀ f ∈ t.fields, f.HasDefault
  declared : t.Declared

/-- All types are regular, and none of them has a known name. -/
structure Schema.Regular (s : Schema) : Prop where
  types : ∀ t ∈ s.messages, t.Regular
  known : ∀ t ∈ s.messages, ∀ k ∈ Schema.knownTypes, t.name ≠ k.name

/-- Names are unique: those of the fields of a type, and those of the known types among all types. -/
structure Schema.Distinct (s : Schema) : Prop where
  fields : ∀ t ∈ s.messages, ∀ f ∈ t.fields, t.field? f.name = some f
  known : ∀ t ∈ s.messages, ∀ k ∈ Schema.knownTypes, t.name ≠ k.name

/-- Constraints without expressions, down to those of elements, keys and values. -/
structure FieldConstraints.IsStandard (c : FieldConstraints) : Prop where
  own : c.custom = []
  items : (c.items.getD {}).custom = []
  keys : (c.keys.getD {}).custom = []
  values : (c.values.getD {}).custom = []

/-- No expression is declared for the type or its fields. -/
structure MessageType.IsStandard (t : MessageType) : Prop where
  whole : ∀ c, t.constraints = some c → c.custom = []
  fields : ∀ f ∈ t.fields, ∀ c, f.constraints = some c → c.IsStandard

namespace MessageType.IsStandard

variable {t : MessageType}

theorem own (h : t.IsStandard) : (t.constraints.map (·.custom)).getD [] = [] := by
  cases hc : t.constraints with
  | none => rfl
  | some c => exact h.whole c hc

theorem field (h : t.IsStandard) {f : Field} (hf : f ∈ t.fields) : (f.constraints.getD {}).IsStandard := by
  cases hc : f.constraints with
  | none => exact ⟨rfl, rfl, rfl, rfl⟩
  | some c => exact h.fields f hf c hc

end MessageType.IsStandard

theorem Schema.regular_known : ∀ t ∈ knownTypes, t.Regular := by
  have hplain (name : String) (fields : List Field)
      (hunique : ∀ f ∈ fields, (plainType name fields).field? f.name = some f)
      (hfields : ∀ f ∈ fields, ∃ n k t, f = plainField n k t) : (plainType name fields).Regular := by
    refine ⟨hunique, fun f hf _ => ?_, fun f hf c hc => ?_⟩
    · obtain ⟨n, k, t, rfl⟩ := hfields f hf
      exact t.admits_zero
    · obtain ⟨n, k, t, rfl⟩ := hfields f hf
      cases hc
  intro t ht
  rcases List.mem_append.1 ht with ht | ht
  · simp only [List.mem_cons, List.not_mem_nil, or_false] at ht
    rcases ht with rfl | rfl | rfl
    all_goals
      refine hplain _ _ ?_ ?_
      · simp [plainType, plainField, MessageType.field?]
      · simp
  · obtain ⟨⟨name, type⟩, -, rfl⟩ := List.mem_map.1 ht
    refine hplain _ _ ?_ ?_
    · simp [plainType, plainField, MessageType.field?]
    · simp

theorem Schema.find?_known : ∀ t ∈ knownTypes, knownTypes.find? (·.name == t.name) = some t := by
  intro t ht
  rcases List.mem_append.1 ht with ht | ht
  · simp only [List.mem_cons, List.not_mem_nil, or_false] at ht
    rcases ht with rfl | rfl | rfl <;> rfl
  · obtain ⟨e, he, rfl⟩ := List.mem_map.1 ht
    simp only [wrappers, List.mem_cons, List.not_mem_nil, or_false] at he
    rcases he with rfl | rfl | rfl | rfl | rfl | rfl | rfl | rfl | rfl <;> rfl

theorem Schema.mem_known_of_wrapped {name : String} {w : Scalar} (hw : wrapped? name = some w) :
    plainType name [plainField "value" 1 w] ∈ knownTypes :=
  List.mem_append_right _ (List.mem_map.2 ⟨(name, w), mem_of_lookup hw, rfl⟩)

namespace Schema.Regular

variable {s : Schema}

theorem messageType (hs : s.Regular) (name : String) : (s.messageType name).Regular := by
  unfold Schema.messageType Schema.message?
  cases ht : s.types.find? (·.name == name) with
  | none => exact ⟨fun f hf => absurd hf List.not_mem_nil, fun f hf => absurd hf List.not_mem_nil,
      fun f hf => absurd hf List.not_mem_nil⟩
  | some t =>
    rcases List.mem_append.1 (List.mem_of_find?_eq_some ht) with hmem | hmem
    · exact hs.types t hmem
    · exact Schema.regular_known t hmem

theorem distinct (hs : s.Regular) : s.Distinct := ⟨fun t ht => (hs.types t ht).unique, hs.known⟩

end Schema.Regular

namespace Schema.Distinct

variable {s : Schema}

theorem unique (hs : s.Distinct) (name : String) :
    ∀ f ∈ (s.messageType name).fields, (s.messageType name).field? f.name = some f := by
  unfold Schema.messageType Schema.message?
  cases ht : s.types.find? (·.name == name) with
  | none => exact fun f hf => absurd hf List.not_mem_nil
  | some t =>
    rcases List.mem_append.1 (List.mem_of_find?_eq_some ht) with hmem | hmem
    · exact hs.fields t hmem
    · exact (Schema.regular_known t hmem).unique

theorem messageType_known (hs : s.Distinct) {t : MessageType} (ht : t ∈ knownTypes) : s.messageType t.name = t := by
  have hmessages : s.messages.find? (·.name == t.name) = none := by
    apply List.find?_eq_none.2
    intro u hu hname
    exact hs.known u hu t ht (by simpa using hname)
  simp [Schema.messageType, Schema.message?, Schema.types, List.find?_append, hmessages, Schema.find?_known t ht]

/-- A wrapper has the one field that its scalar is in. -/
theorem wrapper (hs : s.Distinct) {name : String} {w : Scalar} (hw : Schema.wrapped? name = some w) :
    s.messageType name = plainType name [plainField "value" 1 w] :=
  hs.messageType_known (Schema.mem_known_of_wrapped hw)

end Schema.Distinct

/-! ## Kinds of typed rules -/

/-- Typed rules stand only where values of their kind are. -/
def Field.Suited (f : Field) : Prop :=
  let c := f.constraints.getD {}
  match f.shape with
  | .singular => ∀ t, c.typed = some t → f.type.Suits t.kind
  | .repeated => (∀ t, c.typed = some t → t.kind = "repeated") ∧
      ∀ t, (c.items.getD {}).typed = some t → f.type.Suits t.kind
  | .map key => (∀ t, c.typed = some t → t.kind = "map") ∧
      (∀ t, (c.keys.getD {}).typed = some t → (FieldType.scalar key).Suits t.kind) ∧
      ∀ t, (c.values.getD {}).typed = some t → f.type.Suits t.kind

namespace Compile

variable {s : Schema} {place : String} {type : FieldType}

theorem suits_of_valueRules {c : FieldConstraints} {r : ValueRules} (h : (valueRules s place type c).outcome = .ok r) :
    ∀ t, c.typed = some t → type.Suits t.kind := by
  intro t ht
  obtain ⟨checks, hchecks, -⟩ := valueRules_eq_ok.1 h
  apply suits_iff.2
  cases ha : applies? t.kind type with
  | some isWrapper => rfl
  | none =>
    simp only [valueChecks, ht, ha] at hchecks
    cases hchecks

theorem suits_of_elementRules {c : Option FieldConstraints} {r : ValueRules}
    (h : (elementRules s place type c).outcome = .ok r) : ∀ t, (c.getD {}).typed = some t → type.Suits t.kind :=
  suits_of_valueRules (elementRules_eq_ok.1 h).2

theorem suited_of_fieldRules {t : MessageType} {f : Field} {r : FieldRules}
    (h : (fieldRules s t f).outcome = .ok r) : f.Suited := by
  unfold Field.Suited
  cases hs : f.shape with
  | map key =>
    obtain ⟨u, hu, _, _, _, hkeys, _, hvalues, -⟩ := (fieldRules_map hs).1 h
    exact ⟨onlyOfKind_ok_iff.1 ⟨u, hu⟩, suits_of_elementRules hkeys, suits_of_elementRules hvalues⟩
  | «repeated» =>
    obtain ⟨u, hu, _, _, _, hitems, -⟩ := (fieldRules_repeated hs).1 h
    exact ⟨onlyOfKind_ok_iff.1 ⟨u, hu⟩, suits_of_elementRules hitems⟩
  | singular =>
    obtain ⟨_, hvalue, -⟩ := (fieldRules_singular hs).1 h
    exact suits_of_valueRules hvalue

theorem suited_of_typeRules {t : MessageType} {r : TypeRules} (h : (typeRules s t).outcome = .ok r)
    (hd : t.constraints.any (·.disabled) = false) : ∀ f ∈ t.fields, f.Suited := by
  obtain ⟨_, _, fields, hfields, -⟩ := (typeRules_eq_ok hd).1 h
  intro f hf
  obtain ⟨r, hr⟩ := (ok_mapM_iff (steady_fieldRules s t)).1 ⟨fields, hfields⟩ f hf
  exact suited_of_fieldRules hr

end Compile

/-! ## Single values -/

/-- A value can be bound, and the checks that are demanded of it give truth values. -/
def Task.IsSafe (s : Schema) (now : Value) : Task → Prop
  | demand (.check c v _ _) => c.Decides s v now
  | unbound _ => False
  | _ => True

/-- All messages inside of a datum conform, and can be bound. -/
def Datum.IsSound (s : Schema) (d : Datum) : Prop :=
  d.everywhere (·.conforms s) = true ∧ d.everywhere (·.isBound) = true

theorem Datum.isSound_of_scalar {s : Schema} {w : Scalar} {d : Datum} (h : w.admits d = true) : d.IsSound s := by
  cases d with
  | message m => cases h
  | _ => exact ⟨rfl, rfl⟩

section
variable {s : Schema} {now : Value} {type : FieldType} {d : Datum} {path : Path} {forKey : Bool}

theorem applies?_eq_some {kind : String} {isWrapper : Bool} (h : Compile.applies? kind type = some isWrapper) :
    (isWrapper = false ∧ type.unwrapped = type) ∨
      isWrapper = true ∧ ∃ name w, type = .message name ∧ Schema.wrapped? name = some w ∧
        type.unwrapped = .scalar w := by
  unfold Compile.applies? at h
  split at h
  · split at h
    · cases h
      exact .inl ⟨rfl, rfl⟩
    · cases h
  · split at h
    · cases h
      exact .inl ⟨rfl, rfl⟩
    · cases h
  · next name =>
    split at h
    · next hw =>
      cases h
      obtain ⟨w, hw, -⟩ := (Option.any_eq_true _ _).1 hw
      exact .inr ⟨rfl, name, w, rfl, hw, by simp [FieldType.unwrapped, hw]⟩
    · split at h
      · next hmem =>
        cases h
        simp only [List.contains_eq_mem, List.mem_cons, List.not_mem_nil, or_false, Prod.mk.injEq,
          decide_eq_true_eq] at hmem
        rcases hmem with ⟨rfl, -⟩ | ⟨rfl, -⟩ | ⟨rfl, -⟩ <;> exact .inl ⟨rfl, rfl⟩
      · cases h

theorem unwrapped_holds (hs : s.Regular) {kind : String} {isWrapper : Bool}
    (ha : Compile.applies? kind type = some isWrapper) (hd : type.admits d = true) (hsound : d.IsSound s) :
    ∃ v, (if isWrapper then d.unwrapped else d).bound = .ok v ∧ type.unwrapped.domain.Holds v := by
  rcases applies?_eq_some ha with ⟨rfl, hunwrapped⟩ | ⟨rfl, name, w, rfl, hw, hunwrapped⟩
  · rw [hunwrapped]
    obtain ⟨v, hv⟩ := Datum.bound_ok hsound.2
    exact ⟨v, hv, type.holds_of_bound hd hv⟩
  · rw [hunwrapped]
    cases d with
    | message m =>
      obtain rfl : m.type = name := by simpa [FieldType.admits] using hd
      have hm : m.conforms s = true := (Message.everywhere_iff.1 hsound.1).1
      have hfield : (s.messageType m.type).field? "value" = some (Schema.plainField "value" 1 w) := by
        rw [hs.distinct.wrapper hw]
        rfl
      have heq : (Datum.message m).unwrapped = (m.single? "value").getD w.zero := by
        simp [Datum.unwrapped, hw]
      have hadmits : w.admits (Datum.message m).unwrapped = true := by
        rw [heq]
        -- A wrapper whose field is unset stands for zero.
        cases hvalue : m.single? "value" with
        | none => exact w.admits_zero
        | some d => exact (m.single_admits hm hfield hvalue).2
      exact ⟨_, Scalar.domain_holds hadmits⟩
    | _ => cases hd

theorem safe_checkTasks {bound : Except Fault Value} {v : Value} (hv : bound = .ok v) {checks : List Check}
    (hc : ∀ c ∈ checks, c.Decides s v now) : ∀ t ∈ checkTasks bound path forKey checks, t.IsSafe s now := by
  intro t ht
  rw [hv] at ht
  obtain ⟨c, hmem, rfl⟩ := List.mem_map.1 ht
  exact hc c hmem

theorem safe_innerTasks {nested : Option String} : ∀ t ∈ innerTasks nested d path, t.IsSafe s now := by
  intro t ht
  unfold innerTasks at ht
  split at ht
  · obtain rfl := List.mem_singleton.1 ht
    exact trivial
  · cases ht

theorem standard_decides {c : FieldConstraints} {place : String} {d : Domain} (hc : c.Declared)
    (hd : ∀ t, c.typed = some t → Rule.kindDomain t.kind = some d) (hn : Domain.instant.Holds now) {v : Value}
    (hv : d.Holds v) : ∀ check ∈ c.standard s place type, check.Decides s v now := by
  intro check hcheck
  obtain ⟨t, cs, ht, hcs, hmem⟩ := FieldConstraints.mem_standard hcheck
  exact (hc.typed ht).decides (hd t ht) hcs hmem hv hn

theorem safe_valueTasks (hs : s.Regular) {c : FieldConstraints} {place : String} (hc : c.Declared)
    (hsuits : ∀ t, c.typed = some t → type.Suits t.kind) (hcustom : c.custom = []) (hd : type.admits d = true)
    (hsound : d.IsSound s) (hn : Domain.instant.Holds now) :
    ∀ t ∈ (c.forValue s place type).tasks d path forKey, t.IsSafe s now := by
  intro t ht
  unfold ValueRules.tasks at ht
  split at ht
  · cases ht
  · rcases List.mem_append.1 ht with ht | ht
    · split at ht
      · cases ht
      · next hsome =>
        -- Values are bound only where there are checks, and these are those of typed rules.
        cases htyped : c.typed with
        | none => simp [FieldConstraints.forValue, FieldConstraints.standard, htyped, hcustom] at hsome
        | some r =>
          obtain ⟨isWrapper, ha⟩ := Option.isSome_iff_exists.1 (Compile.suits_iff.1 (hsuits r htyped))
          have hwrapper : (c.forValue s place type).isWrapper = isWrapper := by
            simp [FieldConstraints.forValue, htyped, ha]
          obtain ⟨v, hv, hholds⟩ := unwrapped_holds hs ha hd hsound
          have hkind : ∀ t, c.typed = some t → Rule.kindDomain t.kind = some type.unwrapped.domain := by
            exact fun t ht => (Compile.domain_of_suits (hsuits t ht)).1
          refine safe_checkTasks (by rw [hwrapper]; exact hv) (fun check hcheck => ?_) t ht
          have hmem : check ∈ c.standard s place type := by
            simpa [FieldConstraints.forValue, hcustom] using hcheck
          exact standard_decides hc hkind hn hholds check hmem
    · exact safe_innerTasks t ht

/-! ## Fields -/

variable {f : Field} {m : Message} {u : MessageType}

theorem safe_wholeTasks {c : FieldConstraints} {place name : String} {kind : Kind} {d : Domain} (hc : c.Declared)
    (hkind : ∀ t, c.typed = some t → t.kind = name) (hcustom : c.custom = []) (hd : Rule.kindDomain name = some d)
    (hn : Domain.instant.Holds now) {bound : Except Fault Value} {v : Value} (hb : bound = .ok v) (hv : d.Holds v) :
    ∀ t ∈ checkTasks bound path false
      ((c.forWhole s place kind type).standard ++ (c.forWhole s place kind type).custom), t.IsSafe s now := by
  refine safe_checkTasks hb fun check hcheck => ?_
  have hmem : check ∈ c.standard s place type := by
    simpa [FieldConstraints.forWhole, hcustom] using hcheck
  refine standard_decides hc (fun t ht => ?_) hn hv check hmem
  rw [hkind t ht]
  exact hd

theorem valueIn_sound {t : MessageType} (hregular : t.Regular) (hf : f ∈ t.fields) (htype : s.messageType m.type = t)
    (hm : m.Conforms s) (hbound : m.InTime) (hset : f.type.isMessage = false ∨ (m.single? f.name).isSome) :
    f.type.admits (f.valueIn m) = true ∧ (f.valueIn m).IsSound s := by
  have hconf : m.conforms s = true := (Message.everywhere_iff.1 hm).1
  have hfield : (s.messageType m.type).field? f.name = some f := by
    rw [htype]
    exact hregular.unique f hf
  have hadmits := f.admits_valueIn hconf hfield (hregular.defaults f hf) hset
  refine ⟨hadmits, ?_⟩
  cases hd : m.single? f.name with
  | some d =>
    have hvalue : f.valueIn m = d := by simp [Field.valueIn, hd]
    rw [hvalue]
    exact ⟨m.everywhere_single hm hd, m.everywhere_single hbound hd⟩
  | none =>
    have hno : f.type.isMessage = false := by simpa [hd] using hset
    cases hft : f.type with
    | message name => simp [hft, FieldType.isMessage] at hno
    | scalar w =>
      rw [hft] at hadmits
      exact Datum.isSound_of_scalar (w := w) hadmits
    | enum name =>
      rw [hft] at hadmits
      exact Datum.isSound_of_scalar (w := .int32) hadmits

theorem safe_heldTasks (hs : s.Regular) {u : MessageType} (hregular : u.Regular) (hstandard : u.IsStandard)
    (hf : f ∈ u.fields) (hsuited : f.Suited) (htype : s.messageType m.type = u) (hm : m.Conforms s) (hbound : m.InTime)
    (hn : Domain.instant.Holds now) (hset : f.isSetIn m = true ∨ (f.rules s u).hasPresence = false) :
    ∀ t ∈ (f.rules s u).heldTasks m path, t.IsSafe s now := by
  have hconf : m.conforms s = true := (Message.everywhere_iff.1 hm).1
  have hfield : (s.messageType m.type).field? f.name = some f := by
    rw [htype]
    exact hregular.unique f hf
  have hc : (f.constraints.getD {}).Declared := FieldConstraints.Declared.getD (hregular.declared f hf)
  have hcustom : (f.constraints.getD {}).IsStandard := hstandard.field hf
  unfold Field.rules FieldRules.hasPresence Field.isRepeated at hset
  unfold Field.rules FieldRules.heldTasks
  unfold Field.Suited at hsuited
  cases hshape : f.shape with
  | singular =>
    simp only [hshape] at hset hsuited ⊢
    -- Messages have presence, so an unset one is not looked at.
    have hsingle : f.type.isMessage = false ∨ (m.single? f.name).isSome := by
      cases hft : f.type with
      | message name =>
        have hp := f.presence name hft hshape
        exact .inr (by simpa [Field.isSetIn, hshape, hp] using hset)
      | _ => exact .inl rfl
    obtain ⟨hadmits, hsound⟩ := valueIn_sound hregular hf htype hm hbound hsingle
    exact safe_valueTasks hs hc hsuited hcustom.own hadmits hsound hn
  | «repeated» =>
    simp only [hshape] at hsuited ⊢
    obtain ⟨hwhole, hitems⟩ := hsuited
    have hadmits : ∀ d ∈ m.elements f.name, f.type.admits d = true := fun d hd =>
      m.element_admits hconf hfield hd
    obtain ⟨vs, hvs⟩ := boundAll_ok fun d hd => m.everywhere_element hbound hd
    intro t ht
    rcases List.mem_append.1 ht with ht | ht
    · exact safe_wholeTasks hc hwhole hcustom.own (d := .list) rfl hn (by rw [hvs]; rfl) (.list vs) t ht
    · obtain ⟨i, d, hi, ht⟩ := mem_itemTasks.1 ht
      have hd := List.mem_of_getElem? hi
      exact safe_valueTasks hs hc.items hitems hcustom.items (hadmits d hd)
        ⟨m.everywhere_element hm hd, m.everywhere_element hbound hd⟩ hn t ht
  | map key =>
    simp only [hshape] at hsuited ⊢
    obtain ⟨hwhole, hkeys, hvalues⟩ := hsuited
    have hadmits : ∀ e ∈ m.entries f.name, key.admits e.1 = true ∧ f.type.admits e.2 = true := fun e he =>
      m.entry_admits hconf hfield hshape he
    obtain ⟨vs, hvs⟩ := boundEntries_ok fun e he => (m.everywhere_entry hbound he).2
    intro t ht
    rcases List.mem_append.1 ht with ht | ht
    · exact safe_wholeTasks hc hwhole hcustom.own (d := .dict) rfl hn (by rw [hvs]; rfl) (.dict vs) t ht
    · obtain ⟨e, he, ht⟩ := List.mem_flatMap.1 ht
      rw [(inKeyOrder_perm _).mem_iff] at he
      rcases List.mem_append.1 ht with ht | ht
      · have hkey : (FieldType.scalar key).admits e.1 = true := (hadmits e he).1
        exact safe_valueTasks hs hc.keys hkeys hcustom.keys hkey (Datum.isSound_of_scalar (hadmits e he).1) hn t ht
      · exact safe_valueTasks hs hc.values hvalues hcustom.values (hadmits e he).2
          ⟨(m.everywhere_entry hm he).2, (m.everywhere_entry hbound he).2⟩ hn t ht

theorem safe_fieldTasks (hs : s.Regular) {u : MessageType} (hregular : u.Regular) (hstandard : u.IsStandard)
    (hf : f ∈ u.fields) (hsuited : f.Suited) (htype : s.messageType m.type = u) (hm : m.Conforms s) (hbound : m.InTime)
    (hn : Domain.instant.Holds now) : ∀ t ∈ (f.rules s u).tasks m path, t.IsSafe s now := by
  intro t ht
  unfold FieldRules.tasks at ht
  dsimp only at ht
  rw [f.rules_field] at ht
  by_cases hset : f.isSetIn m = true
  · rw [if_pos hset] at ht
    exact safe_heldTasks hs hregular hstandard hf hsuited htype hm hbound hn (.inl hset) t ht
  · rw [if_neg hset] at ht
    split at ht
    · obtain rfl := List.mem_singleton.1 ht
      exact trivial
    · split at ht
      · cases ht
      · next hpresence =>
        have hno : (f.rules s u).hasPresence = false := by
          by_contra hp
          simp [hp] at hpresence
        exact safe_heldTasks hs hregular hstandard hf hsuited htype hm hbound hn (.inr hno) t ht

/-- All tasks of a message that conforms are without faults, if its type compiles without expressions. -/
theorem MessageType.safe_tasks (hs : s.Regular) {name : String} (hc : s.Compiles name)
    (hstandard : (s.messageType name).IsStandard) (hname : m.type = name) (hm : m.Conforms s) (hbound : m.InTime)
    (hn : Domain.instant.Holds now) :
    ∀ t ∈ (s.rules name).tasks (s.messageType name) m path, t.IsSafe s now := by
  have hregular := hs.messageType name
  obtain ⟨rules, hrules⟩ := hc
  cases hd : (s.messageType name).constraints.any (·.disabled) with
  | true =>
    intro t ht
    have hdisabled : (s.rules name).disabled = true := by
      rw [Schema.rules, MessageType.rules_disabled, hd]
    have hnone : (s.rules name).tasks (s.messageType name) m path = [] := MessageType.tasks_of_disabled hdisabled
    rw [hnone] at ht
    cases ht
  | false =>
    have hfields := Compile.suited_of_typeRules hrules hd
    intro t ht
    simp only [Schema.rules, MessageType.rules, hd, Bool.false_eq_true, if_false, TypeRules.tasks, hstandard.own,
      List.filterMap_nil, checkTasks, List.map_nil, List.append_nil] at ht
    rcases List.mem_append.1 ht with ht | ht
    · obtain ⟨r, hr, ht⟩ := List.mem_flatMap.1 ht
      obtain ⟨f, hf, rfl⟩ := List.mem_map.1 hr
      exact safe_fieldTasks hs hregular hstandard hf (hfields f hf) (by rw [hname]) hm hbound hn t ht
    · obtain ⟨o, -, ht⟩ := List.mem_flatMap.1 ht
      unfold OneofRule.tasks at ht
      split at ht
      · obtain rfl := List.mem_singleton.1 ht
        exact trivial
      · cases ht

end
end Conformance
