import Conformance.Proofs.Schema.Reordered
import Conformance.Proofs.Walk.Faults
import Conformance.Proofs.Walk.Safe

/-!
# Tasks of reordered messages

The tasks of two messages that differ in the order of map entries only, by standard rules: they are the same one by
one, and so are the answers of their checks. Rules of single values stand where no map can be; rules of a repeated
field go by equality and length, and those of a map by its length alone.
-/

namespace Conformance

open Rule

variable {s : Schema}

/-! ## Types without maps -/

/-- The values of the type are no messages, or they are messages of a known type. -/
def FieldType.IsPlain (type : FieldType) : Prop := ∀ name, type = .message name → ∃ t ∈ Schema.knownTypes, t.name = name

theorem Schema.plain_known : ∀ t ∈ knownTypes, ∀ f ∈ t.fields, f.shape = .singular ∧ f.type.isMessage = false := by
  decide

theorem FieldType.IsPlain.of_suits {type : FieldType} {kind : String} (h : type.Suits kind) : type.IsPlain := by
  rintro name rfl
  cases h with
  | wrapper hw => exact ⟨_, Schema.mem_known_of_wrapped hw, rfl⟩
  | any => exact ⟨_, List.mem_cons_self, rfl⟩
  | duration => exact ⟨_, List.mem_cons_of_mem _ List.mem_cons_self, rfl⟩
  | timestamp => exact ⟨_, List.mem_cons_of_mem _ (List.mem_cons_of_mem _ List.mem_cons_self), rfl⟩

theorem FieldType.not_message {type : FieldType} (ht : type.isMessage = false) {d : Datum} (hd : type.admits d = true)
    (m : Message) : d ≠ .message m := by
  rintro rfl
  cases type with
  | message name => cases ht
  | _ => cases hd

theorem Datum.Reorders.eq_of_not_message {d e : Datum} (h : d.Reorders e) (hd : ∀ m, d ≠ .message m) : d = e := by
  cases h with
  | plain _ => rfl
  | message hm => exact absurd rfl (hd _)

/-- A message whose fields are all single and no messages has no map that could be reordered. -/
theorem Message.Reorders.eq_of_known {m n : Message} (hs : s.Distinct) {t : MessageType} (ht : t ∈ Schema.knownTypes)
    (htype : m.type = t.name) (hm : m.conforms s = true) (h : m.Reorders n) : m = n := by
  obtain ⟨hfields⟩ := h
  have hall := List.all_eq_true.1 hm
  rw [htype, hs.messageType_known ht] at hall
  clear htype hm
  congr 1
  induction hfields with
  | nil => rfl
  | @cons f g fs gs hf _ ih =>
    obtain ⟨hc⟩ := hf
    rw [ih fun e he => hall e (List.mem_cons_of_mem _ he)]
    obtain ⟨field, hfield, hadmits⟩ := (Option.any_eq_true _ _).1 (hall _ List.mem_cons_self)
    obtain ⟨hshape, hplain⟩ := Schema.plain_known t ht field (List.mem_of_find?_eq_some hfield)
    cases hc with
    | single hd =>
      simp only [Field.admits, hshape, beq_self_eq_true, Bool.true_and] at hadmits
      rw [hd.eq_of_not_message (field.type.not_message hplain hadmits)]
    | «repeated» _ => simp [Field.admits, hshape] at hadmits
    | entries _ _ => simp [Field.admits, hshape] at hadmits

/-- A datum of a type that a field may have, as it is in a message that conforms. -/
structure Datum.Fits (s : Schema) (type : FieldType) (d : Datum) : Prop where
  admits : type.admits d = true
  conforms : d.everywhere (·.conforms s) = true
  keyed : d.everywhere (·.isKeyed) = true

theorem Datum.Reorders.eq_of_isPlain {d e : Datum} (hs : s.Distinct) {type : FieldType} (htype : type.IsPlain)
    (hd : d.Fits s type) (h : d.Reorders e) : d = e := by
  cases h with
  | plain _ => rfl
  | @message m n hm =>
    cases type with
    | message name =>
      obtain ⟨t, ht, hname⟩ := htype name rfl
      have hmtype : m.type = t.name := hname ▸ beq_iff_eq.1 hd.admits
      rw [hm.eq_of_known hs ht hmtype (Message.everywhere_iff.1 hd.conforms).1]
    | _ => cases hd.admits

/-! ## Binding -/

/-- Values that are messages which differ in the order of map entries only. -/
inductive Value.Reorders : Value → Value → Prop
  | message {m n : Message} : m.Reorders n → m.Keyed → Value.Reorders (.message m) (.message n)

theorem Value.Reorders.same_eq {v w x y : Value} (hv : v.Reorders w) (hx : x.Reorders y) : v.same x = w.same y := by
  obtain ⟨hm, -⟩ := hv
  obtain ⟨hn, hkeyed⟩ := hx
  exact hm.same_eq hn hkeyed

theorem distinct_reorders {seen also xs ys : List Value} (hseen : List.Forall₂ Value.Reorders seen also)
    (hxs : List.Forall₂ Value.Reorders xs ys) : Expr.Library.distinct seen xs = Expr.Library.distinct also ys := by
  induction hxs generalizing seen also with
  | nil => rfl
  | @cons x y _ _ hx _ ih =>
    have hany : seen.any (x.same ·) = also.any (y.same ·) := by
      induction hseen with
      | nil => rfl
      | cons hv _ ih => rw [List.any_cons, List.any_cons, hx.same_eq hv, ih]
    rw [Expr.Library.distinct, Expr.Library.distinct, hany, ih (.cons hx hseen)]

theorem Datum.Reorders.bound_of_not_isPlain {d e : Datum} {type : FieldType} (htype : ¬type.IsPlain)
    (hd : d.Fits s type) (h : d.Reorders e) : ∃ v w, d.bound = .ok v ∧ e.bound = .ok w ∧ v.Reorders w := by
  obtain ⟨name, rfl⟩ : ∃ name, type = .message name := by
    by_contra hno
    exact htype fun name hname => absurd ⟨name, hname⟩ hno
  have hname : ∀ t ∈ Schema.knownTypes, t.name ≠ name := by
    rintro t ht rfl
    exact htype fun _ hname => ⟨t, ht, FieldType.message.inj hname⟩
  have hbound (m : Message) (hm : m.type = name) : m.bound = .ok (.message m) := by
    have ht : Schema.timestampName ≠ name :=
      hname _ (List.mem_cons_of_mem _ (List.mem_cons_of_mem _ List.mem_cons_self))
    have hd : Schema.durationName ≠ name := hname _ (List.mem_cons_of_mem _ List.mem_cons_self)
    simp [Message.bound, hm, ht.symm, hd.symm]
  cases h with
  | plain hno =>
    cases d with
    | message m => exact absurd rfl (hno m)
    | _ => cases hd.admits
  | @message m n hm =>
    have htype : m.type = name := beq_iff_eq.1 hd.admits
    exact ⟨_, _, hbound m htype, hbound n (hm.type_eq ▸ htype), .message hm hd.keyed⟩

theorem boundAll_reorders {ds es : List Datum} (hs : s.Distinct) {type : FieldType} (hds : ∀ d ∈ ds, d.Fits s type)
    (h : List.Forall₂ Datum.Reorders ds es) : boundAll ds = boundAll es ∨
      ∃ vs ws, boundAll ds = .ok vs ∧ boundAll es = .ok ws ∧ List.Forall₂ Value.Reorders vs ws := by
  -- All elements are of one type: none of them can differ, or all of them are bound as messages.
  by_cases htype : type.IsPlain
  · left
    congr 1
    induction h with
    | nil => rfl
    | cons hd _ ih =>
      rw [List.forall_mem_cons] at hds
      rw [hd.eq_of_isPlain hs htype hds.1, ih hds.2]
  · right
    induction h with
    | nil => exact ⟨[], [], rfl, rfl, .nil⟩
    | cons hd _ ih =>
      rw [List.forall_mem_cons] at hds
      obtain ⟨v, w, hv, hw, hvw⟩ := hd.bound_of_not_isPlain htype hds.1
      obtain ⟨vs, ws, hvs, hws, hrest⟩ := ih hds.2
      exact ⟨v :: vs, w :: ws, by rw [boundAll, hv, hvs]; rfl, by rw [boundAll, hw, hws]; rfl, .cons hvw hrest⟩

/-- Of the types whose values cannot all be bound, spans are too large, and times are none. -/
def FieldType.unboundFault (type : FieldType) : Fault :=
  if type = .message Schema.timestampName then .badValue else .tooLarge

theorem FieldType.unboundFault_eq {type : FieldType} {d : Datum} {f : Fault} (hd : type.admits d = true)
    (h : d.bound = .error f) : f = type.unboundFault := by
  cases d with
  | message m =>
    cases type with
    | message name =>
      obtain rfl : m.type = name := by simpa [admits] using hd
      change m.bound = .error f at h
      unfold Message.bound at h
      unfold unboundFault
      split at h
      · next ht =>
        split at h <;> cases h
        simp [beq_iff_eq.1 ht]
      · next ht =>
        split at h
        · split at h <;> cases h
          simp [beq_iff_eq.not.1 ht]
        · cases h
    | _ => cases hd
  | _ => cases h

theorem Datum.Reorders.bound_eq_error {d e : Datum} (hs : s.Distinct) {type : FieldType} (hd : d.Fits s type)
    (h : d.Reorders e) (f : Fault) : d.bound = .error f ↔ e.bound = .error f := by
  by_cases htype : type.IsPlain
  · rw [h.eq_of_isPlain hs htype hd]
  · obtain ⟨v, w, hv, hw, -⟩ := h.bound_of_not_isPlain htype hd
    simp [hv, hw]

theorem length_of_boundEntries : ∀ {es : List (Datum × Datum)} {vs : List (Value × Value)},
    boundEntries es = .ok vs → vs.length = es.length
  | [], _, h => by
    cases h
    rfl
  | (k, d) :: es, vs, h => by
    unfold boundEntries at h
    cases hd : d.bound with
    | error f =>
      rw [hd] at h
      cases h
    | ok v =>
      cases hes : boundEntries es with
      | error f =>
        rw [hd, hes] at h
        cases h
      | ok ws =>
        rw [hd, hes] at h
        cases h
        rw [List.length_cons, List.length_cons, length_of_boundEntries hes]

theorem unbound_reorders {es fs gs : List (Datum × Datum)} (hs : s.Distinct) {type : FieldType}
    (hes : ∀ e ∈ es, e.2.Fits s type) (h : List.Forall₂ EntryReorders es fs) (hp : fs.Perm gs) (f : Fault) :
    (∃ e ∈ es, e.2.bound = .error f) ↔ ∃ g ∈ gs, g.2.bound = .error f := by
  have hfs : (∃ e ∈ es, e.2.bound = .error f) ↔ ∃ e ∈ fs, e.2.bound = .error f := by
    clear hp
    induction h with
    | nil => exact Iff.rfl
    | cons he _ ih =>
      obtain ⟨hd⟩ := he
      rw [List.forall_mem_cons] at hes
      rw [List.exists_mem_cons_iff, List.exists_mem_cons_iff, hd.bound_eq_error hs hes.1 f, ih hes.2]
  simp only [hfs, hp.mem_iff]

/-- The entries of a reordered map are as many as before, or they cannot be bound for the same fault: one that any
entry of the map may have. -/
theorem boundEntries_reorders {es fs gs : List (Datum × Datum)} (hs : s.Distinct) {type : FieldType}
    (hes : ∀ e ∈ es, e.2.Fits s type) (h : List.Forall₂ EntryReorders es fs) (hp : fs.Perm gs) :
    (∃ f, boundEntries es = .error f ∧ boundEntries gs = .error f) ∨
      ∃ vs ws, boundEntries es = .ok vs ∧ boundEntries gs = .ok ws ∧ vs.length = ws.length := by
  have hunbound := unbound_reorders hs hes h hp
  have hno {es : List (Datum × Datum)} {vs : List (Value × Value)} {f : Fault} (hok : boundEntries es = .ok vs)
      (he : ∃ e ∈ es, e.2.bound = .error f) : False := by
    obtain ⟨e, he, hf⟩ := he
    obtain ⟨v, hv⟩ := boundEntries_ok_iff.1 ⟨vs, hok⟩ e he
    cases hv.symm.trans hf
  cases hleft : boundEntries es with
  | error f =>
    left
    have hf := mem_of_boundEntries hleft
    cases hright : boundEntries gs with
    | ok ws => exact (hno hright ((hunbound f).1 hf)).elim
    | error g =>
      obtain ⟨e, he, hef⟩ := hf
      obtain ⟨e', he', heg⟩ := (hunbound g).2 (mem_of_boundEntries hright)
      have hsame : f = g :=
        (type.unboundFault_eq (hes e he).admits hef).trans (type.unboundFault_eq (hes e' he').admits heg).symm
      exact ⟨f, rfl, hsame ▸ rfl⟩
  | ok vs =>
    right
    cases hright : boundEntries gs with
    | error g => exact (hno hleft ((hunbound g).2 (mem_of_boundEntries hright))).elim
    | ok ws =>
      refine ⟨vs, ws, rfl, rfl, ?_⟩
      rw [length_of_boundEntries hleft, length_of_boundEntries hright, h.length_eq, hp.length_eq]

/-! ## Checks of collections -/

/-- The checks of typed rules of a kind that has no ranges are tests, those that the rules of the kind are. -/
theorem FieldConstraints.test_of_mem_standard {c : FieldConstraints} {place kind : String} {type : FieldType}
    {tests : List Test} (hkind : ∀ t, c.typed = some t → t.kind = kind) (hranges : hasRanges kind = false)
    (htests : ∀ r ∈ Rule.standard, r.kind = kind → ∃ t ∈ tests, r.form = .test t) {check : Check}
    (h : check ∈ c.standard s place type) : ∃ t ∈ tests, ∃ param, check.form = .test t param := by
  obtain ⟨u, cs, hu, hcs, hmem⟩ := mem_standard h
  have hchecks := (TypedRules.typedChecks_eq_ok.1 hcs).2.2
  rcases Compile.standardChecks_mem hchecks hmem with ⟨a, ha, hcheck⟩ | ⟨lower, low, upper, high, hr, -⟩
  · have hrule : ∃ t ∈ tests, a.rule.form = .test t := by
      obtain ⟨e, -, he⟩ := List.mem_filterMap.1 ha
      obtain ⟨hstandard, hrule, -⟩ := Compile.standard?_eq_some (Compile.active?_eq_some he).1
      exact htests _ hstandard (hrule.trans (hkind u hu))
    obtain ⟨t, ht, hform⟩ := hrule
    obtain ⟨_, -, ⟨t', w, hform', -, rfl⟩ | ⟨_, _, hform', -⟩⟩ := Compile.standardCheck_eq_ok.1 hcheck
    · cases hform.symm.trans hform'
      exact ⟨t, ht, w, rfl⟩
    · cases hform.symm.trans hform'
  · unfold TypedRules.range at hr
    rw [hkind u hu, hranges] at hr
    split at hr <;> cases hr

def repeatedTests : List Test := [.minLength, .maxLength, .unique]

def mapTests : List Test := [.minLength, .maxLength]

theorem repeated_tests : ∀ r ∈ standard, r.kind = "repeated" → ∃ t ∈ repeatedTests, r.form = .test t := by
  decide +kernel

theorem map_tests : ∀ r ∈ standard, r.kind = "map" → ∃ t ∈ mapTests, r.form = .test t := by
  decide +kernel

theorem repeatedTest_reorders {t : Test} (ht : t ∈ repeatedTests) {vs ws : List Value}
    (h : List.Forall₂ Value.Reorders vs ws) (param : Value) : t.holds (.list vs) param = t.holds (.list ws) param := by
  simp only [repeatedTests, List.mem_cons, List.not_mem_nil, or_false] at ht
  rcases ht with rfl | rfl | rfl
  · simp only [Test.holds, size, Value.length?, h.length_eq]
  · simp only [Test.holds, size, Value.length?, h.length_eq]
  · simp only [Test.holds, Value.members?, distinct_reorders .nil h]

theorem mapTest_reorders {t : Test} (ht : t ∈ mapTests) {vs ws : List (Value × Value)} (h : vs.length = ws.length)
    (param : Value) : t.holds (.dict vs) param = t.holds (.dict ws) param := by
  simp only [mapTests, List.mem_cons, List.not_mem_nil, or_false] at ht
  rcases ht with rfl | rfl <;> simp only [Test.holds, size, Value.length?, h]

/-! ## Tasks -/

section
variable {α β : Type} {R : α → α → Prop} {as bs : List α} {f g : α → List β}

theorem forall₂_flatMap {S : β → β → Prop} (hmem : ∀ a ∈ as, ∀ b, R a b → List.Forall₂ S (f a) (g b))
    (h : List.Forall₂ R as bs) : List.Forall₂ S (as.flatMap f) (bs.flatMap g) := by
  induction h with
  | nil => exact .nil
  | cons hab _ ih =>
    rw [List.forall_mem_cons] at hmem
    exact List.rel_append (hmem.1 _ hab) (ih hmem.2)

theorem flatMap_eq_of_forall₂ (hmem : ∀ a ∈ as, ∀ b, R a b → f a = g b) (h : List.Forall₂ R as bs) :
    as.flatMap f = bs.flatMap g := by
  have hequal : List.Forall₂ Eq (as.flatMap f) (bs.flatMap g) :=
    forall₂_flatMap (fun a ha b hab => hmem a ha b hab ▸ List.forall₂_same.2 fun _ _ => rfl) h
  rwa [List.forall₂_eq_eq_eq] at hequal

end

/-- Tasks that come to the same, but for the messages inside, which differ in the order of map entries only. -/
inductive Task.Reorders (s : Schema) (now : Value) : Task → Task → Prop
  | demand {d e : Demand} : d.result s now = e.result s now → Task.Reorders s now (.demand d) (.demand e)
  | inner {type : String} {m n : Message} {path : Path} : m.Reorders n →
    Task.Reorders s now (.inner type m path) (.inner type n path)
  | unbound (f : Fault) : Task.Reorders s now (.unbound f) (.unbound f)

abbrev TasksReorder (s : Schema) (now : Value) : List Task → List Task → Prop := List.Forall₂ (Task.Reorders s now)

section
variable {now : Value} {path : Path} {type : FieldType} {place : String}

theorem Task.Reorders.refl (t : Task) : t.Reorders s now t := by
  cases t with
  | demand d => exact .demand rfl
  | inner name m p => exact .inner (.refl m)
  | unbound f => exact .unbound f

theorem TasksReorder.refl (ts : List Task) : TasksReorder s now ts ts := List.forall₂_same.2 fun t _ => .refl t

theorem TasksReorder.append {as bs cs ds : List Task} (h : TasksReorder s now as bs) (h' : TasksReorder s now cs ds) :
    TasksReorder s now (as ++ cs) (bs ++ ds) := List.rel_append h h'

theorem checkTasks_reorder {v w : Value} {forKey : Bool} {checks : List Check}
    (h : ∀ c ∈ checks, c.run s v now = c.run s w now) :
    TasksReorder s now (checkTasks (.ok v) path forKey checks) (checkTasks (.ok w) path forKey checks) := by
  refine List.forall₂_map_left_iff.2 (List.forall₂_map_right_iff.2 (List.forall₂_same.2 fun c hc => .demand ?_))
  simp only [Demand.result, h c hc]

theorem innerTasks_reorder {nested : Option String} {d e : Datum} (h : d.Reorders e) :
    TasksReorder s now (innerTasks nested d path) (innerTasks nested e path) := by
  cases h with
  | plain _ => exact .refl _
  | message hm =>
    cases nested with
    | none => exact .nil
    | some name => exact .cons (.inner hm) .nil

/-- Typed rules are on values without maps only, and where there are none nothing is asked of the value itself. -/
theorem valueTasks_reorder (hs : s.Distinct) {c : FieldConstraints} (hsuits : ∀ t, c.typed = some t → type.Suits t.kind)
    (hcustom : c.custom = []) {d e : Datum} (hd : d.Fits s type) (h : d.Reorders e) (forKey : Bool) :
    TasksReorder s now ((c.forValue s place type).tasks d path forKey)
      ((c.forValue s place type).tasks e path forKey) := by
  cases htyped : c.typed with
  | some t =>
    obtain rfl := h.eq_of_isPlain hs (.of_suits (hsuits t htyped)) hd
    exact .refl _
  | none =>
    have hstandard : (c.forValue s place type).standard = [] := by
      simp [FieldConstraints.forValue, FieldConstraints.standard, htyped]
    have hcustoms : (c.forValue s place type).custom = [] := by
      simp [FieldConstraints.forValue, hcustom]
    unfold ValueRules.tasks
    rw [hstandard, hcustoms, h.isZero_eq]
    split
    · exact .nil
    · exact innerTasks_reorder h

theorem itemTasks_reorder {r : ValueRules} {ds es : List Datum}
    (hitem : ∀ d ∈ ds, ∀ e path, d.Reorders e → TasksReorder s now (r.tasks d path false) (r.tasks e path false))
    (h : List.Forall₂ Datum.Reorders ds es) (i : Nat) :
    TasksReorder s now (itemTasks r path i ds) (itemTasks r path i es) := by
  induction h generalizing i with
  | nil => exact .nil
  | cons hd _ ih =>
    rw [List.forall_mem_cons] at hitem
    exact (hitem.1 _ _ hd).append (ih hitem.2 (i + 1))

/-! ## Fields and messages -/

variable {f : Field} {u : MessageType} {m n : Message}

theorem wholeTasks_reorder {c : FieldConstraints} {kind : Kind} (hcustom : c.custom = []) {v w : Value}
    (h : ∀ check ∈ c.standard s place type, check.run s v now = check.run s w now) :
    let checks := (c.forWhole s place kind type).standard ++ (c.forWhole s place kind type).custom
    TasksReorder s now (checkTasks (.ok v) path false checks) (checkTasks (.ok w) path false checks) := by
  refine checkTasks_reorder fun check hcheck => h check ?_
  simpa [FieldConstraints.forWhole, hcustom] using hcheck

theorem Check.run_eq_of_test {check : Check} {t : Test} {param : Value} (hform : check.form = .test t param) {v w : Value}
    (h : t.holds v param = t.holds w param) : check.run s v now = check.run s w now := by
  simp only [run, hform, h]

/-- What a field of a message holds, in a message that conforms to its schema and whose maps have different keys. -/
theorem Message.fits_single (hs : s.Distinct) (hf : f ∈ (s.messageType m.type).fields) (hm : m.Conforms s)
    (hkeyed : m.Keyed) {d : Datum} (hd : m.single? f.name = some d) : d.Fits s f.type :=
  ⟨(m.single_admits (Message.everywhere_iff.1 hm).1 (hs.unique m.type f hf) hd).2,
    m.everywhere_single hm hd, m.everywhere_single hkeyed hd⟩

theorem Message.fits_element (hs : s.Distinct) (hf : f ∈ (s.messageType m.type).fields) (hm : m.Conforms s)
    (hkeyed : m.Keyed) {d : Datum} (hd : d ∈ m.elements f.name) : d.Fits s f.type :=
  ⟨m.element_admits (Message.everywhere_iff.1 hm).1 (hs.unique m.type f hf) hd,
    m.everywhere_element hm hd, m.everywhere_element hkeyed hd⟩

theorem Message.fits_entry (hs : s.Distinct) (hf : f ∈ (s.messageType m.type).fields) (hm : m.Conforms s)
    (hkeyed : m.Keyed) {key : Scalar} (hshape : f.shape = .map key) {e : Datum × Datum} (he : e ∈ m.entries f.name) :
    e.2.Fits s f.type :=
  ⟨(m.entry_admits (Message.everywhere_iff.1 hm).1 (hs.unique m.type f hf) hshape he).2,
    (m.everywhere_entry hm he).2, (m.everywhere_entry hkeyed he).2⟩

theorem repeatedTasks_reorder (hs : s.Distinct) {c : FieldConstraints} {kind : Kind}
    (hkind : ∀ t, c.typed = some t → t.kind = "repeated") (hcustom : c.custom = []) {ds es : List Datum}
    (hds : ∀ d ∈ ds, d.Fits s type) (h : List.Forall₂ Datum.Reorders ds es) :
    let checks := (c.forWhole s place kind type).standard ++ (c.forWhole s place kind type).custom
    TasksReorder s now (checkTasks ((boundAll ds).map .list) path false checks)
      (checkTasks ((boundAll es).map .list) path false checks) := by
  intro checks
  obtain heq | ⟨vs, ws, hvs, hws, hvalues⟩ := boundAll_reorders hs hds h
  · rw [heq]
    exact .refl _
  · rw [hvs, hws]
    refine wholeTasks_reorder hcustom fun check hcheck => ?_
    obtain ⟨t, ht, param, hform⟩ := FieldConstraints.test_of_mem_standard hkind rfl repeated_tests hcheck
    exact Check.run_eq_of_test hform (repeatedTest_reorders ht hvalues param)

theorem mapTasks_reorder (hs : s.Distinct) {c : FieldConstraints} {kind : Kind}
    (hkind : ∀ t, c.typed = some t → t.kind = "map") (hcustom : c.custom = []) {es fs gs : List (Datum × Datum)}
    (hes : ∀ e ∈ es, e.2.Fits s type) (h : List.Forall₂ EntryReorders es fs) (hp : fs.Perm gs) :
    let checks := (c.forWhole s place kind type).standard ++ (c.forWhole s place kind type).custom
    TasksReorder s now (checkTasks ((boundEntries es).map .dict) path false checks)
      (checkTasks ((boundEntries gs).map .dict) path false checks) := by
  intro checks
  obtain ⟨fault, hleft, hright⟩ | ⟨vs, ws, hvs, hws, hlength⟩ := boundEntries_reorders hs hes h hp
  · rw [hleft, hright]
    exact .refl _
  · rw [hvs, hws]
    refine wholeTasks_reorder hcustom fun check hcheck => ?_
    obtain ⟨t, ht, param, hform⟩ := FieldConstraints.test_of_mem_standard hkind rfl map_tests hcheck
    exact Check.run_eq_of_test hform (mapTest_reorders ht hlength param)

theorem heldTasks_reorder (hs : s.Distinct) (hf : f ∈ (s.messageType m.type).fields) (hsuited : f.Suited)
    (hcustom : (f.constraints.getD {}).IsStandard) (hm : m.Conforms s) (hkeyed : m.Keyed) (h : m.Reorders n) :
    TasksReorder s now ((f.rules s u).heldTasks m path) ((f.rules s u).heldTasks n path) := by
  unfold Field.rules FieldRules.heldTasks
  unfold Field.Suited at hsuited
  cases hshape : f.shape with
  | singular =>
    simp only [hshape] at hsuited ⊢
    have hsingle := h.single f.name
    have hfits := fun d hd => @Message.fits_single s f m hs hf hm hkeyed d hd
    unfold Field.valueIn
    generalize m.single? f.name = d, n.single? f.name = e at hsingle hfits
    cases hsingle with
    | none => exact .refl _
    | some hd => exact valueTasks_reorder hs hsuited hcustom.own (hfits _ rfl) hd false
  | «repeated» =>
    simp only [hshape] at hsuited ⊢
    obtain ⟨hwhole, hitems⟩ := hsuited
    have hfits := fun d hd => @Message.fits_element s f m hs hf hm hkeyed d hd
    have helements := h.elements f.name
    refine (repeatedTasks_reorder hs hwhole hcustom.own hfits helements).append ?_
    refine itemTasks_reorder (fun d hd e p hde => ?_) helements 0
    exact valueTasks_reorder hs hitems hcustom.items (hfits d hd) hde false
  | map key =>
    simp only [hshape] at hsuited ⊢
    obtain ⟨hwhole, -, hvalues⟩ := hsuited
    have hfits := fun e he => @Message.fits_entry s f m hs hf hm hkeyed key hshape e he
    obtain ⟨fs, hentries, hp⟩ := h.entries f.name
    refine (mapTasks_reorder hs hwhole hcustom.own hfits hentries hp).append ?_
    -- Entries are visited in the order of their keys, so that they stand side by side; their keys are the same.
    have hdistinct := m.nodup_entries (Message.everywhere_iff.1 hkeyed).1 f.name
    refine forall₂_flatMap (fun e he g heg => ?_) (inKeyOrder_reorders hdistinct hentries hp)
    obtain ⟨hd⟩ := heg
    have hmem := (inKeyOrder_perm _).mem_iff.1 he
    exact (TasksReorder.refl _).append (valueTasks_reorder hs hvalues hcustom.values (hfits _ hmem) hd false)

theorem isEmpty_eq_of_length {α : Type} {xs ys : List α} (h : xs.length = ys.length) : xs.isEmpty = ys.isEmpty := by
  rw [Bool.eq_iff_iff, List.isEmpty_iff_length_eq_zero, List.isEmpty_iff_length_eq_zero, h]

/-- A single value that is no message is the same in both. -/
theorem Field.isSetIn_reorders (hs : s.Distinct) (hf : f ∈ (s.messageType m.type).fields) (hm : m.Conforms s)
    (hkeyed : m.Keyed) (h : m.Reorders n) : f.isSetIn m = f.isSetIn n := by
  unfold isSetIn
  cases hshape : f.shape with
  | singular =>
    have hsingle := h.single f.name
    have hfits := fun d hd => @Message.fits_single s f m hs hf hm hkeyed d hd
    unfold differsIn valueIn
    generalize m.single? f.name = d, n.single? f.name = e at hsingle hfits
    cases hsingle with
    | none => rfl
    | @some d e hd =>
      cases hp : f.hasPresence with
      | true => rfl
      | false =>
        have htype : f.type.isMessage = false := by
          cases ht : f.type with
          | message name => exact absurd (f.presence name ht hshape) (by simp [hp])
          | _ => rfl
        rw [hd.eq_of_not_message (f.type.not_message htype (hfits d rfl).admits)]
  | «repeated» =>
    simp only [isEmpty_eq_of_length (h.elements f.name).length_eq]
  | map key =>
    obtain ⟨fs, hentries, hp⟩ := h.entries f.name
    simp only [isEmpty_eq_of_length (hentries.length_eq.trans hp.length_eq)]

theorem fieldTasks_reorder (hs : s.Distinct) (hf : f ∈ (s.messageType m.type).fields) (hsuited : f.Suited)
    (hcustom : (f.constraints.getD {}).IsStandard) (hm : m.Conforms s) (hkeyed : m.Keyed) (h : m.Reorders n) :
    TasksReorder s now ((f.rules s u).tasks m path) ((f.rules s u).tasks n path) := by
  have hset := f.isSetIn_reorders hs hf hm hkeyed h
  have hheld := @heldTasks_reorder s now (path ++ [.field f.name]) f u m n hs hf hsuited hcustom hm hkeyed h
  unfold FieldRules.tasks
  rw [f.rules_field, hset]
  dsimp only
  split
  · exact hheld
  · split
    · exact .refl _
    · split
      · exact .nil
      · exact hheld

theorem MessageType.chosen?_reorders (h : m.Reorders n) (oneof : String) : u.chosen? oneof m = u.chosen? oneof n := by
  simp only [chosen?, h.isSet_eq]

/-- The tasks of a message of a type that compiles without expressions are those of its reorderings. -/
theorem MessageType.tasks_reorder (hs : s.Distinct) (hc : s.Compiles m.type)
    (hstandard : (s.messageType m.type).IsStandard) (hm : m.Conforms s) (hkeyed : m.Keyed) (h : m.Reorders n) :
    TasksReorder s now ((s.rules m.type).tasks (s.messageType m.type) m path)
      ((s.rules m.type).tasks (s.messageType m.type) n path) := by
  obtain ⟨rules, hrules⟩ := hc
  cases hd : (s.messageType m.type).constraints.any (·.disabled) with
  | true =>
    have hdisabled : (s.rules m.type).disabled = true := by
      rw [Schema.rules, MessageType.rules_disabled, hd]
    have hnone (m' : Message) : (s.rules m.type).tasks (s.messageType m.type) m' path = [] :=
      MessageType.tasks_of_disabled hdisabled
    rw [hnone, hnone]
    exact .nil
  | false =>
    have hfields := Compile.suited_of_typeRules hrules hd
    simp only [Schema.rules, MessageType.rules, hd, Bool.false_eq_true, if_false, TypeRules.tasks, hstandard.own,
      List.filterMap_nil, checkTasks, List.map_nil, List.append_nil]
    refine TasksReorder.append ?_ ?_
    · rw [List.flatMap_map, List.flatMap_map]
      refine forall₂_flatMap (fun f hf g hfg => ?_) (List.forall₂_same.2 fun f _ => Eq.refl f)
      subst hfg
      exact fieldTasks_reorder hs hf (hfields f hf) (hstandard.field hf) hm hkeyed h
    · simp only [OneofRule.tasks, MessageType.chosen?_reorders h]
      exact .refl _

end

end Conformance
