import Conformance.Proofs.Report.Rendering
import Conformance.Proofs.Schema.Conforming
import Conformance.Proofs.Walk.Inner

/-!
# Places in a message

Where a path leads to, from a message on: to a field or a oneof of a message, to an element of a repeated field that is
there, or to an entry of a map that is there. A path goes on below a field only where the field holds a message. In a
schema whose names can be told apart, different paths that lead somewhere have different texts.
-/

namespace Conformance

/-! ## Names and keys that can be told apart -/

/-- Fields and oneofs share one scope, and have names that a schema may give them. -/
structure MessageType.Named (t : MessageType) : Prop where
  fields : ∀ f ∈ t.fields, isFieldName f.name = true ∧ t.field? f.name = some f
  oneofs : ∀ o ∈ t.oneofs, isFieldName o.name = true ∧ t.field? o.name = none

def Schema.Named (s : Schema) : Prop := ∀ t ∈ s.messages, t.Named

theorem Schema.named_known : ∀ t ∈ knownTypes, t.Named := by
  have hplain (name : String) (fields : List Field) (h : ∀ f ∈ fields, isFieldName f.name = true ∧
      (plainType name fields).field? f.name = some f) : (plainType name fields).Named :=
    ⟨h, fun o ho => absurd ho List.not_mem_nil⟩
  intro t ht
  rcases List.mem_append.1 ht with ht | ht
  · simp only [List.mem_cons, List.not_mem_nil, or_false] at ht
    rcases ht with rfl | rfl | rfl
    all_goals
      refine hplain _ _ ?_
      simp [plainType, plainField, MessageType.field?]
      decide
  · obtain ⟨⟨name, type⟩, -, rfl⟩ := List.mem_map.1 ht
    refine hplain _ _ ?_
    simp [plainType, plainField, MessageType.field?]
    decide

theorem Schema.Named.messageType {s : Schema} (hs : s.Named) (name : String) : (s.messageType name).Named := by
  unfold Schema.messageType Schema.message?
  cases ht : s.types.find? (·.name == name) with
  | none => exact ⟨fun f hf => absurd hf List.not_mem_nil, fun o ho => absurd ho List.not_mem_nil⟩
  | some t =>
    rcases List.mem_append.1 (List.mem_of_find?_eq_some ht) with hmem | hmem
    · exact hs t hmem
    · exact Schema.named_known t hmem

def Content.isKeyed : Content → Bool
  | .entries es => decide (es.map (Key.ofDatum ·.1)).Nodup
  | _ => true

def Message.isKeyed (m : Message) : Bool := m.fields.all (·.2.isKeyed)

/-- All maps inside of a message have one entry for each key. -/
def Message.Keyed (m : Message) : Prop := m.everywhere (·.isKeyed) = true

theorem Message.nodup_entries {m : Message} (h : m.isKeyed = true) (name : String) :
    ((m.entries name).map (Key.ofDatum ·.1)).Nodup := by
  unfold entries
  split
  · next es hc =>
    have hes : (Content.entries es).isKeyed = true := List.all_eq_true.1 h _ (mem_of_lookup hc)
    exact of_decide_eq_true hes
  · exact List.nodup_nil

/-- Where keys differ, an entry is found by its key. -/
theorem find?_entry {es : List (Datum × Datum)} (h : (es.map (Key.ofDatum ·.1)).Nodup) {e : Datum × Datum}
    (he : e ∈ es) : es.find? (fun x => Key.ofDatum x.1 = Key.ofDatum e.1) = some e := by
  induction es with
  | nil => cases he
  | cons x es ih =>
    rw [List.map_cons, List.nodup_cons] at h
    rcases List.mem_cons.1 he with rfl | he
    · simp
    · have hne : Key.ofDatum x.1 ≠ Key.ofDatum e.1 := fun hk => h.1 (hk ▸ List.mem_map_of_mem he)
      rw [List.find?_cons_of_neg (by simpa using hne)]
      exact ih h.2 he

/-! ## Places -/

inductive Place where
  | message (type : String) (m : Message)
  /-- A field of a message, set or not. -/
  | field (f : Field) (m : Message)
  | item (f : Field) (d : Datum)
  | entry (f : Field) (key value : Datum)
  | oneof (t : MessageType) (o : Oneof) (m : Message)

def FieldType.held? : FieldType → Datum → Option (String × Message)
  | message name, .message m => some (name, m)
  | _, _ => none

namespace Place

/-- The message at a place, if one is set there, with the type that it has by its declaration. -/
def message? : Place → Option (String × Message)
  | message type m => some (type, m)
  | field f m => if f.shape = .singular then (m.single? f.name).bind f.type.held? else none
  | item f d => f.type.held? d
  | entry f _ d => f.type.held? d
  | oneof .. => none

/-- A field or a oneof of a message by its name. -/
def member? (t : MessageType) (m : Message) (name : String) : Option Place :=
  match t.field? name with
  | some f => some (field f m)
  | none => (t.oneofs.find? (·.name == name)).map (oneof t · m)

def itemAt? : Int → Place → Option Place
  | .ofNat i, field f m => if f.shape = .repeated then (m.elements f.name)[i]?.map (item f) else none
  | _, _ => none

def entryAt? (k : Key) : Place → Option Place
  | field f m =>
    match f.shape with
    | .map _ => ((m.entries f.name).find? (Key.ofDatum ·.1 = k)).map fun e => entry f e.1 e.2
    | _ => none
  | _ => none

/-- Where an element of a path leads to. -/
def step (s : Schema) (p : Place) : PathElement → Option Place
  | .field name => p.message?.bind fun e => member? (s.messageType e.1) e.2 name
  | .index i => p.itemAt? i
  | .key k => p.entryAt? k

end Place

/-- Where a path leads to from a message of a type. -/
def Schema.place? (s : Schema) (type : String) (m : Message) (path : Path) : Option Place :=
  path.foldlM (Place.step s) (.message type m)

namespace Place

variable {s : Schema} {p q : Place}

/-! ## Steps -/

theorem member?_field {t : MessageType} {f : Field} (hf : t.field? f.name = some f) (m : Message) :
    member? t m f.name = some (field f m) := by
  simp only [member?, hf]

theorem member?_oneof {t : MessageType} {o : Oneof} (ho : o ∈ t.oneofs) (hn : t.field? o.name = none) (m : Message) :
    ∃ o', o'.name = o.name ∧ member? t m o.name = some (oneof t o' m) := by
  cases hfind : t.oneofs.find? (·.name == o.name) with
  | none => exact absurd (List.find?_eq_none.1 hfind o ho) (by simp)
  | some o' => exact ⟨o', by simpa using List.find?_some hfind, by simp only [member?, hn, hfind, Option.map_some]⟩

theorem itemAt?_eq_some {i : Int} : p.itemAt? i = some q ↔
    ∃ f m n d, p = field f m ∧ i = .ofNat n ∧ f.shape = .repeated ∧ (m.elements f.name)[n]? = some d ∧
      q = item f d := by
  constructor
  · intro h
    unfold itemAt? at h
    split at h
    · next n f m =>
      obtain ⟨hs, h⟩ := Option.ite_none_right_eq_some.1 h
      obtain ⟨d, hd, rfl⟩ := Option.map_eq_some_iff.1 h
      exact ⟨f, m, n, d, rfl, rfl, hs, hd, rfl⟩
    · cases h
  · rintro ⟨f, m, n, d, rfl, rfl, hs, hd, rfl⟩
    simp only [itemAt?, hs, if_true, hd, Option.map_some]

theorem entryAt?_eq_some {k : Key} : p.entryAt? k = some q ↔
    ∃ f m key e, p = field f m ∧ f.shape = .map key ∧
      (m.entries f.name).find? (Key.ofDatum ·.1 = k) = some e ∧ q = entry f e.1 e.2 := by
  constructor
  · intro h
    unfold entryAt? at h
    split at h
    · next f m =>
      split at h
      · next key hs =>
        obtain ⟨e, he, rfl⟩ := Option.map_eq_some_iff.1 h
        exact ⟨f, m, key, e, rfl, hs, he, rfl⟩
      · cases h
    · cases h
  · rintro ⟨f, m, key, e, rfl, hs, he, rfl⟩
    simp only [entryAt?, hs, he, Option.map_some]

/-- A step to a field or a oneof goes by a name that a schema may give. -/
theorem step_isNamed (hs : s.Named) {e : PathElement} (h : p.step s e = some q) : e.IsNamed := by
  cases e with
  | index _ => trivial
  | key _ => trivial
  | field name =>
    obtain ⟨⟨type, m⟩, -, h⟩ := Option.bind_eq_some_iff.1 h
    have ht := hs.messageType type
    simp only [member?] at h
    split at h
    · next f hf =>
      have hname : f.name = name := by simpa using List.find?_some hf
      exact hname ▸ (ht.fields f (List.mem_of_find?_eq_some hf)).1
    · obtain ⟨o, ho, -⟩ := Option.map_eq_some_iff.1 h
      have hname : o.name = name := by simpa using List.find?_some ho
      exact hname ▸ (ht.oneofs o (List.mem_of_find?_eq_some ho)).1

/-- From one place no two elements that look alike lead on. -/
theorem eq_of_alike {a b : PathElement} {r : Place} (h : a.Alike b) (ha : p.step s a = some q)
    (hb : p.step s b = some r) : a = b := by
  have hno {i : Int} {k : Key} {q r : Place} (hi : p.itemAt? i = some q) (hk : p.entryAt? k = some r) : False := by
    obtain ⟨f, m, n, d, rfl, -, hs, -⟩ := itemAt?_eq_some.1 hi
    obtain ⟨_, _, key, _, ⟨⟩, hm, -⟩ := entryAt?_eq_some.1 hk
    cases hs.symm.trans hm
  cases h with
  | refl => rfl
  | indexKey n => exact (hno ha hb).elim
  | keyIndex n => exact (hno hb ha).elim

/-! ## Paths -/

theorem isNamed_of_leads (hs : s.Named) : ∀ {path : Path} {p q : Place}, path.foldlM (step s) p = some q → path.IsNamed
  | [], _, _, _ => fun e he => absurd he List.not_mem_nil
  | e :: path, p, q, h => by
    rw [List.foldlM_cons] at h
    obtain ⟨r, hr, h⟩ := Option.bind_eq_some_iff.1 h
    exact List.forall_mem_cons.2 ⟨step_isNamed hs hr, isNamed_of_leads hs h⟩

theorem eq_of_leads {a b : Path} (h : List.Forall₂ PathElement.Alike a b) : ∀ {p q r : Place},
    a.foldlM (step s) p = some q → b.foldlM (step s) p = some r → a = b := by
  induction h with
  | nil => intros; rfl
  | @cons e f a b he _ ih =>
    intro p q r ha hb
    rw [List.foldlM_cons] at ha hb
    obtain ⟨u, hu, ha⟩ := Option.bind_eq_some_iff.1 ha
    obtain ⟨v, hv, hb⟩ := Option.bind_eq_some_iff.1 hb
    obtain rfl := eq_of_alike he hu hv
    cases hu.symm.trans hv
    rw [ih ha hb]

end Place

/-- Paths that lead somewhere in one message are told apart by their texts. -/
theorem Schema.Named.path_eq {s : Schema} (hs : s.Named) {type : String} {m : Message} {a b : Path} {p q : Place}
    (ha : s.place? type m a = some p) (hb : s.place? type m b = some q) (h : a.text = b.text) : a = b :=
  Place.eq_of_leads (Path.alike_of_text (Place.isNamed_of_leads hs ha) (Place.isNamed_of_leads hs hb) h) ha hb

/-! ## Messages inside of messages -/

theorem Place.message?_of_single {f : Field} {m inner : Message} {name : String} (hs : f.shape = .singular)
    (ht : f.type = .message name) (hm : m.single? f.name = some (.message inner)) :
    (Place.field f m).message? = some (name, inner) := by
  simp only [message?, hs, if_true, hm, ht, Option.bind_some, FieldType.held?]

/-- A message that a field holds is at the place that the path to it leads to. -/
theorem Field.Holds.leads {s : Schema} {f : Field} {m inner : Message} {type name : String} {path : Path} {p : Place}
    (h : f.Holds m name inner path) (hf : (s.messageType type).field? f.name = some f) (hm : m.isKeyed = true)
    (hp : p.message? = some (type, m)) :
    ∃ q, path.foldlM (Place.step s) p = some q ∧ q.message? = some (name, inner) := by
  have hfield : p.step s (.field f.name) = some (.field f m) := by
    simp only [Place.step, hp, Option.bind_some, Place.member?_field hf]
  have hinner : f.type = .message name → f.type.held? (.message inner) = some (name, inner) := by
    intro ht
    rw [ht]
    rfl
  cases h with
  | single hs hd he =>
    exact ⟨.field f m, by simp only [List.foldlM_cons, List.foldlM_nil, hfield]; rfl,
      Place.message?_of_single hs he.type_eq hd⟩
  | @item i hs hd he =>
    refine ⟨.item f (.message inner), ?_, hinner he.type_eq⟩
    have hitem : (Place.field f m).step s (.index i) = some (.item f (.message inner)) :=
      Place.itemAt?_eq_some.2 ⟨f, m, i, _, rfl, rfl, hs, hd, rfl⟩
    simp only [List.foldlM_cons, List.foldlM_nil, hfield, Option.bind_eq_bind, Option.bind_some, hitem]
    rfl
  | @entry key k hs hd he =>
    refine ⟨.entry f k (.message inner), ?_, hinner he.type_eq⟩
    have hentry : (Place.field f m).step s (.key (.ofDatum k)) = some (.entry f k (.message inner)) :=
      Place.entryAt?_eq_some.2 ⟨f, m, key, (k, .message inner), rfl, hs, find?_entry (m.nodup_entries hm f.name) hd, rfl⟩
    simp only [List.foldlM_cons, List.foldlM_nil, hfield, Option.bind_eq_bind, Option.bind_some, hentry]
    rfl

end Conformance
