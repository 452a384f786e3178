import Conformance.Proofs.Resolver.Faithful
import Conformance.Proofs.Schema.Conforming
import Conformance.Proofs.Walk.Tasks

/-!
# Inner messages

Which messages inside of a message are gone into, said of the schema and the message alone (`Field.Holds`);
the tasks that are made of the declared rules name exactly these (`MessageType.inner_mem_tasks`).
-/

namespace Conformance

/-- Values of a type are gone into as messages of a named type: the type is no opaque one, the messages are
not skipped, and zeros are not ignored or the message is none. -/
structure FieldConstraints.Enters (c : FieldConstraints) (type : FieldType) (name : String) (inner : Message) :
    Prop where
  type_eq : type = .message name
  transparent : Schema.isOpaque name = false
  kept : c.skipped = false
  filled : c.ignoreEmpty = true → inner.fields ≠ []

/-- A field holds a message that is gone into, of a named type, at a place from the outer message on. -/
inductive Field.Holds (f : Field) (m : Message) : String → Message → Path → Prop
  | single {name : String} {inner : Message} :
    f.shape = .singular → m.single? f.name = some (.message inner) →
      (f.constraints.getD {}).Enters f.type name inner → Holds f m name inner [.field f.name]
  | item {name : String} {inner : Message} {i : Nat} :
    f.shape = .repeated → (m.elements f.name)[i]? = some (.message inner) →
      ((f.constraints.getD {}).items.getD {}).Enters f.type name inner →
        Holds f m name inner [.field f.name, .index i]
  | entry {name : String} {inner : Message} {key : Scalar} {k : Datum} :
    f.shape = .map key → (k, .message inner) ∈ m.entries f.name →
      ((f.constraints.getD {}).values.getD {}).Enters f.type name inner →
        Holds f m name inner [.field f.name, .key (.ofDatum k)]

theorem Field.Holds.sizeOf_lt {f : Field} {m inner : Message} {name : String} {place : Path}
    (h : f.Holds m name inner place) : sizeOf inner < sizeOf m := by
  have hi : sizeOf (Datum.message inner) = 1 + sizeOf inner := rfl
  cases h with
  | single _ hm _ =>
    have := Message.sizeOf_single hm
    omega
  | item _ hm _ =>
    have := Message.sizeOf_element (List.mem_of_getElem? hm)
    omega
  | entry _ hm _ =>
    have := Message.sizeOf_entry hm
    simp only at this
    omega

/-- What holds everywhere inside of a message holds everywhere inside of the messages that its fields hold. -/
theorem Field.Holds.everywhere {f : Field} {m inner : Message} {name : String} {path : Path} {test : Message → Bool}
    (h : f.Holds m name inner path) (hm : m.everywhere test = true) : inner.everywhere test = true := by
  have hinner : (Datum.message inner).everywhere test = true := by
    cases h with
    | single _ hd _ => exact m.everywhere_single hm hd
    | item _ hd _ => exact m.everywhere_element hm (List.mem_of_getElem? hd)
    | entry _ hd _ => exact (m.everywhere_entry hm hd).2
  exact hinner

/-- A message that a field holds is one of the type of the field. -/
theorem Field.Holds.type_eq {s : Schema} {f : Field} {m inner : Message} {name : String} {place : Path}
    (h : f.Holds m name inner place) (hf : (s.messageType m.type).field? f.name = some f) (hm : m.Conforms s) :
    inner.type = name := by
  have hconf : m.conforms s = true := (Message.everywhere_iff.1 hm).1
  have htype (hadmits : f.type.admits (.message inner) = true) (he : f.type = .message name) : inner.type = name := by
    rw [he] at hadmits
    simpa [FieldType.admits] using hadmits
  cases h with
  | single _ hd he => exact htype (m.single_admits hconf hf hd).2 he.type_eq
  | item _ hd he => exact htype (m.element_admits hconf hf (List.mem_of_getElem? hd)) he.type_eq
  | entry hshape hd he => exact htype (m.entry_admits hconf hf hshape hd).2 he.type_eq

/-! ## Inner tasks -/

section
variable {s : Schema} {name : String} {inner : Message} {p : Path}

theorem inner_notMem_checkTasks (bound : Except Fault Value) (path : Path) (forKey : Bool) (checks : List Check) :
    Task.inner name inner p ∉ checkTasks bound path forKey checks := by
  cases bound <;> simp [checkTasks]

theorem inner_mem_innerTasks {nested : Option String} {d : Datum} {path : Path} :
    Task.inner name inner p ∈ innerTasks nested d path ↔
      nested = some name ∧ d = .message inner ∧ p = path := by
  unfold innerTasks
  split
  · simp [eq_comm]
  · next h =>
    simp only [List.not_mem_nil, false_iff]
    rintro ⟨rfl, rfl, -⟩
    exact h name inner rfl rfl

theorem nested?_eq_some {type : FieldType} {c : FieldConstraints} :
    Compile.nested? type c = some name ↔
      type = .message name ∧ Schema.isOpaque name = false ∧ c.skipped = false := by
  cases type with
  | scalar _ => simp [Compile.nested?]
  | enum _ => simp [Compile.nested?]
  | message n =>
    simp only [Compile.nested?, FieldType.message.injEq]
    cases ho : Schema.isOpaque n <;> cases hs : c.skipped <;> simp <;> rintro rfl <;> simp [ho]

theorem inner_mem_valueTasks {r : ValueRules} {d : Datum} {path : Path} {forKey : Bool} :
    Task.inner name inner p ∈ r.tasks d path forKey ↔
      (r.ignoreEmpty && d.isZero) = false ∧ r.nested = some name ∧ d = .message inner ∧ p = path := by
  unfold ValueRules.tasks
  cases r.ignoreEmpty && d.isZero
  · simp only [Bool.false_eq_true, if_false, List.mem_append, inner_mem_innerTasks, true_and]
    refine or_iff_right fun h => ?_
    split at h
    · cases h
    · exact inner_notMem_checkTasks _ _ _ _ h
  · simp

theorem inner_mem_forValue {c : FieldConstraints} {place : String} {type : FieldType} {d : Datum} {path : Path}
    {forKey : Bool} :
    Task.inner name inner p ∈ (c.forValue s place type).tasks d path forKey ↔
      d = .message inner ∧ c.Enters type name inner ∧ p = path := by
  rw [inner_mem_valueTasks]
  constructor
  · rintro ⟨hz, hn, rfl, rfl⟩
    obtain ⟨ht, ho, hk⟩ := nested?_eq_some.1 hn
    refine ⟨rfl, ⟨ht, ho, hk, fun hi he => ?_⟩, rfl⟩
    simp [FieldConstraints.forValue, hi, Datum.isZero, he] at hz
  · rintro ⟨rfl, ⟨ht, ho, hk, hf⟩, rfl⟩
    refine ⟨?_, nested?_eq_some.2 ⟨ht, ho, hk⟩, rfl, rfl⟩
    cases hi : c.ignoreEmpty with
    | false => simp [FieldConstraints.forValue, hi]
    | true => simpa [FieldConstraints.forValue, Datum.isZero] using fun _ => hf hi

/-- Keys are no messages. -/
theorem inner_mem_entryTasks {kc vc : FieldConstraints} {kplace vplace : String} {key : Scalar}
    {type : FieldType} {e : Datum × Datum} {path : Path} :
    Task.inner name inner p ∈
        entryTasks (kc.forValue s kplace (.scalar key)) (vc.forValue s vplace type) path e ↔
      e.2 = .message inner ∧ vc.Enters type name inner ∧ p = path ++ [.key (.ofDatum e.1)] := by
  rw [entryTasks, List.mem_append, inner_mem_forValue, inner_mem_forValue]
  refine or_iff_right ?_
  rintro ⟨-, ⟨ht, -⟩, -⟩
  cases ht

/-! ## Fields and messages -/

variable {t : MessageType} {f : Field} {m : Message} {path : Path}

theorem Field.Holds.isSet {place : Path} (h : f.Holds m name inner place) : f.isSetIn m = true := by
  unfold Field.isSetIn
  cases h with
  | single hs hm he => simp [hs, f.presence name he.type_eq hs, hm]
  | item hs hm _ => simp [hs, List.ne_nil_of_mem (List.mem_of_getElem? hm)]
  | entry hs hm _ => simp [hs, List.ne_nil_of_mem hm]

/-- A single field that is set where this can be seen holds no message but its own. -/
theorem Field.valueIn_eq_message (hs : f.shape = .singular) (ht : f.type = .message name)
    (hset : f.isSetIn m = true ∨ f.hasPresence = false) :
    f.valueIn m = .message inner ↔ m.single? f.name = some (.message inner) := by
  have hp := f.presence name ht hs
  have hm : (m.single? f.name).isSome = true := by simpa [Field.isSetIn, hs, hp] using hset
  obtain ⟨d, hd⟩ := Option.isSome_iff_exists.1 hm
  simp [Field.valueIn, hd]

theorem Field.inner_mem_heldTasks (hset : f.isSetIn m = true ∨ (f.rules s t).hasPresence = false) :
    Task.inner name inner p ∈ (f.rules s t).heldTasks m (path ++ [.field f.name]) ↔
      ∃ place, f.Holds m name inner place ∧ p = path ++ place := by
  unfold Field.rules FieldRules.hasPresence Field.isRepeated at hset
  unfold Field.rules FieldRules.heldTasks
  cases hs : f.shape with
  | singular =>
    simp only [hs] at hset ⊢
    rw [inner_mem_forValue]
    constructor
    · rintro ⟨hv, he, rfl⟩
      rw [Field.valueIn_eq_message hs he.type_eq (by simpa using hset)] at hv
      exact ⟨_, .single hs hv he, rfl⟩
    · rintro ⟨_, ⟨_, hv, he⟩ | ⟨h, _, _⟩ | ⟨h, _, _⟩, rfl⟩
      · exact ⟨(Field.valueIn_eq_message hs he.type_eq (by simpa using hset)).2 hv, he, rfl⟩
      · cases hs.symm.trans h
      · cases hs.symm.trans h
  | repeated =>
    simp only [hs, List.mem_append, inner_notMem_checkTasks, false_or, mem_itemTasks, inner_mem_forValue]
    constructor
    · rintro ⟨j, _, hj, rfl, he, rfl⟩
      exact ⟨_, .item hs hj he, by simp⟩
    · rintro ⟨_, ⟨h, _, _⟩ | ⟨_, hj, he⟩ | ⟨h, _, _⟩, rfl⟩
      · cases hs.symm.trans h
      · exact ⟨_, _, hj, rfl, he, by simp⟩
      · cases hs.symm.trans h
  | map key =>
    simp only [hs, List.mem_append, inner_notMem_checkTasks, false_or, List.mem_flatMap, inner_mem_entryTasks,
      (inKeyOrder_perm _).mem_iff]
    constructor
    · rintro ⟨⟨k, _⟩, hm, rfl, he, rfl⟩
      exact ⟨_, .entry hs hm he, by simp⟩
    · rintro ⟨_, ⟨h, _, _⟩ | ⟨h, _, _⟩ | ⟨_, hm, he⟩, rfl⟩
      · cases hs.symm.trans h
      · cases hs.symm.trans h
      · exact ⟨_, hm, rfl, he, by simp⟩

theorem Field.inner_mem_tasks :
    Task.inner name inner p ∈ (f.rules s t).tasks m path ↔
      ∃ place, f.Holds m name inner place ∧ p = path ++ place := by
  unfold FieldRules.tasks
  rw [f.rules_field]
  cases hset : f.isSetIn m
  · have hn : ¬∃ place, f.Holds m name inner place ∧ p = path ++ place := by
      rintro ⟨place, h, -⟩
      rw [h.isSet] at hset
      cases hset
    cases (f.rules s t).required
    · cases hp : (f.rules s t).hasPresence
      · cases (f.rules s t).ignoreEmpty
        · simpa using Field.inner_mem_heldTasks (.inr hp)
        · simpa using hn
      · simpa using hn
    · simpa using hn
  · simpa using Field.inner_mem_heldTasks (.inl hset)

/-- The tasks of a message name the messages that its fields hold. -/
theorem MessageType.inner_mem_tasks {u : MessageType} :
    Task.inner name inner p ∈ (t.rules s).tasks u m path ↔
      t.constraints.any (·.disabled) = false ∧
        ∃ f ∈ t.fields, ∃ place, f.Holds m name inner place ∧ p = path ++ place := by
  have ho : ∀ o : OneofRule, Task.inner name inner p ∉ o.tasks u m path := by
    intro o
    unfold OneofRule.tasks
    split <;> simp
  unfold MessageType.rules TypeRules.tasks
  cases t.constraints.any (·.disabled)
  · simp [List.flatMap_map, inner_notMem_checkTasks, ho, Field.inner_mem_tasks]
  · simp [inner_notMem_checkTasks]

theorem MessageType.tasks_of_disabled {u : MessageType} (h : (t.rules s).disabled = true) :
    (t.rules s).tasks u m path = [] := by
  unfold MessageType.rules at *
  cases hd : t.constraints.any (·.disabled)
  · simp [hd] at h
  · rfl

end

end Conformance
