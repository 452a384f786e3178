import Conformance.Value.Bound

/-!
# Messages that conform to a schema

What a message can be at all: its fields are fields of its type, and they hold what their types admit. It is said
of one message first, and then of all messages inside of it.
-/

namespace Conformance

/-! ## Data of a type -/

namespace Scalar

/-- The least and the greatest number of an integer type. -/
def range? : Scalar → Option (Int × Int)
  | int32 | sint32 | sfixed32 => some (-2147483648, 2147483647)
  | uint32 | fixed32 => some (0, 4294967295)
  | int64 | sint64 | sfixed64 => some (-9223372036854775808, 9223372036854775807)
  | uint64 | fixed64 => some (0, 18446744073709551615)
  | _ => none

def admits (s : Scalar) : Datum → Bool
  | .bool _ => s == bool
  | .int n => s.range?.any fun r => r.1 ≤ n && n ≤ r.2
  | .float _ => s == double || s == float
  | .text _ => s == string
  | .bytes _ => s == bytes
  | .message _ => false

theorem admits_zero (s : Scalar) : s.admits s.zero = true := by
  cases s <;> decide

end Scalar

def FieldType.admits : FieldType → Datum → Bool
  | scalar s, d => s.admits d
  | enum _, d => Scalar.int32.admits d
  | message name, .message m => m.type == name
  | message _, _ => false

namespace Field

def admits (f : Field) : Content → Bool
  | .single d => f.shape == .singular && f.type.admits d
  | .repeated ds => f.shape == .repeated && ds.all f.type.admits
  | .entries es =>
    match f.shape with
    | .map key => es.all fun e => key.admits e.1 && f.type.admits e.2
    | _ => false

/-- The default of a single value is a value of its type. -/
def HasDefault (f : Field) : Prop := f.type.isMessage = false → f.type.admits f.default = true

end Field

/-- The fields that are set are fields of the type of the message, and hold what these admit. -/
def Message.conforms (s : Schema) (m : Message) : Bool :=
  m.fields.all fun e => ((s.messageType m.type).field? e.1).any (·.admits e.2)

/-- Every time and every span that a message stands for can be bound. -/
def Message.isBound (m : Message) : Bool :=
  match m.bound with
  | .ok _ => true
  | .error _ => false

/-! ## All messages inside of a message -/

mutual

/-- A test holds for the message that a datum is, if it is one, and for all messages inside of it. -/
def Datum.everywhere (p : Message → Bool) : Datum → Bool
  | .message m => m.everywhere p
  | _ => true
termination_by structural x => x

def allEverywhere (p : Message → Bool) : List Datum → Bool
  | [] => true
  | d :: ds => d.everywhere p && allEverywhere p ds
termination_by structural x => x

def entryEverywhere (p : Message → Bool) : Datum × Datum → Bool
  | (k, d) => k.everywhere p && d.everywhere p
termination_by structural x => x

def entriesEverywhere (p : Message → Bool) : List (Datum × Datum) → Bool
  | [] => true
  | e :: es => entryEverywhere p e && entriesEverywhere p es
termination_by structural x => x

def Content.everywhere (p : Message → Bool) : Content → Bool
  | .single d => d.everywhere p
  | .repeated ds => allEverywhere p ds
  | .entries es => entriesEverywhere p es
termination_by structural x => x

def fieldEverywhere (p : Message → Bool) : String × Content → Bool
  | (_, c) => c.everywhere p
termination_by structural x => x

def fieldsEverywhere (p : Message → Bool) : List (String × Content) → Bool
  | [] => true
  | f :: fs => fieldEverywhere p f && fieldsEverywhere p fs
termination_by structural x => x

def Message.everywhere (p : Message → Bool) : Message → Bool
  | .mk type fs => p (.mk type fs) && fieldsEverywhere p fs
termination_by structural x => x

end

/-- A message that a schema admits, inner messages included. -/
def Message.Conforms (s : Schema) (m : Message) : Prop := m.everywhere (·.conforms s) = true

/-- All times and spans inside of a message, itself included, lie in the range of those that can be bound. -/
def Message.InTime (m : Message) : Prop := m.everywhere (·.isBound) = true

section
variable {p : Message → Bool}

theorem allEverywhere_iff {ds : List Datum} :
    allEverywhere p ds = true ↔ ∀ d ∈ ds, d.everywhere p = true := by
  induction ds with
  | nil => simp [allEverywhere]
  | cons d ds ih => simp [allEverywhere, ih]

theorem entriesEverywhere_iff {es : List (Datum × Datum)} : entriesEverywhere p es = true ↔
    ∀ e ∈ es, e.1.everywhere p = true ∧ e.2.everywhere p = true := by
  induction es with
  | nil => simp [entriesEverywhere]
  | cons e es ih =>
    obtain ⟨k, d⟩ := e
    simp [entriesEverywhere, entryEverywhere, ih]

theorem fieldsEverywhere_iff {fs : List (String × Content)} :
    fieldsEverywhere p fs = true ↔ ∀ f ∈ fs, f.2.everywhere p = true := by
  induction fs with
  | nil => simp [fieldsEverywhere]
  | cons f fs ih =>
    obtain ⟨name, c⟩ := f
    simp [fieldsEverywhere, fieldEverywhere, ih]

theorem Message.everywhere_iff {m : Message} :
    m.everywhere p = true ↔ p m = true ∧ ∀ f ∈ m.fields, f.2.everywhere p = true := by
  obtain ⟨type, fs⟩ := m
  rw [Message.everywhere, Bool.and_eq_true, fieldsEverywhere_iff, Message.fields]

variable {m : Message} {name : String} {d : Datum}

theorem Message.everywhere_content (h : m.everywhere p = true) {c : Content} (hc : m.content? name = some c) :
    c.everywhere p = true :=
  (everywhere_iff.1 h).2 _ (mem_of_lookup hc)

theorem Message.everywhere_single (h : m.everywhere p = true) (hd : m.single? name = some d) :
    d.everywhere p = true := by
  unfold single? at hd
  split at hd
  · next c hc =>
    cases hd
    exact m.everywhere_content h hc
  · cases hd

theorem Message.everywhere_element (h : m.everywhere p = true) (hd : d ∈ m.elements name) :
    d.everywhere p = true := by
  unfold elements at hd
  split at hd
  · next ds hc =>
    have hds : allEverywhere p ds = true := m.everywhere_content h hc
    exact allEverywhere_iff.1 hds d hd
  · cases hd

theorem Message.everywhere_entry (h : m.everywhere p = true) {e : Datum × Datum} (he : e ∈ m.entries name) :
    e.1.everywhere p = true ∧ e.2.everywhere p = true := by
  unfold entries at he
  split at he
  · next es hc =>
    have hes : entriesEverywhere p es = true := m.everywhere_content h hc
    exact entriesEverywhere_iff.1 hes e he
  · cases he

end

/-! ## What a field of a message holds -/

section
variable {s : Schema} {m : Message} {f : Field} {name : String} {d : Datum}

theorem Message.field_admits (h : m.conforms s = true) (hf : (s.messageType m.type).field? name = some f)
    {c : Content} (hc : m.content? name = some c) : f.admits c = true := by
  have hall := List.all_eq_true.1 h _ (mem_of_lookup hc)
  simpa [hf] using hall

theorem Message.single_admits (h : m.conforms s = true) (hf : (s.messageType m.type).field? name = some f)
    (hd : m.single? name = some d) : f.shape = .singular ∧ f.type.admits d = true := by
  unfold single? at hd
  split at hd
  · next c hc =>
    cases hd
    have hadmits := m.field_admits h hf hc
    simpa [Field.admits] using hadmits
  · cases hd

theorem Message.element_admits (h : m.conforms s = true) (hf : (s.messageType m.type).field? name = some f)
    (hd : d ∈ m.elements name) : f.type.admits d = true := by
  unfold elements at hd
  split at hd
  · next ds hc =>
    have hadmits := m.field_admits h hf hc
    simp only [Field.admits, Bool.and_eq_true, List.all_eq_true] at hadmits
    exact hadmits.2 d hd
  · cases hd

theorem Message.entry_admits (h : m.conforms s = true) (hf : (s.messageType m.type).field? name = some f)
    {key : Scalar} (hs : f.shape = .map key) {e : Datum × Datum} (he : e ∈ m.entries name) :
    key.admits e.1 = true ∧ f.type.admits e.2 = true := by
  unfold entries at he
  split at he
  · next es hc =>
    have hadmits := m.field_admits h hf hc
    simp only [Field.admits, hs, Bool.and_eq_true, List.all_eq_true] at hadmits
    exact hadmits e he
  · cases he

/-- A single value that is unset holds its default, and where it is no message this is of its type too. -/
theorem Field.admits_valueIn (h : m.conforms s = true) (hf : (s.messageType m.type).field? f.name = some f)
    (hdefault : f.HasDefault) (hset : f.type.isMessage = false ∨ (m.single? f.name).isSome) :
    f.type.admits (f.valueIn m) = true := by
  unfold Field.valueIn
  cases hd : m.single? f.name with
  | some d => exact (m.single_admits h hf hd).2
  | none =>
    rcases hset with hset | hset
    · exact hdefault hset
    · rw [hd] at hset
      cases hset

end
end Conformance
