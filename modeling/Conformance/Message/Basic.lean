import Conformance.Decimal.Binary64
import Conformance.Text.Utf8

/-!
# Messages

A message is an instance of a message type: the fields that are set, with their contents. Fields that are
not listed are unset. Integers and enum numbers are integers; both floating point types hold 64 bit numbers.
-/

namespace Conformance

mutual

inductive Datum where
  | bool (b : Bool)
  | int (n : Int)
  | float (x : Decimal.Binary64)
  | text (s : String)
  | bytes (b : List UInt8)
  | message (m : Message)

inductive Content where
  | single (d : Datum)
  | repeated (ds : List Datum)
  /-- The entries of a map, one for each key. -/
  | entries (es : List (Datum × Datum))

inductive Message where
  | mk (type : String) (fields : List (String × Content))

end

instance : Inhabited Datum := ⟨.bool false⟩
instance : Inhabited Content := ⟨.repeated []⟩
instance : Inhabited Message := ⟨.mk "" []⟩

namespace Message

def type : Message → String
  | mk t _ => t

def fields : Message → List (String × Content)
  | mk _ fs => fs

def unset (type : String) : Message := .mk type []

def content? (m : Message) (name : String) : Option Content := m.fields.lookup name

def isSet (m : Message) (name : String) : Bool := (m.content? name).isSome

def elements (m : Message) (name : String) : List Datum :=
  match m.content? name with
  | some (.repeated ds) => ds
  | _ => []

def entries (m : Message) (name : String) : List (Datum × Datum) :=
  match m.content? name with
  | some (.entries es) => es
  | _ => []

def single? (m : Message) (name : String) : Option Datum :=
  match m.content? name with
  | some (.single d) => some d
  | _ => none

end Message

mutual

/-- Equality of values, by what they denote: both zeros are equal, NaN differs from itself. -/
def Datum.same : Datum → Datum → Bool
  | .bool a, .bool b => a == b
  | .int a, .int b => a == b
  | .float a, .float b => a.same b
  | .text a, .text b => a == b
  | .bytes a, .bytes b => a == b
  | .message a, .message b => a.same b
  | _, _ => false
termination_by structural x => x

def sameData : List Datum → List Datum → Bool
  | [], [] => true
  | a :: as, b :: bs => a.same b && sameData as bs
  | _, _ => false
termination_by structural x => x

def entryOccurs : Datum × Datum → List (Datum × Datum) → Bool
  | (k, v), es =>
    match es.find? fun e => k.same e.1 with
    | some e => v.same e.2
    | none => false
termination_by structural x => x

def sameEntries : List (Datum × Datum) → List (Datum × Datum) → Bool
  | [], _ => true
  | e :: rest, es => entryOccurs e es && sameEntries rest es
termination_by structural x => x

def Content.same : Content → Content → Bool
  | .single a, .single b => a.same b
  | .repeated as, .repeated bs => sameData as bs
  | .entries as, .entries bs => as.length == bs.length && sameEntries as bs
  | _, _ => false
termination_by structural x => x

def fieldOccurs : String × Content → List (String × Content) → Bool
  | (name, c), fs =>
    match fs.lookup name with
    | some d => c.same d
    | none => false
termination_by structural x => x

def sameFields : List (String × Content) → List (String × Content) → Bool
  | [], _ => true
  | f :: rest, fs => fieldOccurs f fs && sameFields rest fs
termination_by structural x => x

/-- Messages of one type with the same fields set to the same contents. -/
def Message.same : Message → Message → Bool
  | .mk t fs, .mk u gs => t == u && fs.length == gs.length && sameFields fs gs
termination_by structural x => x

end

/-! ## Sizes -/

theorem mem_of_lookup {α : Type} {name : String} {a : α} {es : List (String × α)}
    (h : es.lookup name = some a) : (name, a) ∈ es := by
  obtain ⟨_, _, rfl, _⟩ := List.lookup_eq_some_iff.1 h
  simp

namespace Message

theorem sizeOf_content {m : Message} {name : String} {c : Content} (h : m.content? name = some c) :
    sizeOf c < sizeOf m := by
  obtain ⟨type, fields⟩ := m
  have hm : sizeOf (name, c) < sizeOf fields := List.sizeOf_lt_of_mem (mem_of_lookup h)
  simp only [Message.mk.sizeOf_spec, Prod.mk.sizeOf_spec] at hm ⊢
  omega

theorem sizeOf_single {m : Message} {name : String} {d : Datum} (h : m.single? name = some d) :
    sizeOf d < sizeOf m := by
  unfold single? at h
  split at h
  · next c hc =>
    cases h
    have := sizeOf_content hc
    simp only [Content.single.sizeOf_spec] at this
    omega
  · cases h

theorem sizeOf_element {m : Message} {name : String} {d : Datum} (h : d ∈ m.elements name) :
    sizeOf d < sizeOf m := by
  unfold elements at h
  split at h
  · next ds hc =>
    have := sizeOf_content hc
    have := List.sizeOf_lt_of_mem h
    simp only [Content.repeated.sizeOf_spec] at *
    omega
  · cases h

theorem sizeOf_entry {m : Message} {name : String} {e : Datum × Datum} (h : e ∈ m.entries name) :
    sizeOf e.2 < sizeOf m := by
  unfold entries at h
  split at h
  · next es hc =>
    have := sizeOf_content hc
    have := List.sizeOf_lt_of_mem h
    obtain ⟨k, v⟩ := e
    simp only [Content.entries.sizeOf_spec, Prod.mk.sizeOf_spec] at *
    omega
  · cases h

end Message

/-! ## The order of map keys -/

namespace Datum

/-- The kinds of keys in their order; no map has keys of two kinds. -/
def keyRank : Datum → Nat
  | bool _ => 0
  | int _ => 1
  | text _ => 2
  | _ => 3

/-- The order of map keys: numbers, texts by code point, false before true. -/
def keyLe : Datum → Datum → Bool
  | bool a, bool b => !a || b
  | int a, int b => a ≤ b
  | text a, text b => a ≤ b
  | a, b => a.keyRank ≤ b.keyRank

theorem keyLe_total (a b : Datum) : (a.keyLe b || b.keyLe a) = true := by
  cases a <;> cases b <;> simp [keyLe, keyRank, String.le_total, Int.le_total]
  rename_i a b
  cases a <;> simp

theorem keyLe_trans (a b c : Datum) (hab : a.keyLe b = true) (hbc : b.keyLe c = true) :
    a.keyLe c = true := by
  cases a <;> cases b <;> cases c <;> simp_all [keyLe, keyRank]
  case bool.bool.bool a b c => cases a <;> simp_all
  case int.int.int => exact Int.le_trans hab hbc
  case text.text.text => exact String.le_trans hab hbc

end Datum

/-- The entries of a map in the order of their keys. -/
def inKeyOrder (es : List (Datum × Datum)) : List (Datum × Datum) := es.mergeSort fun a b => a.1.keyLe b.1

theorem inKeyOrder_perm (es : List (Datum × Datum)) : (inKeyOrder es).Perm es := List.mergeSort_perm ..

theorem pairwise_inKeyOrder (es : List (Datum × Datum)) :
    (inKeyOrder es).Pairwise fun a b => a.1.keyLe b.1 :=
  List.pairwise_mergeSort (fun a b c => Datum.keyLe_trans a.1 b.1 c.1) (fun a b => Datum.keyLe_total a.1 b.1) es

end Conformance
