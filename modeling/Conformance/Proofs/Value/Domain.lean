import Mathlib.Data.Nat.Digits.Defs
import Conformance.Proofs.Schema.Conforming
import Conformance.Rule.Render
import Conformance.Value.Order

/-!
# Domains of values

Which values the data of a field are bound to. A domain is told from the type of the field alone, and what can be
done with its values without a fault depends on the domain alone.
-/

namespace Conformance

open Calendar

inductive Domain where
  | bool
  /-- Integers of a field. -/
  | int
  | number
  | float
  | text
  | bytes
  | instant
  | span
  | message (type : String)
  | pattern
  /-- The values of a parameter that lists them. -/
  | tuple (member : Domain)
  /-- The bounds of a range. -/
  | pair (member : Domain)
  /-- The numbers of an enum. -/
  | numbers
  /-- The elements of a repeated field, whatever they are. -/
  | list
  | dict
  deriving DecidableEq, Repr

namespace Domain

/-- Integers of fields have 64 bits. Instants are at most a day away from those that can be bound, so that their
local times can. -/
inductive Holds : Domain → Value → Prop
  | bool (b : Bool) : Holds bool (.bool b)
  | int {n : Int} : n.natAbs < 18446744073709551616 → Holds int (.int n)
  | number (n : Int) : Holds number (.int n)
  | float (x : Decimal.Binary64) : Holds float (.float x)
  | text (s : String) : Holds text (.text s)
  | bytes (b : List UInt8) : Holds bytes (.bytes b)
  | instant {i : Instant} : Instant.least - microsPerDay ≤ i.micros → i.micros ≤ Instant.greatest + microsPerDay →
    Holds instant (.instant i)
  | span {t : Span} : Span.least ≤ t.micros → t.micros ≤ Span.greatest → Holds span (.span t)
  | message (m : Message) : Holds (message m.type) (.message m)
  | pattern (p : Pattern) : Holds pattern (.pattern p)
  | tuple {d : Domain} {xs : List Value} : (∀ x ∈ xs, Holds d x) → Holds (tuple d) (.tuple xs)
  | pair {d : Domain} {a b : Value} : Holds d a → Holds d b → Holds (pair d) (.tuple [a, b])
  | numbers {xs : List Value} : Holds numbers (.set true xs)
  | list (xs : List Value) : Holds list (.list xs)
  | dict (es : List (Value × Value)) : Holds dict (.dict es)

end Domain

def Scalar.domain : Scalar → Domain
  | double | float => .float
  | bool => .bool
  | string => .text
  | bytes => .bytes
  | _ => .int

/-- Times and spans are bound as such, other messages as they are. -/
def FieldType.domain : FieldType → Domain
  | scalar s => s.domain
  | enum _ => .int
  | message name =>
    if name == Schema.timestampName then .instant
    else if name == Schema.durationName then .span
    else .message name

theorem FieldType.domain_message (name : String) : (message name).domain =
    if name == Schema.timestampName then .instant
    else if name == Schema.durationName then .span
    else .message name :=
  rfl

/-! ## Binding -/

theorem Scalar.natAbs_lt_of_admits {s : Scalar} {n : Int} (h : s.admits (.int n) = true) :
    s.domain = .int ∧ n.natAbs < 18446744073709551616 := by
  cases s <;> simp [admits, range?, domain] at h ⊢ <;> omega

theorem Scalar.domain_holds {s : Scalar} {d : Datum} (h : s.admits d = true) :
    d.bound = .ok (.ofDatum d) ∧ s.domain.Holds (.ofDatum d) := by
  cases d with
  | bool b =>
    obtain rfl : s = .bool := by simpa [admits] using h
    exact ⟨rfl, .bool b⟩
  | int n =>
    obtain ⟨hs, hn⟩ := natAbs_lt_of_admits h
    rw [hs]
    exact ⟨rfl, .int hn⟩
  | float x =>
    have hs : s = .double ∨ s = .float := by simpa [admits] using h
    rcases hs with rfl | rfl
    · exact ⟨rfl, .float x⟩
    · exact ⟨rfl, .float x⟩
  | text t =>
    obtain rfl : s = .string := by simpa [admits] using h
    exact ⟨rfl, .text t⟩
  | bytes b =>
    obtain rfl : s = .bytes := by simpa [admits] using h
    exact ⟨rfl, .bytes b⟩
  | message m => cases h

theorem Calendar.Instant.holds_of_ofParts? {seconds nanos : Int} {i : Instant}
    (h : Instant.ofParts? seconds nanos = some i) : Domain.instant.Holds (.instant i) := by
  unfold Instant.ofParts? at h
  split at h
  · unfold Instant.ofMicros? at h
    split at h
    · next hrange =>
      cases h
      simp only [Instant.least, Instant.greatest] at hrange
      refine .instant ?_ ?_ <;> simp only [Instant.least, Instant.greatest, microsPerDay] <;> omega
    · cases h
  · cases h

theorem Calendar.Span.holds_of_ofParts? {seconds nanos : Int} {t : Span}
    (h : Span.ofParts? seconds nanos = some t) : Domain.span.Holds (.span t) := by
  unfold Span.ofParts? Span.ofMicros? at h
  split at h
  · next hrange =>
    cases h
    exact .span hrange.1 hrange.2
  · cases h

theorem Message.holds_of_bound {m : Message} {v : Value} (h : m.bound = .ok v) :
    (FieldType.message m.type).domain.Holds v := by
  rw [FieldType.domain_message]
  unfold bound at h
  split at h
  · next ht =>
    rw [if_pos ht]
    cases hi : Instant.ofParts? (m.integer "seconds") (m.integer "nanos") with
    | none =>
      rw [hi] at h
      cases h
    | some i =>
      rw [hi] at h
      cases h
      exact Instant.holds_of_ofParts? hi
  · next ht =>
    rw [if_neg ht]
    split at h
    · next hd =>
      rw [if_pos hd]
      cases ht : Span.ofParts? (m.integer "seconds") (m.integer "nanos") with
      | none =>
        rw [ht] at h
        cases h
      | some t =>
        rw [ht] at h
        cases h
        exact Span.holds_of_ofParts? ht
    · next hd =>
      rw [if_neg hd]
      cases h
      exact .message m

theorem FieldType.holds_of_bound {t : FieldType} {d : Datum} {v : Value} (h : t.admits d = true)
    (hv : d.bound = .ok v) : t.domain.Holds v := by
  have hscalar {w : Scalar} (h : w.admits d = true) : w.domain.Holds v := by
    obtain ⟨hb, hd⟩ := Scalar.domain_holds h
    rw [hv] at hb
    cases hb
    exact hd
  cases t with
  | scalar w => exact hscalar h
  | enum name => exact hscalar (w := .int32) h
  | message name =>
    cases d with
    | message m =>
      obtain rfl : m.type = name := by simpa [admits] using h
      exact Message.holds_of_bound hv
    | _ => cases h

theorem FieldType.holds_of_boundAll {t : FieldType} {ds : List Datum} {vs : List Value}
    (h : ∀ d ∈ ds, t.admits d = true) (hvs : boundAll ds = .ok vs) : ∀ v ∈ vs, t.domain.Holds v := by
  induction ds generalizing vs with
  | nil =>
    cases hvs
    exact fun v hv => absurd hv List.not_mem_nil
  | cons d ds ih =>
    cases hd : d.bound with
    | error f =>
      rw [boundAll, hd] at hvs
      cases hvs
    | ok v =>
      cases hds : boundAll ds with
      | error f =>
        rw [boundAll, hd, hds] at hvs
        cases hvs
      | ok ws =>
        rw [boundAll, hd, hds] at hvs
        cases hvs
        intro w hw
        rcases List.mem_cons.1 hw with rfl | hw
        · exact t.holds_of_bound (h d List.mem_cons_self) hd
        · exact ih (fun d hd => h d (List.mem_cons_of_mem _ hd)) hds w hw

theorem Datum.bound_ok {d : Datum} (h : d.everywhere (·.isBound) = true) : ∃ v, d.bound = .ok v := by
  cases d with
  | message m =>
    have hm : m.isBound = true := (Message.everywhere_iff.1 (by simpa [Datum.everywhere] using h)).1
    unfold Message.isBound at hm
    split at hm
    · next v hv => exact ⟨v, hv⟩
    · cases hm
  | _ => exact ⟨_, rfl⟩

theorem boundAll_ok_iff {ds : List Datum} : (∃ vs, boundAll ds = .ok vs) ↔ ∀ d ∈ ds, ∃ v, d.bound = .ok v := by
  induction ds with
  | nil => exact ⟨fun _ d hd => absurd hd List.not_mem_nil, fun _ => ⟨[], rfl⟩⟩
  | cons d ds ih =>
    rw [List.forall_mem_cons, ← ih, boundAll]
    cases hd : d.bound with
    | error f => exact ⟨fun ⟨_, h⟩ => (by cases h), fun ⟨⟨_, h⟩, _⟩ => (by cases h)⟩
    | ok v =>
      cases hds : boundAll ds with
      | error f => exact ⟨fun ⟨_, h⟩ => (by cases h), fun ⟨_, _, h⟩ => (by cases h)⟩
      | ok vs => exact ⟨fun _ => ⟨⟨v, rfl⟩, vs, rfl⟩, fun _ => ⟨v :: vs, rfl⟩⟩

theorem boundEntries_ok_iff {es : List (Datum × Datum)} :
    (∃ vs, boundEntries es = .ok vs) ↔ ∀ e ∈ es, ∃ v, e.2.bound = .ok v := by
  induction es with
  | nil => exact ⟨fun _ e he => absurd he List.not_mem_nil, fun _ => ⟨[], rfl⟩⟩
  | cons e es ih =>
    obtain ⟨k, d⟩ := e
    rw [List.forall_mem_cons, ← ih, boundEntries]
    cases hd : d.bound with
    | error f => exact ⟨fun ⟨_, h⟩ => (by cases h), fun ⟨⟨_, h⟩, _⟩ => (by cases h)⟩
    | ok v =>
      cases hes : boundEntries es with
      | error f => exact ⟨fun ⟨_, h⟩ => (by cases h), fun ⟨_, _, h⟩ => (by cases h)⟩
      | ok vs => exact ⟨fun _ => ⟨⟨v, rfl⟩, vs, rfl⟩, fun _ => ⟨(.ofDatum k, v) :: vs, rfl⟩⟩

theorem boundAll_ok {ds : List Datum} (h : ∀ d ∈ ds, d.everywhere (·.isBound) = true) : ∃ vs, boundAll ds = .ok vs :=
  boundAll_ok_iff.2 fun d hd => Datum.bound_ok (h d hd)

theorem boundEntries_ok {es : List (Datum × Datum)} (h : ∀ e ∈ es, e.2.everywhere (·.isBound) = true) :
    ∃ vs, boundEntries es = .ok vs :=
  boundEntries_ok_iff.2 fun e he => Datum.bound_ok (h e he)

/-! ## Texts of values -/

namespace Domain

def isShown : Domain → Bool
  | tuple d | pair d => d.isShown
  | number | numbers | list | dict => false
  | _ => true

theorem integerText_ok {n : Int} (h : n.natAbs < 18446744073709551616) : ∃ s, integerText n = .ok s := by
  -- 64 bits are 20 digits, far below both limits.
  have hlog : ¬14300 < n.natAbs.log2 := by
    have hle : n.natAbs.log2 < 64 := by
      rcases Nat.eq_zero_or_pos n.natAbs with h0 | hpos
      · rw [h0]
        decide
      · exact (Nat.log2_lt (by omega)).2 (by simpa using h)
    omega
  have hlength : ¬integerDigitLimit < (toString n.natAbs).length := by
    have hle : (Nat.repr n.natAbs).length ≤ 20 := Nat.repr_length _ 20 (by decide) (by omega)
    have heq : toString n.natAbs = Nat.repr n.natAbs := rfl
    rw [heq, integerDigitLimit]
    omega
  unfold integerText
  rw [if_neg hlog]
  dsimp only
  rw [if_neg hlength]
  exact ⟨_, rfl⟩

variable {d : Domain} {v w : Value}

theorem Holds.render_ok (h : d.Holds v) (hd : d.isShown = true) : ∃ s, v.render = .ok s := by
  have hall : ∀ xs : List Value, (∀ x ∈ xs, ∃ s, x.render = .ok s) → ∃ ss, Value.renderAll xs = .ok ss := by
    intro xs
    induction xs with
    | nil => exact fun _ => ⟨[], rfl⟩
    | cons x xs ih =>
      intro hx
      obtain ⟨s, hs⟩ := hx x List.mem_cons_self
      obtain ⟨ss, hss⟩ := ih fun y hy => hx y (List.mem_cons_of_mem _ hy)
      exact ⟨s :: ss, by rw [Value.renderAll, hs, hss]; rfl⟩
  induction h with
  | int hn => exact integerText_ok hn
  | number => cases hd
  | tuple _ ih =>
    obtain ⟨ss, hss⟩ := hall _ fun x hx => ih x hx hd
    exact ⟨_, by rw [Value.render, hss]; rfl⟩
  | @pair _ a b _ _ iha ihb =>
    obtain ⟨ss, hss⟩ := hall [a, b] fun x hx => by
      simp only [List.mem_cons, List.not_mem_nil, or_false] at hx
      rcases hx with rfl | rfl
      · exact iha hd
      · exact ihb hd
    exact ⟨_, by rw [Value.render, hss]; rfl⟩
  | numbers | list | dict => cases hd
  | _ => exact ⟨_, rfl⟩

/-! ## Order -/

def isOrdered : Domain → Bool
  | int | float | span | instant => true
  | _ => false

theorem Holds.related_ok (hv : d.Holds v) (hw : d.Holds w) (hd : d.isOrdered = true) (r : Relation) :
    ∃ b, v.related r w = .ok b := by
  cases hv with
  | int _ =>
    cases hw
    exact ⟨_, rfl⟩
  | float x =>
    cases hw with
    | float y =>
      cases hc : x.compare? y with
      | none => exact ⟨false, by simp only [Value.related, Value.compareNumbers?, hc]⟩
      | some o => exact ⟨r.holds o, by simp only [Value.related, Value.compareNumbers?, hc]⟩
  | instant _ _ =>
    cases hw
    exact ⟨_, rfl⟩
  | span _ _ =>
    cases hw
    exact ⟨_, rfl⟩
  | _ => cases hd

end Domain
end Conformance
