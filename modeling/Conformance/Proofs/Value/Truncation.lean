import Conformance.Proofs.Value.Domain

/-!
# Truncated times

Messages of times count nanoseconds, times as expressions see them count microseconds. What is lost is a fraction of a
microsecond: spans are rounded towards zero, instants towards the past. Rounding keeps the order, and it keeps whole
microseconds apart.
-/

namespace Conformance

open Calendar

/-- The types of messages that stand for times. -/
inductive Time where
  | span
  | instant
  deriving DecidableEq, Repr

namespace Time

def kind : Time → String
  | span => "duration"
  | instant => "timestamp"

def typeName : Time → String
  | span => Schema.durationName
  | instant => Schema.timestampName

def value : Time → Int → Value
  | span, n => .span ⟨n⟩
  | instant, n => .instant ⟨n⟩

/-- The microseconds that are left of so many nanoseconds. -/
def truncate : Time → Int → Int
  | span, n => n.tdiv 1000
  | instant, n => n / 1000

end Time

/-- The time since the start of 1970, or the length of time, that a message stands for, to the nanosecond. -/
def Message.nanoseconds (m : Message) : Int := m.integer "seconds" * 1000000000 + m.integer "nanos"

/-- The message is a time: nanoseconds are less than a second; those of a span have the sign of its seconds, those of
an instant count forwards, and its year has four digits. -/
structure Message.IsTime (t : Time) (m : Message) : Prop where
  type : m.type = t.typeName
  parts : match t with
    | .span => (m.integer "nanos").natAbs < 1000000000 ∧
        (0 ≤ m.integer "seconds" ∧ 0 ≤ m.integer "nanos" ∨ m.integer "seconds" ≤ 0 ∧ m.integer "nanos" ≤ 0)
    | .instant => 0 ≤ m.integer "nanos" ∧ m.integer "nanos" ≤ 999999999 ∧
        -62135596800 ≤ m.integer "seconds" ∧ m.integer "seconds" ≤ 253402300799

/-! ## Rounding -/

namespace Time

variable (t : Time) {a b : Int}

theorem truncate_mono (h : a ≤ b) : t.truncate a ≤ t.truncate b := by
  cases t with
  | span => exact Int.tdiv_le_tdiv (by decide) h
  | instant => exact Int.ediv_le_ediv (by decide) h

theorem truncate_whole (n : Int) : t.truncate (1000 * n) = n := by
  cases t with
  | span => exact Int.mul_tdiv_cancel_left n (by decide)
  | instant => exact Int.mul_ediv_cancel_left n (by decide)

/-- Seconds have no fraction to lose; it is lost of nanoseconds of the same sign alone. -/
theorem truncate_span {seconds nanos : Int} (h : 0 ≤ seconds ∧ 0 ≤ nanos ∨ seconds ≤ 0 ∧ nanos ≤ 0) :
    span.truncate (seconds * 1000000000 + nanos) = seconds * 1000000 + nanos.tdiv 1000 := by
  rw [truncate]
  rcases h with ⟨hs, hn⟩ | ⟨hs, hn⟩
  · rw [Int.tdiv_eq_ediv_of_nonneg hn, Int.tdiv_eq_ediv_of_nonneg (by omega)]
    omega
  · have hneg : nanos.tdiv 1000 = -((-nanos) / 1000) := by
      rw [← Int.tdiv_eq_ediv_of_nonneg (by omega), Int.neg_tdiv, Int.neg_neg]
    have hsum : (seconds * 1000000000 + nanos).tdiv 1000 = -((-(seconds * 1000000000 + nanos)) / 1000) := by
      rw [← Int.tdiv_eq_ediv_of_nonneg (by omega), Int.neg_tdiv, Int.neg_neg]
    omega

theorem truncate_instant {seconds nanos : Int} (h : 0 ≤ nanos) :
    instant.truncate (seconds * 1000000000 + nanos) = seconds * 1000000 + nanos.tdiv 1000 := by
  rw [truncate, Int.tdiv_eq_ediv_of_nonneg h]
  omega

theorem lt_of_truncate_lt (h : t.truncate a < t.truncate b) : a < b :=
  Int.not_le.1 fun hle => absurd (t.truncate_mono hle) (Int.not_le.2 h)

theorem truncate_lt_iff (ha : (1000 : Int) ∣ a) (hb : (1000 : Int) ∣ b) : t.truncate a < t.truncate b ↔ a < b := by
  obtain ⟨m, rfl⟩ := ha
  obtain ⟨n, rfl⟩ := hb
  rw [t.truncate_whole, t.truncate_whole]
  omega

theorem truncate_inj (ha : (1000 : Int) ∣ a) (hb : (1000 : Int) ∣ b) : t.truncate a = t.truncate b ↔ a = b := by
  obtain ⟨m, rfl⟩ := ha
  obtain ⟨n, rfl⟩ := hb
  rw [t.truncate_whole, t.truncate_whole]
  omega

end Time

/-! ## Binding -/

section
variable {t : Time} {m : Message}

theorem Message.isBound_iff : m.isBound = true ↔ ∃ v, m.bound = .ok v := by
  unfold Message.isBound
  cases m.bound <;> simp

theorem Message.bound_span (h : m.type = Schema.durationName) : m.bound =
    match Span.ofParts? (m.integer "seconds") (m.integer "nanos") with
    | some d => .ok (.span d)
    | none => .error .tooLarge := by
  rw [bound, h]
  rfl

theorem Message.bound_instant (h : m.type = Schema.timestampName) : m.bound =
    match Instant.ofParts? (m.integer "seconds") (m.integer "nanos") with
    | some i => .ok (.instant i)
    | none => .error .badValue := by
  rw [bound, h]
  rfl

theorem Message.IsTime.ofParts_instant (h : m.IsTime .instant) :
    Instant.ofParts? (m.integer "seconds") (m.integer "nanos") = some ⟨Time.instant.truncate m.nanoseconds⟩ := by
  obtain ⟨hlow, hhigh, hfirst, hlast⟩ := h.parts
  have hmicros : Time.instant.truncate m.nanoseconds = _ := Time.truncate_instant hlow
  have hdiv := Int.tdiv_eq_ediv_of_nonneg (b := 1000) hlow
  unfold Instant.ofParts? Instant.ofMicros?
  rw [if_pos ⟨hlow, hhigh⟩, if_pos (by simp only [Instant.least, Instant.greatest]; omega), hmicros]

theorem Message.IsTime.isBound_instant (h : m.IsTime .instant) : m.isBound = true :=
  isBound_iff.2 ⟨_, by rw [bound_instant h.type, h.ofParts_instant]⟩

theorem Message.IsTime.bound_eq (h : m.IsTime t) (hm : m.isBound = true) :
    m.bound = .ok (t.value (t.truncate m.nanoseconds)) := by
  cases t with
  | span =>
    obtain ⟨v, hv⟩ := isBound_iff.1 hm
    rw [bound_span h.type] at hv ⊢
    rw [nanoseconds, Time.truncate_span h.parts.2]
    revert hv
    unfold Span.ofParts? Span.ofMicros?
    split
    · next hd =>
      split at hd
      · cases hd
        exact fun _ => rfl
      · cases hd
    · exact fun hv => by cases hv
  | instant => rw [bound_instant h.type, h.ofParts_instant]; rfl

end
end Conformance
