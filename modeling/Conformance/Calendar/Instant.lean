import Conformance.Calendar.Date

/-!
# Instants and spans

Instants are microseconds since 1970 in universal time, from year 1 to year 9999; spans are differences of
microseconds within 999999999 days. What leaves these ranges is refused.
-/

namespace Conformance.Calendar

/-- A moment in universal time, in microseconds since the start of 1970. -/
structure Instant where
  micros : Int
  deriving DecidableEq, Repr

/-- A length of time in microseconds. -/
structure Span where
  micros : Int
  deriving DecidableEq, Repr

def microsPerDay : Int := 86400000000

namespace Instant

/-- The start of year 1. -/
def least : Int := -62135596800000000

/-- The last microsecond of year 9999. -/
def greatest : Int := 253402300799999999

def ofMicros? (n : Int) : Option Instant :=
  if least ≤ n ∧ n ≤ greatest then some ⟨n⟩ else none

def ofParts? (seconds nanos : Int) : Option Instant :=
  if 0 ≤ nanos ∧ nanos ≤ 999999999 then ofMicros? (seconds * 1000000 + nanos.tdiv 1000) else none

def days (i : Instant) : Int := i.micros.fdiv microsPerDay

def date (i : Instant) : Date := Date.ofDays i.days

/-- Microseconds since midnight. -/
def ofDay (i : Instant) : Nat := (i.micros.fmod microsPerDay).toNat

def hour (i : Instant) : Nat := i.ofDay / 3600000000
def minute (i : Instant) : Nat := i.ofDay / 60000000 % 60
def second (i : Instant) : Nat := i.ofDay / 1000000 % 60
def microsecond (i : Instant) : Nat := i.ofDay % 1000000

/-- Date and time of day with `separator` between them; a fraction is shown when there is one. -/
def textWith (separator : String) (i : Instant) : String :=
  let d := i.date
  padded 4 d.year.toNat ++ "-" ++ padded 2 d.month ++ "-" ++ padded 2 d.day ++ separator ++
    padded 2 i.hour ++ ":" ++ padded 2 i.minute ++ ":" ++ padded 2 i.second ++
    (if i.microsecond = 0 then "" else "." ++ padded 6 i.microsecond) ++ "+00:00"

def text (i : Instant) : String := i.textWith " "

def isoText (i : Instant) : String := i.textWith "T"

/-- The text that names the type and its parts; trailing zero parts of the time are left out. -/
def display (i : Instant) : String :=
  let d := i.date
  let parts := [d.year.toNat, d.month, d.day, i.hour, i.minute] ++
    (if i.microsecond ≠ 0 then [i.second, i.microsecond]
      else if i.second ≠ 0 then [i.second] else [])
  "datetime.datetime(" ++ ", ".intercalate (parts.map toString) ++ ", tzinfo=datetime.timezone.utc)"

end Instant

namespace Span

/-- The least and the greatest span are 999999999 days, the greatest with the rest of its day. -/
def least : Int := -999999999 * microsPerDay
def greatest : Int := 1000000000 * microsPerDay - 1

def ofMicros? (n : Int) : Option Span :=
  if least ≤ n ∧ n ≤ greatest then some ⟨n⟩ else none

def ofParts? (seconds nanos : Int) : Option Span :=
  ofMicros? (seconds * 1000000 + nanos.tdiv 1000)

/-- Whole days, rounded down. -/
def days (s : Span) : Int := s.micros.fdiv microsPerDay

def ofDay (s : Span) : Nat := (s.micros.fmod microsPerDay).toNat

def seconds (s : Span) : Nat := s.ofDay / 1000000

def microseconds (s : Span) : Nat := s.ofDay % 1000000

/-- Days, if any, and the time beyond them; the time is never negative. -/
def text (s : Span) : String :=
  let days := s.days
  let day := if days = 0 then "" else
    toString days ++ " day" ++ (if days.natAbs = 1 then "" else "s") ++ ", "
  let n := s.ofDay
  day ++ toString (n / 3600000000) ++ ":" ++ padded 2 (n / 60000000 % 60) ++ ":" ++
    padded 2 (n / 1000000 % 60) ++ (if s.microseconds = 0 then "" else "." ++ padded 6 s.microseconds)

def display (s : Span) : String :=
  let part (name : String) (n : Int) : List String :=
    if n = 0 then [] else [name ++ "=" ++ toString n]
  let parts := part "days" s.days ++ part "seconds" s.seconds ++ part "microseconds" s.microseconds
  "datetime.timedelta(" ++ (if parts.isEmpty then "0" else ", ".intercalate parts) ++ ")"

end Span

/-- The span from `b` to `a`. Instants are close enough for every difference to be a span. -/
def Instant.since (a b : Instant) : Span := ⟨a.micros - b.micros⟩

def Instant.plus? (i : Instant) (s : Span) : Option Instant := ofMicros? (i.micros + s.micros)

end Conformance.Calendar
