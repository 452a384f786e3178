/-!
# Dates

Days counted from 1 January 1970 and their year, month and day in the Gregorian calendar.
-/

namespace Conformance.Calendar

structure Date where
  year : Int
  month : Nat
  day : Nat
  deriving DecidableEq, Repr

/-- The date of a day. Years are counted from March, in cycles of 400 years of 146097 days. -/
def Date.ofDays (days : Int) : Date :=
  let shifted := days + 719468
  let cycle := shifted.fdiv 146097
  let dayOfCycle := (shifted - cycle * 146097).toNat
  let yearOfCycle := (dayOfCycle - dayOfCycle / 1460 + dayOfCycle / 36524 - dayOfCycle / 146096) / 365
  let dayOfYear := dayOfCycle - (365 * yearOfCycle + yearOfCycle / 4 - yearOfCycle / 100)
  let monthFromMarch := (5 * dayOfYear + 2) / 153
  let month := if monthFromMarch < 10 then monthFromMarch + 3 else monthFromMarch - 9
  { year := cycle * 400 + yearOfCycle + (if month ≤ 2 then 1 else 0)
    month
    day := dayOfYear - (153 * monthFromMarch + 2) / 5 + 1 }

def Date.toDays (d : Date) : Int :=
  let year := if d.month ≤ 2 then d.year - 1 else d.year
  let cycle := year.fdiv 400
  let yearOfCycle := (year - cycle * 400).toNat
  let monthFromMarch := if d.month ≤ 2 then d.month + 9 else d.month - 3
  let dayOfYear := (153 * monthFromMarch + 2) / 5 + d.day - 1
  let dayOfCycle := yearOfCycle * 365 + yearOfCycle / 4 - yearOfCycle / 100 + dayOfYear
  cycle * 146097 + dayOfCycle - 719468

/-- Days since the last Sunday. -/
def weekday (days : Int) : Nat := ((days + 4) % 7).toNat

/-- The place of a date in its year, from one. -/
def Date.dayOfYear (d : Date) : Nat := (d.toDays - Date.toDays ⟨d.year, 1, 1⟩ + 1).toNat

/-- The year and number of the week that a day belongs to: weeks start on Monday and belong to the year of
their Thursday. -/
def isoWeek (days : Int) : Int × Nat :=
  let sinceMonday := (days + 3) % 7
  let thursday := Date.ofDays (days - sinceMonday + 3)
  (thursday.year, (thursday.dayOfYear - 1) / 7 + 1)

/-- A number with zeros in front up to `width` digits. -/
def padded (width n : Nat) : String :=
  let s := toString n
  String.ofList (List.replicate (width - s.length) '0') ++ s

end Conformance.Calendar
