import Conformance.Calendar.Instant

/-!
# Patterned dates

Texts of an instant by a pattern of directives such as `%Y-%m-%d`. An unknown directive stands for itself.
-/

namespace Conformance.Calendar

def monthNames : List String :=
  ["January", "February", "March", "April", "May", "June", "July", "August", "September", "October",
    "November", "December"]

def dayNames : List String :=
  ["Sunday", "Monday", "Tuesday", "Wednesday", "Thursday", "Friday", "Saturday"]

def spaced (n : Nat) : String := if n < 10 then " " ++ toString n else toString n

/-- The number of weeks begun in the year when weeks begin `offset` days after Sunday. -/
def weekOfYear (i : Instant) (offset : Nat) : Nat :=
  (i.date.dayOfYear - 1 + 7 - (weekday i.days + 7 - offset) % 7) / 7

def directive? (i : Instant) (c : Char) : Option String :=
  let d := i.date
  let year := d.year.toNat
  let month := monthNames.getD (d.month - 1) ""
  let name := dayNames.getD (weekday i.days) ""
  let hour12 := if i.hour % 12 = 0 then 12 else i.hour % 12
  let short (s : String) : String := (s.take 3).toString
  let clock := padded 2 i.hour ++ ":" ++ padded 2 i.minute ++ ":" ++ padded 2 i.second
  let slashed := padded 2 d.month ++ "/" ++ padded 2 d.day ++ "/" ++ padded 2 (year % 100)
  match c with
  | 'Y' => some (toString year)
  | 'C' => some (padded 2 (year / 100))
  | 'y' => some (padded 2 (year % 100))
  | 'm' => some (padded 2 d.month)
  | 'd' => some (padded 2 d.day)
  | 'e' => some (spaced d.day)
  | 'H' => some (padded 2 i.hour)
  | 'k' => some (spaced i.hour)
  | 'I' => some (padded 2 hour12)
  | 'l' => some (spaced hour12)
  | 'M' => some (padded 2 i.minute)
  | 'S' => some (padded 2 i.second)
  | 'f' => some (padded 6 i.microsecond)
  | 'p' => some (if i.hour < 12 then "AM" else "PM")
  | 'P' => some (if i.hour < 12 then "am" else "pm")
  | 'j' => some (padded 3 d.dayOfYear)
  | 'a' => some (short name)
  | 'A' => some name
  | 'b' | 'h' => some (short month)
  | 'B' => some month
  | 'w' => some (toString (weekday i.days))
  | 'u' => some (toString (if weekday i.days = 0 then 7 else weekday i.days))
  | 'U' => some (padded 2 (weekOfYear i 0))
  | 'W' => some (padded 2 (weekOfYear i 1))
  | 'V' => some (padded 2 (isoWeek i.days).2)
  | 'G' => some (toString (isoWeek i.days).1)
  | 'g' => some (padded 2 ((isoWeek i.days).1.toNat % 100))
  | 'z' => some "+0000"
  | 'Z' => some "UTC"
  | 's' => some (toString (i.micros.fdiv 1000000))
  | 'D' | 'x' => some slashed
  | 'F' => some (toString year ++ "-" ++ padded 2 d.month ++ "-" ++ padded 2 d.day)
  | 'T' | 'X' => some clock
  | 'R' => some (padded 2 i.hour ++ ":" ++ padded 2 i.minute)
  | 'r' => some (padded 2 hour12 ++ ":" ++ padded 2 i.minute ++ ":" ++ padded 2 i.second ++ " " ++
      (if i.hour < 12 then "AM" else "PM"))
  | 'c' => some (short name ++ " " ++ short month ++ " " ++ spaced d.day ++ " " ++ clock ++ " " ++
      toString year)
  | 'n' => some "\n"
  | 't' => some "\t"
  | '%' => some "%"
  | _ => none

def Instant.patterned (i : Instant) : List Char → List Char
  | [] => []
  | '%' :: c :: rest =>
    match directive? i c with
    | some s => s.toList ++ patterned i rest
    | none => '%' :: c :: patterned i rest
  | c :: rest => c :: patterned i rest

end Conformance.Calendar
