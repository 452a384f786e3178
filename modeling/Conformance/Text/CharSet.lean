/-!
# Character sets

A set of characters is written as the increasing code points at which membership changes, so that a
character belongs to it when the number of changes up to its code point is odd.
-/

namespace Conformance.Text

/-- A set of characters, by the code points where membership changes. -/
structure CharSet where
  ofChanges ::
  changes : Array Nat

namespace CharSet

/-- The number of entries of `changes` between `low` and `high` that are at most `x`, counted from
the start; `changes` is increasing. -/
def rank (changes : Array Nat) (x low high : Nat) : Nat :=
  if low < high then
    let middle := (low + high) / 2
    if changes.getD middle 0 ≤ x then rank changes x (middle + 1) high else rank changes x low middle
  else low
termination_by high - low

def contains (s : CharSet) (c : Char) : Bool :=
  rank s.changes c.toNat 0 s.changes.size % 2 == 1

end CharSet

/-- The value at the place of `c` in a table of pairs that is increasing in its first parts. -/
def lookup? {α : Type} (table : Array (Char × α)) (c : Char) : Option α :=
  let rec search (low high : Nat) : Option α :=
    if low < high then
      let middle := (low + high) / 2
      match table[middle]? with
      | none => none
      | some (d, a) =>
        if d = c then some a
        else if d.toNat < c.toNat then search (middle + 1) high
        else search low middle
    else none
  termination_by high - low
  search 0 table.size

end Conformance.Text
