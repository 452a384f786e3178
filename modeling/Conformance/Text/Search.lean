/-!
# Searching in sequences

First places, counts and cuts at a given part, for texts and byte strings alike. Occurrences are
taken from the left and do not overlap.
-/

namespace Conformance.Text

variable {α : Type} [BEq α]

def place? (part : List α) : List α → Option Nat
  | [] => if part.isEmpty then some 0 else none
  | c :: rest => if part.isPrefixOf (c :: rest) then some 0 else (place? part rest).map (· + 1)

def occursIn (part whole : List α) : Bool := (place? part whole).isSome

/-- The pieces of `whole` between at most `limit` occurrences of `part`. An empty `part` never cuts. -/
def cutAt (part : List α) (limit : Nat) (whole : List α) : List (List α) :=
  match limit with
  | 0 => [whole]
  | n + 1 =>
    if part.isEmpty then [whole]
    else
      match place? part whole with
      | none => [whole]
      | some i => whole.take i :: cutAt part n (whole.drop (i + part.length))

def cutAtAll (part whole : List α) : List (List α) := cutAt part whole.length whole

/-- The number of occurrences; an empty part occurs once before each element and once at the end. -/
def occurrences (part whole : List α) : Nat :=
  if part.isEmpty then whole.length + 1 else (cutAtAll part whole).length - 1

/-- The parts of a sequence before and after the first element equal to `c`, if there is one. -/
def splitFirst (c : α) : List α → Option (List α × List α)
  | [] => none
  | d :: rest => if d == c then some ([], rest) else (splitFirst c rest).map fun (a, b) => (d :: a, b)

/-- The parts of a sequence before and after the last element equal to `c`, if there is one. -/
def splitLast (c : α) : List α → Option (List α × List α)
  | [] => none
  | d :: rest =>
    match splitLast c rest with
    | some (a, b) => some (d :: a, b)
    | none => if d == c then some ([], rest) else none

end Conformance.Text
