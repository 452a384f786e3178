import Conformance.Fault

/-!
# Sorting

A stable sort under a relation that may fail. Which pairs are compared decides the result when the relation
is no order (numbers that are not comparable, sets), so short lists follow one fixed plan: the longest run
at the front is kept, or reversed if it descends, and each further member is put into its place by halving.
-/

namespace Conformance

variable {α : Type}

/-- The number of members, after the first, that continue a run. -/
def runLength (lt : α → α → Except Fault Bool) (descending : Bool) : α → List α → Except Fault Nat
  | _, [] => .ok 0
  | x, y :: ys => do
    if (← lt y x) == descending then return (← runLength lt descending y ys) + 1 else return 0

/-- The place after the last member that is not greater, between two places. -/
def insertionPlace (lt : α → α → Except Fault Bool) (x : α) (xs : Array α) :
    (fuel low high : Nat) → Except Fault Nat
  | 0, low, _ => .ok low
  | fuel + 1, low, high =>
    if low < high then
      let middle := low + (high - low) / 2
      match xs[middle]? with
      | some y => do
        if ← lt x y then insertionPlace lt x xs fuel low middle
        else insertionPlace lt x xs fuel (middle + 1) high
      | none => .ok low
    else .ok low

def insertAll (lt : α → α → Except Fault Bool) : List α → List α → Except Fault (List α)
  | sorted, [] => .ok sorted
  | sorted, x :: xs => do
    let i ← insertionPlace lt x sorted.toArray sorted.length 0 sorted.length
    insertAll lt (sorted.take i ++ x :: sorted.drop i) xs

def sortShort (lt : α → α → Except Fault Bool) : List α → Except Fault (List α)
  | [] => .ok []
  | [x] => .ok [x]
  | x :: y :: rest => do
    let descending ← lt y x
    let n ← runLength lt descending y rest
    let run := (x :: y :: rest).take (n + 2)
    insertAll lt (if descending then run.reverse else run) (rest.drop n)

/-- Merges two sorted lists; of equals the left one comes first. -/
def mergeSorted (lt : α → α → Except Fault Bool) : List α → List α → Except Fault (List α)
  | [], ys => .ok ys
  | xs, [] => .ok xs
  | x :: xs, y :: ys => do
    if ← lt y x then return y :: (← mergeSorted lt (x :: xs) ys)
    else return x :: (← mergeSorted lt xs (y :: ys))
termination_by xs ys => xs.length + ys.length

/-- Lists below this length are sorted by insertion. -/
def shortList : Nat := 64

/-- Sorts a list; the fuel bounds how often it is halved. -/
def sortHalving (lt : α → α → Except Fault Bool) : (fuel : Nat) → List α → Except Fault (List α)
  | 0, xs => sortShort lt xs
  | fuel + 1, xs =>
    if xs.length < shortList then sortShort lt xs
    else do
      let left ← sortHalving lt fuel (xs.take (xs.length / 2))
      let right ← sortHalving lt fuel (xs.drop (xs.length / 2))
      mergeSorted lt left right

def sortBy (lt : α → α → Except Fault Bool) (xs : List α) : Except Fault (List α) :=
  sortHalving lt xs.length xs

end Conformance
