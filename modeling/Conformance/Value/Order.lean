import Conformance.Value.Same

/-!
# Order of values

Numbers are ordered by what they denote, texts by code points, lists and tuples by their first difference,
sets by inclusion, times by time. Values of other types have no order.
-/

namespace Conformance

inductive Relation where
  | lt
  | le
  | gt
  | ge
  deriving DecidableEq, Repr

namespace Relation

def holds : Relation → Ordering → Bool
  | lt, o => o == .lt
  | le, o => o != .gt
  | gt, o => o == .gt
  | ge, o => o != .lt

end Relation

namespace Value

/-- The order of two numbers; NaN has none. `none` outside when the values are not both real numbers. -/
def compareNumbers? (a b : Value) : Option (Option Ordering) :=
  match a, b with
  | float x, float y => some (x.compare? y)
  | float x, _ => b.integer?.map fun n => x.compareInt? n
  | _, float y => a.integer?.map fun n => (y.compareInt? n).map Ordering.swap
  | _, _ =>
    match a.integer?, b.integer? with
    | some m, some n => some (some (compare m n))
    | _, _ => Option.none

def compareLists {α : Type} (cmp : α → α → Ordering) : List α → List α → Ordering
  | [], [] => .eq
  | [], _ :: _ => .lt
  | _ :: _, [] => .gt
  | a :: as, b :: bs => (cmp a b).then (compareLists cmp as bs)

def compareSets (r : Relation) (xs ys : List Value) : Bool :=
  match r with
  | .le => xs.length ≤ ys.length && allOccur xs ys
  | .lt => xs.length < ys.length && allOccur xs ys
  | .ge => ys.length ≤ xs.length && allOccur ys xs
  | .gt => ys.length < xs.length && allOccur ys xs

mutual

def related (r : Relation) : Value → Value → Except Fault Bool
  | text a, text b => .ok (r.holds (compareLists compare a.toList b.toList))
  | bytes a, bytes b => .ok (r.holds (compareLists compare a b))
  | list a, list b => relatedAll r a b
  | tuple a, tuple b => relatedAll r a b
  | instant a, instant b => .ok (r.holds (compare a.micros b.micros))
  | span a, span b => .ok (r.holds (compare a.micros b.micros))
  | a, b =>
    match compareNumbers? a b with
    | some (some o) => .ok (r.holds o)
    | some Option.none => .ok false
    | Option.none =>
      match a.setMembers?, b.setMembers? with
      | some xs, some ys => .ok (compareSets r xs ys)
      | _, _ => .error .wrongType
termination_by structural x => x

/-- The relation between the first two members that differ, or else between the lengths. -/
def relatedAll (r : Relation) : List Value → List Value → Except Fault Bool
  | [], ys => .ok (r.holds (compare 0 ys.length))
  | _ :: _, [] => .ok (r.holds .gt)
  | x :: xs, y :: ys => if x.same y then relatedAll r xs ys else x.related r y
termination_by structural x => x

end

end Value
end Conformance
