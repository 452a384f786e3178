import Conformance.Text.CharSet
import Conformance.Text.NormalTable

/-!
# Normal form of identifiers

Identifiers are compared in normal form KC: every character is decomposed fully, marks are put into the
order of their classes, and what composes is composed.
-/

namespace Conformance.Text.Normal

/-- Full decompositions, by character. -/
def decompositionTable : Array (Char × List Char) :=
  let single := variantForms.toList.zip (plainForms.toList.map ([·]))
  let several := compositeForms.toList.zip ((decompositions.splitOn " ").map String.toList)
  ((single ++ several).mergeSort fun a b => a.1 ≤ b.1).toArray

/-- The pairs of the sequence, two by two. -/
def pairsOf : List Char → List (Char × Char)
  | a :: b :: rest => (a, b) :: pairsOf rest
  | _ => []

/-- What composes: the first character, the second one, and what they compose to. -/
def compositionTable : List ((Char × Char) × Char) :=
  (pairsOf composablePairs.toList).zip composites.toList

/-- The combining class; zero for a character that starts a group. -/
def combiningClass (c : Char) : Nat :=
  if c.toNat < 768 then 0
  else
    match combiningRuns.find? fun (first, last, _) => first ≤ c.toNat && c.toNat ≤ last with
    | some (_, _, n) => n
    | none => 0

def decompose (c : Char) : List Char :=
  let n := c.toNat
  if n < 160 then [c]
  else if 0xAC00 ≤ n && n < 0xD7A4 then
    let i := n - 0xAC00
    let final := i % 28
    [Char.ofNat (0x1100 + i / 588), Char.ofNat (0x1161 + i % 588 / 28)] ++
      (if final = 0 then [] else [Char.ofNat (0x11A7 + final)])
  else (lookup? decompositionTable c).getD [c]

/-- Puts a mark before the marks of higher class at the end of `done`, which is read backwards. -/
def insertMark (c : Char) : List Char → List Char
  | [] => [c]
  | d :: done =>
    if combiningClass c < combiningClass d && combiningClass c != 0 then d :: insertMark c done
    else c :: d :: done

/-- Marks in the order of their classes. -/
def order (s : List Char) : List Char :=
  (s.foldl (fun done c => insertMark c done) []).reverse

def compose? (a b : Char) : Option Char :=
  let m := a.toNat
  let n := b.toNat
  if 0x1100 ≤ m && m < 0x1113 && 0x1161 ≤ n && n < 0x1176 then
    some (Char.ofNat (0xAC00 + (m - 0x1100) * 588 + (n - 0x1161) * 28))
  else if 0xAC00 ≤ m && m < 0xD7A4 && (m - 0xAC00) % 28 == 0 && 0x11A8 ≤ n && n < 0x11C3 then
    some (Char.ofNat (m + (n - 0x11A7)))
  else compositionTable.lookup (a, b)

/-- Composes into `starter` what follows it: `kept` are the marks passed over, read backwards. -/
def composeOnto (starter : Char) (kept : List Char) : List Char → List Char
  | [] => starter :: kept.reverse
  | c :: rest =>
    let blocked :=
      match kept with
      | [] => false
      | d :: _ => combiningClass d == 0 || combiningClass d ≥ combiningClass c
    match (if blocked then none else compose? starter c) with
    | some joined => composeOnto joined kept rest
    | none =>
      if combiningClass c = 0 then starter :: (kept.reverse ++ composeOnto c [] rest)
      else composeOnto starter (c :: kept) rest

/-- Marks before the first starter are left as they are. -/
def composeAll : List Char → List Char
  | [] => []
  | c :: rest =>
    if combiningClass c = 0 then composeOnto c [] rest else c :: composeAll rest

def normalize (s : List Char) : List Char :=
  if s.all (·.toNat < 128) then s else composeAll (order (s.flatMap decompose))

end Conformance.Text.Normal
