import Conformance.Text.CaseTable

/-!
# Letter case

Capitals and small letters of whole texts and of single characters (Unicode 14). A text's capital form
may be longer than the text; a sigma at the end of a word has a small form of its own.
-/

namespace Conformance.Text

/-- The small letters, by capital. -/
def smallTable : Array (Char × Char) := (capitals.toList.zip smallLetters.toList).toArray

/-- The capitals, by letter, where the capital is a single character. -/
def raisedTable : Array (Char × Char) := (raisableLetters.toList.zip raisedLetters.toList).toArray

/-- The capital forms of several characters, by letter. -/
def expandedTable : Array (Char × List Char) :=
  (expandingLetters.toList.zip ((raisedSequences.splitOn " ").map String.toList)).toArray

/-- The small form of a single character: the one letter that patterns compare when they ignore case. -/
def smallLetter (c : Char) : Char :=
  if c.toNat < 128 then c.toLower else (lookup? smallTable c).getD c

def raise (c : Char) : List Char :=
  if c.toNat < 128 then [c.toUpper]
  else
    match lookup? expandedTable c with
    | some s => s
    | none => [(lookup? raisedTable c).getD c]

def upper (s : List Char) : List Char := s.flatMap raise

/-- Whether a word ends here, when `before` is read backwards: a letter precedes, and none follows. -/
def endsWord (before after : List Char) : Bool :=
  let cased : List Char → Bool := fun s =>
    match s.dropWhile caseIgnorableSet.contains with
    | [] => false
    | c :: _ => casedSet.contains c
  cased before && !cased after

/-- The small form of a text whose preceding characters are `before`, read backwards. -/
def lowerAfter (before : List Char) : List Char → List Char
  | [] => []
  | c :: rest =>
    let small :=
      if c = 'Σ' then [if endsWord before rest then 'ς' else 'σ']
      else if c = 'İ' then ['i', '\u0307']
      else [smallLetter c]
    small ++ lowerAfter (c :: before) rest

def lower (s : List Char) : List Char := lowerAfter [] s

def lowerByte (b : UInt8) : UInt8 := if 65 ≤ b && b ≤ 90 then b + 32 else b

def upperByte (b : UInt8) : UInt8 := if 97 ≤ b && b ≤ 122 then b - 32 else b

end Conformance.Text
