import Conformance.Decimal.Digits
import Conformance.Text.Quoted

/-!
# Paths

Where a value is, from the message that is validated: names of fields, places in repeated fields and keys of
maps.
-/

namespace Conformance

open Text

inductive Key where
  | bool (b : Bool)
  | int (n : Int)
  | text (s : String)
  deriving DecidableEq, Repr

inductive PathElement where
  | field (name : String)
  | index (i : Int)
  | key (k : Key)
  deriving DecidableEq, Repr

abbrev Path := List PathElement

def decimalText (n : Int) : String :=
  (if n < 0 then "-" else "") ++ String.ofList (Decimal.digitsOf n.natAbs)

namespace Key

def shown : Key → String
  | bool b => if b then "true" else "false"
  | int n => decimalText n
  | text s => Quoted.json s

def number? : Key → Option Int
  | bool b => some (if b then 1 else 0)
  | int n => some n
  | text _ => none

/-- Equality of keys: truth values equal the numbers zero and one. -/
def same : Key → Key → Bool
  | text a, text b => a == b
  | a, b => a.number?.isSome && a.number? == b.number?

end Key

namespace PathElement

def same : PathElement → PathElement → Bool
  | field a, field b => a == b
  | index a, index b => a == b
  | key a, key b => a.same b
  | _, _ => false

end PathElement

namespace Path

def tailText : PathElement → String
  | .field name => "." ++ name
  | .index i => "[" ++ decimalText i ++ "]"
  | .key k => "[" ++ k.shown ++ "]"

def headText : PathElement → String
  | .field name => name
  | e => tailText e

def text : Path → String
  | [] => ""
  | e :: es => headText e ++ String.join (es.map tailText)

def same : Path → Path → Bool
  | [], [] => true
  | a :: as, b :: bs => a.same b && same as bs
  | _, _ => false

end Path
end Conformance
