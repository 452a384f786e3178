import Conformance.Value.Arithmetic

/-!
# Expression trees

The syntax of expressions as it was written, constructs outside of the language included, so that a tree
can be checked for them. Every node carries its column: the offset in UTF-8 bytes, within its line, of its
first token. Nodes that are only marks between others have column 0.
-/

namespace Conformance

open Decimal

namespace Expr

inductive Literal where
  | none
  | ellipsis
  | bool (b : Bool)
  | int (n : Nat)
  | float (x : Binary64)
  | imaginary (x : Binary64)
  | text (s : String)
  | bytes (b : List UInt8)
  deriving DecidableEq, Repr

inductive Comparison where
  | eq
  | notEq
  | lt
  | le
  | gt
  | ge
  | same
  | notSame
  | isIn
  | notIn
  deriving DecidableEq, Repr

/-- How a value in a text is converted before it is laid out. -/
inductive Conversion where
  | keep
  | text
  | display
  | ascii
  deriving DecidableEq, Repr

inductive Collected where
  | list
  | set
  | generator
  deriving DecidableEq, Repr

/-- Displays of a row of expressions. -/
inductive Row where
  | list
  | tuple
  | set
  deriving DecidableEq, Repr

end Expr

open Expr

mutual

inductive Expr where
  | literal (column : Nat) (l : Literal)
  | name (column : Nat) (id : String)
  | member (column : Nat) (base : Expr) (name : String)
  | subscript (column : Nat) (base index : Expr)
  | slice (column : Nat) (start stop step : Option Expr)
  /-- A call with arguments by position and by name; an argument without a name unpacks a mapping. -/
  | call (column : Nat) (function : Expr) (args : List Expr) (named : List (Option String × Expr))
  | row (column : Nat) (kind : Row) (items : List Expr)
  /-- A mapping; an entry without a key unpacks a mapping. -/
  | dict (column : Nat) (entries : List (Option Expr × Expr))
  | comprehension (column : Nat) (kind : Collected) (element : Expr) (clauses : List Clause)
  | joined (column : Nat) (parts : List Expr)
  /-- A value as part of a text. -/
  | placed (column : Nat) (value : Expr) (conversion : Conversion) (spec : Option Expr)
  | unary (column : Nat) (op : UnaryOp) (operand : Expr)
  /-- `and` or `or` between two or more operands. -/
  | logical (column : Nat) (isAnd : Bool) (operands : List Expr)
  | binary (column : Nat) (op : BinaryOp) (left right : Expr)
  | compare (column : Nat) (first : Expr) (rest : List (Comparison × Expr))
  | conditional (column : Nat) (condition yes no : Expr)
  /-- Unpacks a sequence into arguments or a row. -/
  | starred (column : Nat) (operand : Expr)
  /-- A construct outside of the language, by its name. -/
  | foreign (column : Nat) (construct : String)

/-- One `for … in …` of a comprehension with its conditions. -/
inductive Clause where
  | mk (target iterated : Expr) (conditions : List Expr) (isAsync : Bool)

end

namespace Expr

instance : Inhabited Expr := ⟨.literal 0 .none⟩

def column : Expr → Nat
  | literal c _ | name c _ | member c _ _ | subscript c _ _ | slice c _ _ _ | call c _ _ _
  | row c _ _ | dict c _ | comprehension c _ _ _ | joined c _ | placed c _ _ _ | unary c _ _
  | logical c _ _ | binary c _ _ _ | compare c _ _ | conditional c _ _ _ | starred c _ | foreign c _ => c

end Expr

namespace Clause

def target : Clause → Expr
  | mk t _ _ _ => t

def iterated : Clause → Expr
  | mk _ i _ _ => i

def conditions : Clause → List Expr
  | mk _ _ cs _ => cs

def isAsync : Clause → Bool
  | mk _ _ _ a => a

end Clause
end Conformance
