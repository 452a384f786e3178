import Conformance.Expr.Tree
import Conformance.Decimal.Numeral
import Conformance.Text.Identifier
import Conformance.Text.Normal

/-!
# Tokens

The lexical level of expressions: names, keywords, numbers, strings and operators, each with its column.
Inside brackets line ends do not count.
-/

namespace Conformance.Expr

open Conformance.Text

abbrev Glyph := Char × Nat

/-- Line ends written as line feeds, whatever they were. -/
def plainLines : List Char → List Char
  | '\r' :: '\n' :: rest => '\n' :: plainLines rest
  | '\r' :: rest => '\n' :: plainLines rest
  | c :: rest => c :: plainLines rest
  | [] => []

def withColumns (column : Nat) : List Char → List Glyph
  | [] => []
  | c :: rest => (c, column) :: withColumns (if c = '\n' then 0 else column + c.utf8Size) rest

structure StringForm where
  raw : Bool
  bytes : Bool
  /-- Expressions in braces are evaluated. -/
  template : Bool
  deriving DecidableEq, Repr

inductive Lexeme where
  | name (s : String)
  | keyword (s : String)
  | number (l : Literal)
  | string (form : StringForm) (body : List Glyph)
  | op (s : String)
  | newline
  deriving DecidableEq, Repr

structure Token where
  lexeme : Lexeme
  column : Nat
  deriving DecidableEq, Repr

def keywords : List String :=
  ["False", "None", "True", "and", "as", "assert", "async", "await", "break", "class", "continue", "def",
    "del", "elif", "else", "except", "finally", "for", "from", "global", "if", "import", "in", "is",
    "lambda", "nonlocal", "not", "or", "pass", "raise", "return", "try", "while", "with", "yield"]

/-- Operators, longer ones before those that they begin with. -/
def operators : List String :=
  ["...", "**", "//", "==", "!=", "<=", ">=", "<<", ">>", "->", ":=", "+", "-", "*", "/", "%", "@", "&", "|",
    "^", "~", "<", ">", "=", "(", ")", "[", "]", "\x7b", "\x7d", ",", ":", ".", ";"]

/-- Brackets are not nested deeper. -/
def bracketLimit : Nat := 200

/-- Characters that may be part of a name as far as the lexer looks at first. -/
def mayBeName (c : Char) : Bool := c == '_' || c.isAlphanum || 128 ≤ c.toNat

def chars (gs : List Glyph) : List Char := gs.map (·.1)

/-! ## Numbers -/

def wordsAfterNumber : List (List Char) :=
  [['a', 'n', 'd'], ['e', 'l', 's', 'e'], ['f', 'o', 'r'], ['i', 'f'], ['i', 'n'], ['i', 's'], ['o', 'r'],
    ['n', 'o', 't']]

def endsNumber (rest : List Char) : Bool :=
  match rest with
  | [] => true
  | c :: _ => !mayBeName c || wordsAfterNumber.any (·.isPrefixOf rest)

/-- Digits with single low lines between them: what they are and what follows. A low line without a digit
after it ends the number wrongly. -/
def takeDigits (isDigit : Char → Bool) : (fuel : Nat) → List Char → Option (List Char × List Char)
  | 0, s => some ([], s)
  | fuel + 1, s =>
    let ds := s.takeWhile isDigit
    match s.dropWhile isDigit with
    | '_' :: rest =>
      if rest.head?.any isDigit then (takeDigits isDigit fuel rest).map fun (a, b) => (ds ++ a, b)
      else none
    | rest => some (ds, rest)

def takeMarked (base : Nat) (s : List Char) : Option (Literal × List Char) := do
  let isDigit (c : Char) : Bool := c.toNat < 128 && (baseDigitValue? c).any (· < base)
  let s := match s with
    | '_' :: r => r
    | r => r
  if !s.head?.any isDigit then none
  let (ds, rest) ← takeDigits isDigit s.length s
  if endsNumber rest && !rest.head?.any isAsciiDigit then
    some (.int (ds.foldl (fun n c => n * base + (baseDigitValue? c).getD 0) 0), rest)
  else none

/-- A decimal number: digits, a fraction, an exponent and the mark of an imaginary number. -/
def takeDecimal (s : List Char) : Option (Literal × List Char) := do
  let (whole, rest) ← takeDigits isAsciiDigit s.length s
  let (fraction, rest) ← match rest with
    | '.' :: r =>
      if r.head? == some '_' then none
      else (takeDigits isAsciiDigit r.length r).map fun (ds, r) => (some ds, r)
    | r => some (none, r)
  let (exponent, rest) ← match rest with
    | e :: r =>
      if e != 'e' && e != 'E' then some (none, rest)
      else
        let (negative, r') := Decimal.takeSign r
        if r'.head?.any isAsciiDigit then
          (takeDigits isAsciiDigit r'.length r').map fun (ds, r) => (some (negative, ds), r)
        else if r.length != r'.length then none
        else some (none, rest)
    | [] => some (none, rest)
  let digits := whole ++ fraction.getD []
  let power : Int := match exponent with
    | some (negative, ds) => if negative then -(Decimal.ofDigits ds : Int) else Decimal.ofDigits ds
    | none => 0
  let x := Decimal.ofScientific false (Decimal.ofDigits digits) (power - (fraction.getD []).length)
  match rest with
  | 'j' :: r | 'J' :: r => if endsNumber r then some (.imaginary x, r) else none
  | _ =>
    if !endsNumber rest then none
    else if fraction.isSome || exponent.isSome then some (.float x, rest)
    else if whole.head? == some '0' && whole.any (· != '0') then none
    else if Decimal.digitLimit < whole.length then none
    else some (.int (Decimal.ofDigits whole), rest)

/-- A number at the start of a text that begins with a digit or with a point before a digit. -/
def takeNumber (s : List Char) : Option (Literal × List Char) :=
  match s with
  | '0' :: m :: rest =>
    match Decimal.markedBase? m with
    | some base => takeMarked base rest
    | none => takeDecimal s
  | _ => takeDecimal s

/-! ## Strings -/

def stringForm? (letters : List Char) : Option StringForm :=
  match letters.map Char.toLower with
  | [] | ['u'] => some ⟨false, false, false⟩
  | ['r'] => some ⟨true, false, false⟩
  | ['b'] => some ⟨false, true, false⟩
  | ['f'] => some ⟨false, false, true⟩
  | ['b', 'r'] | ['r', 'b'] => some ⟨true, true, false⟩
  | ['f', 'r'] | ['r', 'f'] => some ⟨true, false, true⟩
  | _ => none

/-- The body of a string up to its closing quotes, and what follows. A backslash keeps the next character
from ending it; only triple quotes go over line ends. -/
def takeBody (quote : Char) (triple : Bool) : List Glyph → Option (List Glyph × List Glyph)
  | [] => none
  | ('\\', n) :: g :: rest => (takeBody quote triple rest).map fun (a, b) => (('\\', n) :: g :: a, b)
  | g :: rest =>
    if g.1 = quote then
      if !triple then some ([], rest)
      else
        match rest with
        | a :: b :: rest' =>
          if a.1 = quote && b.1 = quote then some ([], rest')
          else (takeBody quote triple rest).map fun (x, y) => (g :: x, y)
        | _ => none
    else if g.1 = '\n' && !triple then none
    else (takeBody quote triple rest).map fun (x, y) => (g :: x, y)

def takeString (gs : List Glyph) : Option (List Glyph × List Glyph) :=
  match gs with
  | a :: b :: c :: rest =>
    if b.1 = a.1 then
      if c.1 = a.1 then takeBody a.1 true rest else some ([], c :: rest)
    else takeBody a.1 false (b :: c :: rest)
  | [a, b] => if b.1 = a.1 then some ([], []) else none
  | _ => none

/-! ## The lexer -/

/-- The token of a word. Keywords are words as they are written, names are brought into normal form. -/
def word? (s : List Char) : Option Lexeme :=
  if keywords.contains (String.ofList s) then some (.keyword (String.ofList s))
  else if isIdentifier s then some (.name (String.ofList (Normal.normalize s)))
  else none

def operator? (s : List Char) : Option String := operators.find? (·.toList.isPrefixOf s)

def bracketDepth (depth : Nat) (op : String) : Nat :=
  if op == "(" || op == "[" || op == "\x7b" then depth + 1
  else if op == ")" || op == "]" || op == "\x7d" then depth - 1
  else depth

/-- Whether a line that has a token begins with blanks. A form feed starts the count of blanks anew. -/
def isIndented (gs : List Glyph) : Bool :=
  let blanks := (chars gs).takeWhile fun c => c == ' ' || c == '\t' || c == '\x0c'
  let next := (chars gs)[blanks.length]?
  blanks.getLast?.any (· != '\x0c') && next.any fun c => c != '#' && c != '\n'

/-- The tokens of a text at a depth of brackets; `fresh` says that the line has no token yet. The fuel
bounds the number of steps. -/
def lex : (fuel : Nat) → (depth : Nat) → (fresh : Bool) → List Glyph → Option (List Token)
  | 0, _, _, _ => none
  | _ + 1, _, _, [] => some []
  | fuel + 1, depth, fresh, (c, n) :: rest =>
    let gs := (c, n) :: rest
    if c = ' ' || c = '\t' || c = '\x0c' then
      if fresh && depth = 0 && isIndented gs then none else lex fuel depth fresh rest
    else if c = '#' then lex fuel depth fresh (rest.dropWhile (·.1 != '\n'))
    else if c = '\n' then
      if depth = 0 && !fresh then (lex fuel depth true rest).map (⟨.newline, n⟩ :: ·)
      else lex fuel depth fresh rest
    else if c = '\\' then
      match rest with
      | ('\n', _) :: g :: rest => lex fuel depth fresh (g :: rest)
      | _ => none
    else if isAsciiDigit c || (c = '.' && rest.head?.any fun g => isAsciiDigit g.1) then do
      let (l, left) ← takeNumber (chars gs)
      let tokens ← lex fuel depth false (gs.drop (gs.length - left.length))
      some (⟨.number l, n⟩ :: tokens)
    else
      let letters := (chars gs).takeWhile Char.isAlpha
      let afterLetters := gs.drop letters.length
      match (if afterLetters.head?.any fun g => g.1 == '\'' || g.1 == '"' then stringForm? letters
          else none) with
      | some form => do
        let (body, left) ← takeString afterLetters
        if form.bytes && body.any (128 ≤ ·.1.toNat) then none
        let tokens ← lex fuel depth false left
        some (⟨.string form body, n⟩ :: tokens)
      | none =>
        if mayBeName c then do
          let w := (chars gs).takeWhile mayBeName
          let lexeme ← word? w
          let tokens ← lex fuel depth false (gs.drop w.length)
          some (⟨lexeme, n⟩ :: tokens)
        else do
          let op ← operator? (chars gs)
          let depth := bracketDepth depth op
          if bracketLimit < depth then none
          let tokens ← lex fuel depth false (gs.drop op.length)
          some (⟨.op op, n⟩ :: tokens)

def tokens? (gs : List Glyph) : Option (List Token) := lex (gs.length + 1) 0 true gs

end Conformance.Expr
