import Conformance.Expr.Token

/-!
# String contents

What the body of a string stands for: escapes are resolved, and templates are taken apart into plain text
and the expressions in braces.
-/

namespace Conformance.Expr

open Conformance.Text

/-! ## Escapes -/

/-- The number that exactly `count` hexadecimal digits denote, and what follows them. -/
def takeHex (count : Nat) (s : List Char) : Option (Nat × List Char) :=
  let ds := s.take count
  if ds.length = count && ds.all fun c => c.toNat < 128 && (baseDigitValue? c).any (· < 16) then
    some (ds.foldl (fun n c => n * 16 + (baseDigitValue? c).getD 0) 0, s.drop count)
  else none

def isOctal (c : Char) : Bool := '0' ≤ c && c ≤ '7'

/-- A code point as a character; surrogates, which no text holds, become the replacement character. -/
def codePoint? (n : Nat) : Option Char :=
  if 0x10FFFF < n then none
  else if n.isValidChar then some (Char.ofNat n)
  else some '\ufffd'

def simpleEscape? : Char → Option Char
  | '\\' => some '\\'
  | '\'' => some '\''
  | '"' => some '"'
  | 'a' => some '\x07'
  | 'b' => some '\x08'
  | 'f' => some '\x0c'
  | 'n' => some '\n'
  | 'r' => some '\r'
  | 't' => some '\t'
  | 'v' => some '\x0b'
  | _ => none

/-- An escape after its backslash: the characters that it stands for and what follows. Unknown escapes
stand for themselves; byte strings know no code points beyond octets. -/
def takeEscape (bytes : Bool) (s : List Char) : Option (List Char × List Char) :=
  match s with
  | [] => none
  | '\n' :: rest => some ([], rest)
  | c :: rest =>
    match simpleEscape? c with
    | some d => some ([d], rest)
    | none =>
      if isOctal c then
        let ds := c :: (rest.take 2).takeWhile isOctal
        let n := ds.foldl (fun n d => n * 8 + (d.toNat - 48)) 0
        some ([Char.ofNat (if bytes then n % 256 else n)], rest.drop (ds.length - 1))
      else if c = 'x' then (takeHex 2 rest).map fun (n, r) => ([Char.ofNat n], r)
      else if bytes then some (['\\', c], rest)
      else if c = 'u' then
        (takeHex 4 rest).bind fun (n, r) => (codePoint? n).map fun d => ([d], r)
      else if c = 'U' then
        (takeHex 8 rest).bind fun (n, r) => (codePoint? n).map fun d => ([d], r)
      else if c = 'N' then none
      else some (['\\', c], rest)

/-- A text with its escapes resolved. The fuel bounds the number of steps. -/
def unescape (bytes : Bool) : (fuel : Nat) → List Char → Option (List Char)
  | 0, _ => none
  | _ + 1, [] => some []
  | fuel + 1, '\\' :: rest => do
    let (cs, rest) ← takeEscape bytes rest
    let left ← unescape bytes fuel rest
    some (cs ++ left)
  | fuel + 1, c :: rest => (unescape bytes fuel rest).map (c :: ·)

def bodyText (form : StringForm) (body : List Char) : Option (List Char) :=
  if form.raw then some body else unescape form.bytes (body.length + 1) body

/-! ## Templates -/

/-- A part of a template: plain text, or an expression with its conversion and its own template as the
specification. -/
inductive Piece where
  | text (s : List Char)
  | place (source : List Glyph) (conversion : Conversion) (spec : Option (List Piece))

structure Scan where
  /-- The closing brackets that are due, the innermost first. -/
  due : List Char
  /-- The quote of the string the scan is in, and whether it is a triple one. -/
  quote : Option (Char × Bool)

def closing? : Char → Option Char
  | '(' => some ')'
  | '[' => some ']'
  | '\x7b' => some '\x7d'
  | _ => none

/-- An expression in braces up to the mark that ends it, and the rest from that mark on. -/
def takeExpression : (fuel : Nat) → Scan → List Glyph → Option (List Glyph × List Glyph)
  | 0, _, _ => none
  | _ + 1, s, [] => if s.quote.isNone && s.due.isEmpty then some ([], []) else none
  | fuel + 1, s, g :: rest =>
    let c := g.1
    let keep (s : Scan) (n : Nat) : Option (List Glyph × List Glyph) :=
      (takeExpression fuel s ((g :: rest).drop n)).map fun (a, b) => ((g :: rest).take n ++ a, b)
    if c = '\\' then none
    else
      match s.quote with
      | some (q, triple) =>
        if c = q then
          if !triple then keep { s with quote := none } 1
          else if chars (rest.take 2) == [q, q] then keep { s with quote := none } 3
          else keep s 1
        else keep s 1
      | none =>
        if c = '\'' || c = '"' then
          if chars (rest.take 2) == [c, c] then keep { s with quote := some (c, true) } 3
          else keep { s with quote := some (c, false) } 1
        else if c = '#' then none
        else
          match closing? c with
          | some d => if bracketLimit ≤ s.due.length then none else keep { s with due := d :: s.due } 1
          | none =>
            let next := (rest.head?.map (·.1)).getD ' '
            if s.due.isEmpty && "!:\x7d=<>".toList.contains c then
              if next = '=' && "!=<>".toList.contains c then keep s 2
              else if c = '<' || c = '>' then keep s 1
              else some ([], g :: rest)
            else if c = ')' || c = ']' || c = '\x7d' then
              match s.due with
              | d :: due => if c = d then keep { s with due } 1 else none
              | [] => none
            else keep s 1

/-- Blanks that may stand around an expression in braces. -/
def isExpressionBlank (c : Char) : Bool :=
  c == ' ' || c == '\t' || c == '\n' || c == '\x0c' || c == '\r' || c == '\x0b'

/-- Plain text up to the next brace that is not doubled: the text as it is written, and the rest. In the
specification of an expression braces are not doubled. -/
def takePlain (raw inSpec : Bool) : (fuel : Nat) → List Glyph → Option (List Char × List Glyph)
  | 0, _ => none
  | _ + 1, [] => some ([], [])
  | fuel + 1, g :: rest =>
    let c := g.1
    let keep (cs : List Char) (rest : List Glyph) : Option (List Char × List Glyph) :=
      (takePlain raw inSpec fuel rest).map fun (a, b) => (cs ++ a, b)
    if c = '\\' && !raw then
      match rest with
      | n :: rest' => if n.1 = '\x7b' || n.1 = '\x7d' then keep [c] rest else keep [c, n.1] rest'
      | [] => keep [c] []
    else if c = '\x7b' || c = '\x7d' then
      if inSpec then some ([], g :: rest)
      else
        match rest with
        | n :: rest' =>
          if n.1 = c then keep [c] rest'
          else if c = '\x7d' then none
          else some ([], g :: rest)
        | [] => if c = '\x7d' then none else some ([], g :: rest)
    else keep [c] rest

/-- An escape sign before a brace stands for itself. -/
def plainText? (raw : Bool) (s : List Char) : Option (List Char) :=
  if raw then some s
  else if s.getLast? == some '\\' && (s.reverse.takeWhile (· == '\\')).length % 2 == 1 then
    (unescape false (s.length + 1) s.dropLast).map (· ++ ['\\'])
  else unescape false (s.length + 1) s

/-- The conversion that a letter after an exclamation mark names. -/
def conversion? : Char → Option Conversion
  | 's' => some .text
  | 'r' => some .display
  | 'a' => some .ascii
  | _ => none

/-- The source that an equals sign after an expression asks to show, blanks around the sign included. -/
def takeShown (source rest : List Glyph) : Option (List Char) × List Glyph :=
  match rest with
  | [] => (none, rest)
  | g :: r =>
    if g.1 = '=' then
      let blanks := r.takeWhile fun g => isExpressionBlank g.1
      (some (chars (source ++ g :: blanks)), r.drop blanks.length)
    else (none, rest)

/-- The conversion after an expression, if it has one. -/
def takeConversion (rest : List Glyph) : Option (Conversion × List Glyph) :=
  match rest with
  | [] => some (.keep, rest)
  | g :: r =>
    if g.1 = '!' then
      match r with
      | l :: r => (conversion? l.1).map fun k => (k, r)
      | [] => none
    else some (.keep, rest)

/-- The parts of a template; `level` counts how deep it is inside of other templates. Inside of one it
ends before the closing brace of that one. -/
def pieces (raw : Bool) : (fuel : Nat) → (level : Nat) → List Glyph → Option (List Piece × List Glyph)
  | 0, _, _ => none
  | fuel + 1, level, gs => do
    let (plain, rest) ← takePlain raw (0 < level) (gs.length + 1) gs
    let text ← plainText? raw plain
    let before := if text.isEmpty then [] else [Piece.text text]
    match rest with
    | [] => some (before, [])
    | g :: inner =>
      if g.1 = '\x7d' then some (before, rest)
      else
        if 2 ≤ level then none
        let (source, rest) ← takeExpression (inner.length + 1) ⟨[], none⟩ inner
        if source.all fun g => isExpressionBlank g.1 then none
        -- an equals sign after the expression shows its source, too
        let (shown, rest) := takeShown source rest
        let (conversion, rest) ← takeConversion rest
        let (spec, rest) ← match rest with
          | [] => some ((none : Option (List Piece)), rest)
          | m :: r =>
            if m.1 = ':' then (pieces raw fuel (level + 1) r).map fun (ps, r) => (some ps, r)
            else some (none, rest)
        match rest with
        | [] => none
        | m :: rest =>
          if m.1 != '\x7d' then none
          let conversion :=
            if shown.isSome && conversion == Conversion.keep && spec.isNone then Conversion.display
            else conversion
          let source := ('(', g.2) :: (source ++ [(')', m.2)])
          let (more, rest) ← pieces raw fuel level rest
          some (before ++ (shown.map Piece.text).toList ++ Piece.place source conversion spec :: more, rest)

def templatePieces (raw : Bool) (body : List Glyph) : Option (List Piece) := do
  let (ps, rest) ← pieces raw (body.length + 1) 0 body
  if rest.isEmpty then some ps else none

end Conformance.Expr
