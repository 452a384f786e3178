import Conformance.Text.Graphic

/-!
# Quoted text

Texts and byte strings in quotes, with escapes for what would not show. The quote is an apostrophe
unless the text holds apostrophes and no quotation marks.
-/

namespace Conformance.Text.Quoted

def hexDigit (n : Nat) : Char := if n < 10 then Char.ofNat (48 + n) else Char.ofNat (87 + n)

/-- The last `width` hexadecimal digits of `n`. -/
def hex (width n : Nat) : List Char :=
  match width with
  | 0 => []
  | w + 1 => hex w (n / 16) ++ [hexDigit (n % 16)]

/-- The quote that needs the fewest escapes, the apostrophe on a tie. -/
def quoteFor (s : List Char) : Char :=
  if s.contains '\'' && !s.contains '"' then '"' else '\''

/-- The escape of a character by its code point, as short as it can be. -/
def codeEscape (c : Char) : List Char :=
  let n := c.toNat
  if n < 0x100 then '\\' :: 'x' :: hex 2 n
  else if n < 0x10000 then '\\' :: 'u' :: hex 4 n
  else '\\' :: 'U' :: hex 8 n

/-- A character inside quotes, when the characters of `plain` show as themselves. -/
def escapeChar (plain : Char → Bool) (quote c : Char) : List Char :=
  if c = quote || c = '\\' then ['\\', c]
  else if c = '\n' then ['\\', 'n']
  else if c = '\r' then ['\\', 'r']
  else if c = '\t' then ['\\', 't']
  else if plain c then [c]
  else codeEscape c

def enclose (plain : Char → Bool) (s : List Char) : List Char :=
  let quote := quoteFor s
  quote :: (s.flatMap (escapeChar plain quote) ++ [quote])

def isPlainAscii (c : Char) : Bool := ' ' ≤ c && c ≤ '~'

/-- Text in quotes; graphic characters of every script show as themselves. -/
def text (s : String) : String := String.ofList (enclose isGraphic s.toList)

/-- Text in quotes with ASCII characters only. -/
def asciiText (s : String) : String := String.ofList (enclose isPlainAscii s.toList)

/-- Bytes in quotes after a `b`; printable ASCII shows as itself. -/
def bytes (b : List UInt8) : String :=
  String.ofList ('b' :: enclose isPlainAscii (b.map fun x => Char.ofNat x.toNat))

/-- The escapes of a string in JSON that uses ASCII characters only; characters above the basic plane
are written as two surrogates. -/
def jsonChar (c : Char) : List Char :=
  let unit (n : Nat) : List Char := '\\' :: 'u' :: hex 4 n
  if c = '"' || c = '\\' then ['\\', c]
  else if c = '\n' then ['\\', 'n']
  else if c = '\r' then ['\\', 'r']
  else if c = '\t' then ['\\', 't']
  else if c = '\x08' then ['\\', 'b']
  else if c = '\x0c' then ['\\', 'f']
  else if isPlainAscii c then [c]
  else if c.toNat < 0x10000 then unit c.toNat
  else
    let n := c.toNat - 0x10000
    unit (0xD800 + n / 0x400) ++ unit (0xDC00 + n % 0x400)

/-- A JSON string, quotation marks included. -/
def json (s : String) : String :=
  String.ofList ('"' :: (s.toList.flatMap jsonChar ++ ['"']))

end Conformance.Text.Quoted
