import Conformance.Decimal.Layout
import Conformance.Text.Quoted
import Conformance.Value.Basic

/-!
# Texts of values

The text that shows a value as it would be written, and the plain text. Integers of more than 4300 digits
have no text.
-/

namespace Conformance

open Decimal Text

/-- Integers of more digits are not converted to text. -/
def integerDigitLimit : Nat := 4300

def integerText (n : Int) : Except Fault String :=
  -- 2^14300 has more digits than allowed, so that only short numbers are converted
  if 14300 < n.natAbs.log2 then .error .badValue
  else
    let s := toString n.natAbs
    if integerDigitLimit < s.length then .error .badValue
    else .ok (if n < 0 then "-" ++ s else s)

def complexPart (plus : Bool) (x : Binary64) : String :=
  let sign := if x.isNegative then "-" else if plus then "+" else ""
  sign ++ String.ofList (layOut x .shortest {})

def complexText (re im : Binary64) : String :=
  if re.isZero && !re.isNegative then complexPart false im ++ "j"
  else "(" ++ complexPart false re ++ complexPart true im ++ "j)"

def Pattern.Flags.names (f : Pattern.Flags) : List String :=
  let name (b : Bool) (s : String) : List String := if b then [s] else []
  name f.template "re.TEMPLATE" ++ name f.ignoreCase "re.IGNORECASE" ++ name f.multiline "re.MULTILINE" ++
    name f.dotAll "re.DOTALL" ++ name f.verbose "re.VERBOSE" ++ name f.ascii "re.ASCII"

def Pattern.display (p : Pattern) : String :=
  let flags := p.flags.names
  "re.compile(" ++ String.ofList ((Quoted.text p.source).toList.take 200) ++
    (if flags.isEmpty then "" else ", " ++ "|".intercalate flags) ++ ")"

namespace Message

/-- A text inside quotation marks, with octal escapes for what would not show. -/
def quotedField (b : List UInt8) : String :=
  let escape (x : UInt8) : List Char :=
    let c := Char.ofNat x.toNat
    if c = '\n' then ['\\', 'n']
    else if c = '\r' then ['\\', 'r']
    else if c = '\t' then ['\\', 't']
    else if c = '"' || c = '\\' || c = '\'' then ['\\', c]
    else if ' ' ≤ c ∧ c ≤ '~' then [c]
    else
      let n := x.toNat
      ['\\', Char.ofNat (48 + n / 64), Char.ofNat (48 + n / 8 % 8), Char.ofNat (48 + n % 8)]
  String.ofList ('"' :: (b.flatMap escape ++ ['"']))

def indentation (depth : Nat) : String := String.ofList (List.replicate (2 * depth) ' ')

mutual

/-- A line of a field, or the lines of a message field. -/
def datumLines (depth : Nat) (name : String) : Datum → String
  | .bool b => indentation depth ++ name ++ ": " ++ (if b then "true" else "false") ++ "\n"
  | .int n => indentation depth ++ name ++ ": " ++ toString n ++ "\n"
  | .float x => indentation depth ++ name ++ ": " ++
      String.ofList ((if x.isNegative then ['-'] else []) ++ layOut x .shortest {}) ++ "\n"
  | .text s => indentation depth ++ name ++ ": " ++ quotedField (Utf8.encode s.toList) ++ "\n"
  | .bytes b => indentation depth ++ name ++ ": " ++ quotedField b ++ "\n"
  | .message m => indentation depth ++ name ++ " \x7b\n" ++ messageLines (depth + 1) m ++
      indentation depth ++ "\x7d\n"
termination_by structural x => x

def dataLines (depth : Nat) (name : String) : List Datum → String
  | [] => ""
  | d :: ds => datumLines depth name d ++ dataLines depth name ds
termination_by structural x => x

def entryLines (depth : Nat) (name : String) : Datum × Datum → String
  | (k, v) => indentation depth ++ name ++ " \x7b\n" ++ datumLines (depth + 1) "key" k ++
      datumLines (depth + 1) "value" v ++ indentation depth ++ "\x7d\n"
termination_by structural x => x

def entriesLines (depth : Nat) (name : String) : List (Datum × Datum) → String
  | [] => ""
  | e :: es => entryLines depth name e ++ entriesLines depth name es
termination_by structural x => x

def contentLines (depth : Nat) (name : String) : Content → String
  | .single d => datumLines depth name d
  | .repeated ds => dataLines depth name ds
  | .entries es => entriesLines depth name es
termination_by structural x => x

def fieldLines (depth : Nat) : String × Content → String
  | (name, c) => contentLines depth name c
termination_by structural x => x

def fieldsLines (depth : Nat) : List (String × Content) → String
  | [] => ""
  | f :: fs => fieldLines depth f ++ fieldsLines depth fs
termination_by structural x => x

def messageLines (depth : Nat) : Message → String
  | .mk _ fs => fieldsLines depth fs
termination_by structural x => x

end

/-- The text of a message: one line for each value, in the order of the fields. -/
def text (m : Message) : String := messageLines 0 m

end Message

namespace Value

def functionText (f : Function) : String :=
  if f.isType then "<class '" ++ f.name ++ "'>"
  else if f.isBasic then "<built-in function " ++ f.name ++ ">"
  else "<function " ++ f.name ++ ">"

def bracketed (left right : String) (parts : List String) : String :=
  left ++ ", ".intercalate parts ++ right

/-- The name of a view of a mapping around what it shows. -/
def viewText (ofField : Bool) (side : Side) (keys values : List String) : String :=
  let pairs := List.zipWith (fun k v => (k, v)) keys values
  let braces := bracketed "\x7b" "\x7d" (pairs.map fun (k, v) => k ++ ": " ++ v)
  match ofField, side with
  | true, .keys => "KeysView(" ++ braces ++ ")"
  | true, .values => "ValuesView(" ++ braces ++ ")"
  | true, .items => "ItemsView(" ++ braces ++ ")"
  | false, .keys => "dict_keys(" ++ bracketed "[" "]" keys ++ ")"
  | false, .values => "dict_values(" ++ bracketed "[" "]" values ++ ")"
  | false, .items =>
    "dict_items(" ++ bracketed "[" "]" (pairs.map fun (k, v) => "(" ++ k ++ ", " ++ v ++ ")") ++ ")"

mutual

def display : Value → Except Fault String
  | none => .ok "None"
  | ellipsis => .ok "Ellipsis"
  | bool b => .ok (if b then "True" else "False")
  | int n => integerText n
  | float x => .ok x.text
  | complex a b => .ok (complexText a b)
  | text s => .ok (Quoted.text s)
  | bytes b => .ok (Quoted.bytes b)
  | list xs | elements _ xs => return bracketed "[" "]" (← displayAll xs)
  | tuple xs => do
    match ← displayAll xs with
    | [s] => return "(" ++ s ++ ",)"
    | ss => return bracketed "(" ")" ss
  | set frozen xs => do
    let ss ← displayAll xs
    if ss.isEmpty then return (if frozen then "frozenset()" else "set()")
    let braces := bracketed "\x7b" "\x7d" ss
    return if frozen then "frozenset(" ++ braces ++ ")" else braces
  | dict es | entries _ _ es => do
    let pairs ← displayEntries es
    return bracketed "\x7b" "\x7d" (pairs.map fun (k, v) => k ++ ": " ++ v)
  | view ofField side es => do
    let pairs ← displayEntries es
    return viewText ofField side (pairs.map (·.1)) (pairs.map (·.2))
  | slice a b c => return bracketed "slice(" ")" [← display a, ← display b, ← display c]
  | instant i => .ok i.display
  | span s => .ok s.display
  | zone => .ok "datetime.timezone.utc"
  | pattern p => .ok p.display
  | message m => .ok m.text
  | descriptor _ => .ok "<google._upb._message.Descriptor object>"
  | generator _ => .ok "<generator object <genexpr>>"
  | function f => .ok (functionText f)
  | method receiver name => .ok ("<built-in method " ++ name ++ " of " ++ receiver.typeName ++ " object>")
  | unbound type name => .ok ("<method '" ++ name ++ "' of '" ++ type ++ "' objects>")
  | other type => .ok ("<" ++ type ++ " object>")
termination_by structural x => x

def displayAll : List Value → Except Fault (List String)
  | [] => .ok []
  | x :: xs => return (← display x) :: (← displayAll xs)
termination_by structural x => x

def displayEntry : Value × Value → Except Fault (String × String)
  | (k, v) => return (← display k, ← display v)
termination_by structural x => x

def displayEntries : List (Value × Value) → Except Fault (List (String × String))
  | [] => .ok []
  | e :: es => return (← displayEntry e) :: (← displayEntries es)
termination_by structural x => x

end

/-- The plain text of a value: texts stand for themselves, times are written in full. -/
def plainText : Value → Except Fault String
  | text s => .ok s
  | instant i => .ok i.text
  | span s => .ok s.text
  | zone => .ok "UTC"
  | v => v.display

/-- The display of a value with ASCII characters only. -/
def asciiDisplay (v : Value) : Except Fault String := do
  let s ← v.display
  return String.ofList (s.toList.flatMap fun c => if c.toNat < 128 then [c] else Quoted.codeEscape c)

end Value
end Conformance
