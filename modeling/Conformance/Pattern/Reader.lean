import Conformance.Decimal.Numeral
import Conformance.Pattern.Basic
import Conformance.Text.Identifier

/-!
# Reading patterns

From the text of a regular expression to its nodes. A backslash and the character after it are one token.
-/

namespace Conformance.Pattern

inductive Malformed where
  | syntactic
  /-- A repetition count beyond what is supported. -/
  | countTooLarge
  /-- Flags that exclude each other. -/
  | contradictoryFlags
  deriving DecidableEq, Repr

inductive Token where
  | plain (c : Char)
  | escaped (c : Char)
  deriving DecidableEq, Repr

namespace Token

/-- The tokens of a text, unless it ends in a single backslash. -/
def ofText? : List Char → Option (List Token)
  | [] => some []
  | ['\\'] => none
  | '\\' :: c :: rest => (ofText? rest).map (.escaped c :: ·)
  | c :: rest => (ofText? rest).map (.plain c :: ·)

def spelling : Token → List Char
  | plain c => [c]
  | escaped c => ['\\', c]

end Token

/-- What has been read so far, and what is left. -/
structure Reading where
  tokens : List Token
  /-- Flags for the whole pattern. -/
  flags : Flags
  names : List (String × Nat)
  /-- The widths of the groups from the first on, `none` while a group is open. -/
  widths : List (Option (Nat × Nat))
  /-- Inside a look-behind, the number of groups before it. -/
  outside : Option Nat
  /-- Numbers of groups that conditions ask for. -/
  conditions : List Nat

abbrev Reader (α : Type) := StateT Reading (Except Malformed) α

namespace Reader

def refuse {α : Type} : Reader α := throw .syntactic

def peek : Reader (Option Token) := do return (← get).tokens.head?

def skip : Reader Unit := modify fun r => { r with tokens := r.tokens.tail }

def next? : Reader (Option Token) := do
  let t ← peek
  skip
  return t

def next : Reader Token := do
  match ← next? with
  | some t => return t
  | none => refuse

def accept (c : Char) : Reader Bool := do
  if (← peek) == some (.plain c) then
    skip
    return true
  return false

def expect (c : Char) : Reader Unit := do
  if !(← accept c) then refuse

def whileUpTo (test : Char → Bool) : Nat → Reader (List Char)
  | 0 => return []
  | n + 1 => do
    match ← peek with
    | some (.plain c) =>
      if test c then
        skip
        return c :: (← whileUpTo test n)
      return []
    | _ => return []

def whileAll (test : Char → Bool) : Reader (List Char) := do
  whileUpTo test (← get).tokens.length

/-- The text before the next occurrence of a character, which must not be empty. -/
def untilChar (c : Char) : Reader (List Char) := do
  let tokens := (← get).tokens
  let name := (tokens.takeWhile (· != .plain c)).flatMap Token.spelling
  match tokens.dropWhile (· != .plain c) with
  | _ :: rest =>
    if name.isEmpty then refuse
    modify fun r => { r with tokens := rest }
    return name
  | [] => refuse

def groupCount : Reader Nat := do return (← get).widths.length

def referable (n : Nat) : Reader (Nat × Nat) := do
  let r ← get
  match r.widths[n - 1]? with
  | some (some w) =>
    match r.outside with
    | some limit => if limit < n then refuse else return w
    | none => return w
  | _ => refuse

end Reader

open Reader

def isHexDigit (c : Char) : Bool :=
  Text.isAsciiDigit c || ('a' ≤ c && c ≤ 'f') || ('A' ≤ c && c ≤ 'F')

def isOctalDigit (c : Char) : Bool := '0' ≤ c && c ≤ '7'

def number (base : Nat) (ds : List Char) : Nat :=
  ds.foldl (fun n c => n * base + (Text.baseDigitValue? c).getD 0) 0

/-- Exactly `width` hexadecimal digits. -/
def hexCode (width : Nat) : Reader Nat := do
  let ds ← whileUpTo isHexDigit width
  if ds.length < width then refuse
  return number 16 ds

def controlEscape? : Char → Option Nat
  | 'a' => some 7
  | 'b' => some 8
  | 'f' => some 12
  | 'n' => some 10
  | 'r' => some 13
  | 't' => some 9
  | 'v' => some 11
  | '\\' => some 92
  | _ => none

def categoryEscape? : Char → Option Item
  | 'd' => some (.category false .digit)
  | 'D' => some (.category true .digit)
  | 's' => some (.category false .space)
  | 'S' => some (.category true .space)
  | 'w' => some (.category false .word)
  | 'W' => some (.category true .word)
  | _ => none

def anchorEscape? : Char → Option Anchor
  | 'A' => some .textStart
  | 'Z' => some .textEnd
  | 'b' => some .boundary
  | 'B' => some .noBoundary
  | _ => none

/-- The code point of an escape that is the same inside and outside of sets. -/
def codeEscape (c : Char) : Reader Nat := do
  match c with
  | 'x' => hexCode 2
  | 'u' => hexCode 4
  | 'U' =>
    let n ← hexCode 8
    if 0x10FFFF < n then refuse
    return n
  | _ => if c.isAlphanum then refuse else return c.toNat

def setEscape (c : Char) : Reader Item := do
  match controlEscape? c with
  | some n => return .single n
  | none =>
    match categoryEscape? c with
    | some item => return item
    | none =>
      if isOctalDigit c then
        let n := number 8 (c :: (← whileUpTo isOctalDigit 2))
        if 0o377 < n then refuse
        return .single n
      return .single (← codeEscape c)

def single (code : Nat) : Node := .set false [.single code]

def reference (n : Nat) : Reader Node := do
  let (least, most) ← referable n
  return .reference n least most

/-- An escape that starts with a digit other than zero: three octal digits are a code point, anything else
is the number of a group. -/
def digitEscape (c : Char) : Reader Node := do
  match ← peek with
  | some (.plain d) =>
    if !Text.isAsciiDigit d then reference (number 10 [c])
    else
      skip
      let octal ← if isOctalDigit c && isOctalDigit d then whileUpTo isOctalDigit 1 else pure []
      match octal with
      | e :: _ =>
        let n := number 8 [c, d, e]
        if 0o377 < n then refuse
        return single n
      | [] => reference (number 10 [c, d])
  | _ => reference (number 10 [c])

def escape (c : Char) : Reader Node := do
  match anchorEscape? c with
  | some a => return .anchor a
  | none =>
    match categoryEscape? c with
    | some item => return .set false [item]
    | none =>
      match controlEscape? c with
      | some n => return single n
      | none =>
        if c = '0' then return single (number 8 (← whileUpTo isOctalDigit 2))
        else if Text.isAsciiDigit c then digitEscape c
        else return single (← codeEscape c)

def member : Token → Reader Item
  | .escaped c => setEscape c
  | .plain c => return .single c.toNat

/-- The members of a set up to its closing bracket, after those of `items`. -/
def setItems : (fuel : Nat) → (items : List Item) → Reader (List Item)
  | 0, _ => refuse
  | fuel + 1, items => do
    let t ← next
    if t == .plain ']' && !items.isEmpty then return items
    let low ← member t
    if !(← accept '-') then setItems fuel (items ++ [low])
    else
      let t ← next
      if t == .plain ']' then return items ++ [low, .single 45]
      match low, ← member t with
      | .single a, .single b =>
        if b < a then refuse
        setItems fuel (items ++ [.range a b])
      | _, _ => refuse

def set : Reader Node := do
  let negated ← accept '^'
  return .set negated (← setItems ((← get).tokens.length + 1) [])

/-- Repetition counts from here on are refused. -/
def countLimit : Nat := 4294967295

def readCount (ds : List Char) : Reader Nat := do
  let n := number 10 ds
  if countLimit ≤ n then throw .countTooLarge
  return n

/-- The counts of a repetition after an opening brace; `none` if the brace stands for itself. -/
def counts? : Reader (Option (Nat × Option Nat)) := do
  let start ← get
  if start.tokens.head? == some (.plain '\x7d') then return none
  let low ← whileAll Text.isAsciiDigit
  let high ← if ← accept ',' then whileAll Text.isAsciiDigit else pure low
  if !(← accept '\x7d') then
    set start
    return none
  let least ← if low.isEmpty then pure 0 else readCount low
  if high.isEmpty then return some (least, none)
  let most ← readCount high
  if most < least then refuse
  return some (least, some most)
where
  set (r : Reading) : Reader Unit := MonadStateOf.set r

def repeatLast (least : Nat) (most : Option Nat) (done : List Node) : Reader (List Node) := do
  match done with
  | [] => refuse
  | .anchor _ :: _ => refuse
  | .repeated .. :: _ => refuse
  | last :: done =>
    let mode ← if ← accept '?' then pure Mode.lazy
      else if ← accept '+' then pure Mode.possessive
      else pure Mode.greedy
    return .repeated mode least most last :: done

def flag? : Char → Option Flags
  | 'i' => some { ignoreCase := true }
  | 'm' => some { multiline := true }
  | 's' => some { dotAll := true }
  | 'x' => some { verbose := true }
  | 'a' => some { ascii := true }
  | 'u' => some { unicode := true }
  | 't' => some { template := true }
  | _ => none

/-- Letters of flags up to a character of `ends`: the flags and that character. At least one flag is there. -/
def flagLetters (ends : List Char) (seen : Flags) : (fuel : Nat) → Token → Reader (Flags × Char)
  | 0, _ => refuse
  | fuel + 1, .plain c => do
    match flag? c with
    | none => refuse
    | some f =>
      let seen := seen.or f
      if seen.ascii && seen.unicode then refuse
      match ← next with
      | .plain d => if ends.contains d then return (seen, d) else flagLetters ends seen fuel (.plain d)
      | .escaped _ => refuse
  | _ + 1, .escaped _ => refuse

/-- Flags after `(?`, the first letter of which is given. `none` when they are for the whole pattern. -/
def flagGroup (first : Char) : Reader (Option (Flags × Flags)) := do
  let fuel := (← get).tokens.length + 1
  let (on, stop) ← if first = '-' then pure (({} : Flags), '-')
    else flagLetters [')', '-', ':'] {} fuel (.plain first)
  if stop = ')' then
    modify fun r => { r with flags := r.flags.or on }
    return none
  if on.template then refuse
  let off ← if stop = '-' then pure (← flagLetters [':'] {} fuel (← next)).1 else pure {}
  if off.ascii || off.unicode || off.template then refuse
  if on.and off != {} then refuse
  return some (on, off)

structure Position where
  verbose : Bool
  /-- The outermost level. -/
  outermost : Bool
  /-- The first alternative of the outermost level, where flags for the whole pattern may stand. -/
  leading : Bool

inductive Opened where
  | capturing (name : Option String)
  | plain
  | atomic
  | flagged (on off : Flags)
  | ahead (wanted : Bool)
  | behind (wanted : Bool)
  | condition (number : Nat)
  /-- A node that is complete with its parenthesis. -/
  | complete (node : Option Node)
  | globalFlags

def groupNamed? (name : String) : Reader (Option Nat) := do return (← get).names.lookup name

def groupName (close : Char) : Reader String := do
  let name ← untilChar close
  if !Text.isIdentifier name then refuse
  return String.ofList name

def conditionGroup : Reader Nat := do
  let name ← untilChar ')'
  if Text.isIdentifier name then
    match ← groupNamed? (String.ofList name) with
    | some n => return n
    | none => refuse
  else
    match Decimal.readInteger? 10 name with
    | some n =>
      if n ≤ 0 || 1073741823 ≤ n then refuse
      modify fun r => { r with conditions := n.toNat :: r.conditions }
      return n.toNat
    | none => refuse

def comment : Reader Unit := do
  match (← get).tokens.dropWhile (· != .plain ')') with
  | _ :: rest => modify fun r => { r with tokens := rest }
  | [] => refuse

def opening : Reader Opened := do
  if !(← accept '?') then return .capturing none
  match ← next with
  | .escaped _ => refuse
  | .plain c =>
    match c with
    | 'P' =>
      if ← accept '<' then return .capturing (some (← groupName '>'))
      else if ← accept '=' then
        match ← groupNamed? (← groupName ')') with
        | some n => return .complete (some (← reference n))
        | none => refuse
      else refuse
    | ':' => return .plain
    | '#' =>
      comment
      return .complete none
    | '=' => return .ahead true
    | '!' => return .ahead false
    | '<' =>
      if ← accept '=' then return .behind true
      else if ← accept '!' then return .behind false
      else refuse
    | '(' =>
      let n ← conditionGroup
      if (← get).outside.isSome then discard (referable n)
      return .condition n
    | '>' => return .atomic
    | _ =>
      match ← flagGroup c with
      | some (on, off) => return .flagged on off
      | none => return .globalFlags

def openGroup (name : Option String) : Reader Nat := do
  let n := (← groupCount) + 1
  match name with
  | some s =>
    if (← groupNamed? s).isSome then refuse
    modify fun r => { r with names := (s, n) :: r.names }
  | none => pure ()
  modify fun r => { r with widths := r.widths ++ [none] }
  return n

def closeGroup (n : Nat) (body : Node) : Reader Unit :=
  modify fun r => { r with widths := r.widths.set (n - 1) (some body.width) }

def skipLine : Reader Unit :=
  modify fun r => { r with tokens := (r.tokens.dropWhile (· != .plain '\n')).tail }

mutual

/-- Alternatives, as far as a closing parenthesis or the end. -/
def alternatives (fuel : Nat) (here : Position) : Reader Node := do
  match fuel with
  | 0 => refuse
  | fuel + 1 =>
    let first ← sequence fuel here []
    if ← accept '|' then
      let flags := (← get).flags
      let verbose := if here.outermost then flags.verbose else here.verbose
      return .alt first (← alternatives fuel { here with verbose, leading := false })
    return first

/-- Nodes one after the other, after those of `done`, which are read backwards. -/
def sequence (fuel : Nat) (here : Position) (done : List Node) : Reader Node := do
  match fuel with
  | 0 => refuse
  | fuel + 1 =>
    match ← peek with
    | none => return .ofList done.reverse
    | some (.escaped c) =>
      skip
      sequence fuel here ((← escape c) :: done)
    | some (.plain c) =>
      if c = '|' || c = ')' then return .ofList done.reverse
      skip
      if here.verbose && (c == ' ' || ('\t' ≤ c && c ≤ '\r')) then sequence fuel here done
      else if here.verbose && c = '#' then
        skipLine
        sequence fuel here done
      else
        match c with
        | '[' => sequence fuel here ((← set) :: done)
        | '?' => sequence fuel here (← repeatLast 0 (some 1) done)
        | '*' => sequence fuel here (← repeatLast 0 none done)
        | '+' => sequence fuel here (← repeatLast 1 none done)
        | '\x7b' =>
          match ← counts? with
          | some (least, most) => sequence fuel here (← repeatLast least most done)
          | none => sequence fuel here (single c.toNat :: done)
        | '.' => sequence fuel here (.any :: done)
        | '^' => sequence fuel here (.anchor .start :: done)
        | '$' => sequence fuel here (.anchor .finish :: done)
        | '(' =>
          match ← opening with
          | .globalFlags =>
            if !here.leading || !done.isEmpty then refuse
            let flags := (← get).flags
            sequence fuel { here with verbose := flags.verbose } done
          | .complete none => sequence fuel here done
          | .complete (some node) => sequence fuel here (node :: done)
          | opened => sequence fuel here ((← groupBody fuel here opened) :: done)
        | _ => sequence fuel here (single c.toNat :: done)

/-- The node that an opening begins, through its closing parenthesis. -/
def groupBody (fuel : Nat) (here : Position) (opened : Opened) : Reader Node := do
  match fuel with
  | 0 => refuse
  | fuel + 1 =>
    let inner : Position := ⟨here.verbose, false, false⟩
    match opened with
    | .capturing name =>
      let n ← openGroup name
      let body ← alternatives fuel inner
      expect ')'
      closeGroup n body
      return .group n body
    | .atomic =>
      let body ← alternatives fuel inner
      expect ')'
      return .atomic body
    | .flagged on off =>
      let verbose := (here.verbose || on.verbose) && !off.verbose
      let body ← alternatives fuel { inner with verbose }
      expect ')'
      return .flagged on off body
    | .ahead wanted =>
      let body ← alternatives fuel inner
      expect ')'
      return .ahead wanted body
    | .behind wanted =>
      let outside := (← get).outside
      modify fun r => { r with outside := r.outside.or (some r.widths.length) }
      let body ← alternatives fuel inner
      modify fun r => { r with outside }
      expect ')'
      if body.width.1 != body.width.2 then refuse
      return .behind wanted body.width.1 body
    | .condition n =>
      let yes ← sequence fuel inner []
      let no ← if ← accept '|' then sequence fuel inner [] else pure .empty
      expect ')'
      return .condition n yes no
    | _ =>
      let body ← alternatives fuel inner
      expect ')'
      -- a repetition inside is a node of its own, so that it can be repeated again
      return .flagged {} {} body

end

def ofText (source : String) : Except Malformed Pattern := do
  match Token.ofText? source.toList with
  | none => throw .syntactic
  | some tokens =>
    let start : Reading := ⟨tokens, {}, [], [], none, []⟩
    let (node, r) ← (alternatives (4 * tokens.length + 8) ⟨false, true, true⟩).run start
    if r.flags.ascii && r.flags.unicode then throw .contradictoryFlags
    if !r.tokens.isEmpty then throw .syntactic
    if r.conditions.any (r.widths.length < ·) then throw .syntactic
    if r.flags.template && node.repeats then throw .syntactic
    return ⟨source, r.flags, r.widths.length, node⟩

end Conformance.Pattern
