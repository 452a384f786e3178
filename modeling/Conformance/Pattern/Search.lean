import Conformance.Pattern.Basic
import Conformance.Pattern.Kin

/-!
# Search

Matching with backtracking. A matcher is given what has to match afterwards, so that a choice is undone
when the rest fails. Greedy choices try more first, lazy ones fewer; look-around and atomic nodes keep
their first match.
-/

namespace Conformance.Pattern

/-- A place in a text with the texts of the groups matched so far. -/
structure Place where
  /-- What precedes, read backwards. -/
  before : List Char
  rest : List Char
  groups : List (Nat × List Char)

namespace Place

def offset (p : Place) : Nat := p.before.length

def back? (p : Place) (n : Nat) : Option Place :=
  if n ≤ p.before.length then
    some { p with before := p.before.drop n, rest := (p.before.take n).reverse ++ p.rest }
  else none

/-- One character further, if the next one passes the test. -/
def step? (p : Place) (test : Char → Bool) : Option Place :=
  match p.rest with
  | c :: rest => if test c then some { p with before := c :: p.before, rest } else none
  | [] => none

end Place

/-- A matcher: the first place at which `rest` is content after a match from a place. -/
abbrev Matcher := Place → (rest : Place → Option Place) → Option Place

def Item.contains (flags : Flags) (c : Char) : Item → Bool
  | .single code =>
    if flags.ignoreCase then sameLetter flags.ascii c.toNat code else c.toNat == code
  | .range low high =>
    if flags.ignoreCase then letterBetween flags.ascii low high c.toNat
    else low ≤ c.toNat && c.toNat ≤ high
  | .category negated k => k.contains flags.ascii c != negated

def isWordAt (flags : Flags) (s : List Char) : Bool :=
  match s with
  | c :: _ => Category.word.contains flags.ascii c
  | [] => false

def Anchor.holds (flags : Flags) (p : Place) : Anchor → Bool
  | .start => p.before.isEmpty || (flags.multiline && p.before.head? == some '\n')
  | .finish =>
    p.rest.isEmpty || p.rest == ['\n'] || (flags.multiline && p.rest.head? == some '\n')
  | .textStart => p.before.isEmpty
  | .textEnd => p.rest.isEmpty
  | .boundary => isWordAt flags p.before != isWordAt flags p.rest
  | .noBoundary =>
    !(p.before.isEmpty && p.rest.isEmpty) && isWordAt flags p.before == isWordAt flags p.rest

def spell (flags : Flags) : List Char → Place → Option Place
  | [], p => some p
  | c :: cs, p =>
    match p.step? (fun d => Item.contains flags d (.single c.toNat)) with
    | some q => spell flags cs q
    | none => none

def exactly (body : Matcher) : Nat → Matcher
  | 0 => fun p rest => rest p
  | n + 1 => fun p rest => body p fun q => exactly body n q rest

/-- Whether another turn is allowed: turns are left, and the last one moved on. -/
def mayRepeat (left : Option Nat) (last : Option Nat) (p : Place) : Bool :=
  left != some 0 && last != some p.offset

/-- More turns of `body`, as many as possible first. Every turn but the last moves on, so that the length of
the rest bounds the number of turns. -/
def greedily (body : Matcher) : (fuel : Nat) → (left last : Option Nat) → Matcher
  | 0, _, _ => fun p rest => rest p
  | fuel + 1, left, last => fun p rest =>
    if mayRepeat left last p then
      match body p fun q => greedily body fuel (left.map (· - 1)) (some p.offset) q rest with
      | some q => some q
      | none => rest p
    else rest p

/-- More turns of `body`, as few as possible first. -/
def lazily (body : Matcher) : (fuel : Nat) → (left last : Option Nat) → Matcher
  | 0, _, _ => fun p rest => rest p
  | fuel + 1, left, last => fun p rest =>
    match rest p with
    | some q => some q
    | none =>
      if mayRepeat left last p then
        body p fun q => lazily body fuel (left.map (· - 1)) (some p.offset) q rest
      else none

/-- Turns of `body`, each settled at its first match, until one fails or does not move on. -/
def exhaust (body : Matcher) : (fuel : Nat) → (left : Option Nat) → Place → Place
  | 0, _, p => p
  | fuel + 1, left, p =>
    if left == some 0 then p
    else
      match body p some with
      | some q => if q.offset = p.offset then q else exhaust body fuel (left.map (· - 1)) q
      | none => p

def exactlySettled (body : Matcher) : Nat → Place → Option Place
  | 0, p => some p
  | n + 1, p => (body p some).bind (exactlySettled body n)

def repeatMatch (mode : Mode) (least : Nat) (most : Option Nat) (body : Matcher) : Matcher :=
  let left := most.map (· - least)
  match mode with
  | .greedy => fun p rest =>
    exactly body least p fun q => greedily body (q.rest.length + 2) left none q rest
  | .lazy => fun p rest =>
    exactly body least p fun q => lazily body (q.rest.length + 2) left none q rest
  | .possessive => fun p rest =>
    match exactlySettled body least p with
    | some q => rest (exhaust body (q.rest.length + 2) left q)
    | none => none

def Node.matcher (flags : Flags) : Node → Matcher
  | .empty => fun p rest => rest p
  | .any => fun p rest => (p.step? fun c => flags.dotAll || c != '\n').bind rest
  | .set negated items => fun p rest =>
    (p.step? fun c => items.any (Item.contains flags c) != negated).bind rest
  | .anchor a => fun p rest => if a.holds flags p then rest p else none
  | .seq a b => fun p rest => a.matcher flags p fun q => b.matcher flags q rest
  | .alt a b => fun p rest =>
    match a.matcher flags p rest with
    | some q => some q
    | none => b.matcher flags p rest
  | .repeated mode least most body => repeatMatch mode least most (body.matcher flags)
  | .group n body => fun p rest =>
    body.matcher flags p fun q =>
      rest { q with groups := (n, p.rest.take (q.offset - p.offset)) :: q.groups }
  | .flagged on off body => body.matcher (flags.within on off)
  | .reference n _ _ => fun p rest =>
    match p.groups.lookup n with
    | some s => (spell flags s p).bind rest
    | none => none
  | .atomic body => fun p rest => (body.matcher flags p some).bind rest
  | .ahead wanted body => fun p rest =>
    match body.matcher flags p some with
    | some q => if wanted then rest { p with groups := q.groups } else none
    | none => if wanted then none else rest p
  | .behind wanted width body => fun p rest =>
    match (p.back? width).bind fun q => body.matcher flags q some with
    | some q => if wanted then rest { p with groups := q.groups } else none
    | none => if wanted then none else rest p
  | .condition n yes no => fun p rest =>
    match p.groups.lookup n with
    | some _ => yes.matcher flags p rest
    | none => no.matcher flags p rest

/-- Whether a node matches at some place of `rest`, of which `before` precedes. -/
def Node.matchesFrom (flags : Flags) (node : Node) (before : List Char) : List Char → Bool
  | [] => (node.matcher flags ⟨before, [], []⟩ some).isSome
  | c :: rest =>
    (node.matcher flags ⟨before, c :: rest, []⟩ some).isSome ||
      node.matchesFrom flags (c :: before) rest

end Conformance.Pattern

namespace Conformance.Pattern

def occursIn (p : Pattern) (s : List Char) : Bool := p.node.matchesFrom p.flags [] s

end Conformance.Pattern
