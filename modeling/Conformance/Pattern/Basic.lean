import Conformance.Text.Alphanumeric
import Conformance.Text.Blank
import Conformance.Text.Digit

/-!
# Patterns

The syntax of regular expressions: characters and classes, anchors, repetition, groups, look-around, back
references, conditions and scoped flags.
-/

namespace Conformance.Pattern

structure Flags where
  ignoreCase : Bool := false
  multiline : Bool := false
  dotAll : Bool := false
  verbose : Bool := false
  /-- Classes and case know ASCII only. -/
  ascii : Bool := false
  /-- Classes and case know all scripts; this is also what holds without any flag. -/
  unicode : Bool := false
  /-- No repetition is allowed. -/
  template : Bool := false
  deriving DecidableEq, Repr, Inhabited

namespace Flags

def or (f g : Flags) : Flags where
  ignoreCase := f.ignoreCase || g.ignoreCase
  multiline := f.multiline || g.multiline
  dotAll := f.dotAll || g.dotAll
  verbose := f.verbose || g.verbose
  ascii := f.ascii || g.ascii
  unicode := f.unicode || g.unicode
  template := f.template || g.template

def and (f g : Flags) : Flags where
  ignoreCase := f.ignoreCase && g.ignoreCase
  multiline := f.multiline && g.multiline
  dotAll := f.dotAll && g.dotAll
  verbose := f.verbose && g.verbose
  ascii := f.ascii && g.ascii
  unicode := f.unicode && g.unicode
  template := f.template && g.template

/-- The flags of `f` that `g` lacks. -/
def without (f g : Flags) : Flags where
  ignoreCase := f.ignoreCase && !g.ignoreCase
  multiline := f.multiline && !g.multiline
  dotAll := f.dotAll && !g.dotAll
  verbose := f.verbose && !g.verbose
  ascii := f.ascii && !g.ascii
  unicode := f.unicode && !g.unicode
  template := f.template && !g.template

/-- Flags inside a group that turns some on and some off; choosing a character repertoire drops the other. -/
def within (f on off : Flags) : Flags :=
  let f := if on.ascii || on.unicode then { f with ascii := false, unicode := false } else f
  (f.or on).without off

end Flags

inductive Category where
  | digit
  | space
  | word
  deriving DecidableEq, Repr

/-- Whether a code point belongs to a class. Code points that are no characters belong to none. -/
def Category.contains (k : Category) (ascii : Bool) (c : Char) : Bool :=
  match k with
  | .digit => if ascii then Text.isAsciiDigit c else Text.isDigit c
  | .space =>
    if ascii then c == ' ' || ('\t' ≤ c && c ≤ '\r') else Text.isBlank c
  | .word =>
    c == '_' || (if ascii then c.isAlphanum else Text.isAlphanumeric c)

/-- A member of a set of characters, by code points. -/
inductive Item where
  | single (code : Nat)
  | range (low high : Nat)
  | category (negated : Bool) (k : Category)
  deriving DecidableEq, Repr

inductive Anchor where
  /-- The start of the text, of each line with the flag for several lines. -/
  | start
  /-- The end of the text or before a line feed that ends it, the end of each line with the flag. -/
  | finish
  | textStart
  | textEnd
  | boundary
  /-- Every other place of a text that is not empty. -/
  | noBoundary
  deriving DecidableEq, Repr

inductive Mode where
  | greedy
  | lazy
  /-- As often as possible, and never fewer afterwards. -/
  | possessive
  deriving DecidableEq, Repr

inductive Node where
  | empty
  | any
  | set (negated : Bool) (items : List Item)
  | anchor (a : Anchor)
  | seq (first second : Node)
  | alt (first second : Node)
  | repeated (mode : Mode) (least : Nat) (most : Option Nat) (body : Node)
  | group (number : Nat) (body : Node)
  | flagged (on off : Flags) (body : Node)
  /-- The text of a group; `least` and `most` bound its width. -/
  | reference (number least most : Nat)
  | atomic (body : Node)
  /-- The text ahead matches, or does not. -/
  | ahead (wanted : Bool) (body : Node)
  /-- The text of `width` characters before matches, or does not. -/
  | behind (wanted : Bool) (width : Nat) (body : Node)
  /-- One of two nodes, by whether a group has matched. -/
  | condition (number : Nat) (yes no : Node)
  deriving DecidableEq, Repr

namespace Node

/-- Widths from here on count as unbounded. -/
def boundless : Nat := 18446744073709551616

/-- The least and greatest number of characters that a node matches. -/
def width : Node → Nat × Nat
  | .empty => (0, 0)
  | .any => (1, 1)
  | .set .. => (1, 1)
  | .anchor _ => (0, 0)
  | .seq a b => (min (a.width.1 + b.width.1) boundless, min (a.width.2 + b.width.2) boundless)
  | .alt a b => (min a.width.1 b.width.1, max a.width.2 b.width.2)
  | .repeated _ least most body =>
    let (low, high) := body.width
    let high := match most with
      | some n => high * n
      | none => if high = 0 then 0 else boundless
    (min (low * least) boundless, min high boundless)
  | .group _ body => body.width
  | .flagged _ _ body => body.width
  | .reference _ least most => (least, most)
  | .atomic body => body.width
  | .ahead .. => (0, 0)
  | .behind .. => (0, 0)
  | .condition _ yes no => (min yes.width.1 no.width.1, max yes.width.2 no.width.2)

def ofList : List Node → Node
  | [] => .empty
  | [n] => n
  | n :: rest => .seq n (ofList rest)

def repeats : Node → Bool
  | .repeated .. => true
  | .seq a b | .alt a b | .condition _ a b => a.repeats || b.repeats
  | .group _ a | .flagged _ _ a | .atomic a | .ahead _ a | .behind _ _ a => a.repeats
  | _ => false

end Node
end Conformance.Pattern

namespace Conformance

structure Pattern where
  source : String
  flags : Pattern.Flags
  groups : Nat
  node : Pattern.Node
  deriving DecidableEq, Repr

end Conformance
