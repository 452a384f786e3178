import Conformance.Value.Basic

/-!
# Equality of values

Numbers are equal by what they denote, whatever their types; collections by their members, lists and tuples
in order, sets and mappings without one. Values of unrelated types differ.
-/

namespace Conformance.Value

/-- Equality of two numbers without imaginary parts. Integers are not rounded for it. -/
def sameReal (a b : Value) : Bool :=
  match a, b with
  | float x, float y => x.same y
  | float x, _ => b.integer?.any fun n => x.compareInt? n == some .eq
  | _, float y => a.integer?.any fun n => y.compareInt? n == some .eq
  | _, _ => a.integer? == b.integer? && a.integer?.isSome

/-- Equality of two numbers. One that is not complex equals those without an imaginary part. -/
def sameNumber (a b : Value) : Bool :=
  match a, b with
  | complex p q, complex r s => p.same r && q.same s
  | complex p q, _ => q.isZero && sameReal (float p) b
  | _, complex r s => s.isZero && sameReal a (float r)
  | _, _ => sameReal a b

/-- The members of a value that is like a set: sets, and the keys and items of mappings. -/
def setMembers? : Value → Option (List Value)
  | set _ xs => some xs
  | view _ .keys es => some (es.map (·.1))
  | view _ .items es => some (es.map fun (k, v) => tuple [k, v])
  | _ => Option.none

mutual

def same : Value → Value → Bool
  | none, none => true
  | ellipsis, ellipsis => true
  | text a, text b => a == b
  | bytes a, bytes b => a == b
  | list a, list b => sameAll a b
  | list a, elements _ b => sameAll a b
  | elements _ a, list b => sameAll a b
  | elements _ a, elements _ b => sameAll a b
  | tuple a, tuple b => sameAll a b
  | set _ a, b =>
    match b.setMembers? with
    | some ys => a.length == ys.length && allOccur a ys
    | Option.none => false
  | view _ side es, b =>
    match side, b.setMembers? with
    | .keys, some ys => es.length == ys.length && keysOccur es ys
    | .items, some ys => es.length == ys.length && itemsOccur es ys
    | _, _ => false
  | dict a, dict b => a.length == b.length && sameEntries a b
  | dict a, entries _ _ b => a.length == b.length && sameEntries a b
  | entries _ _ a, dict b => a.length == b.length && sameEntries a b
  | entries _ _ a, entries _ _ b => a.length == b.length && sameEntries a b
  | slice a b c, slice x y z => a.same x && b.same y && c.same z
  | instant a, instant b => a == b
  | span a, span b => a == b
  | zone, zone => true
  | pattern a, pattern b => a == b
  | message a, message b => a.same b
  | descriptor a, descriptor b => a == b
  | generator a, generator b => a == b
  | function a, function b => a == b
  | method a m, method b n => a.same b && m == n
  | unbound t m, unbound u n => t == u && m == n
  | a, b => sameNumber a b
termination_by structural x => x

def sameAll : List Value → List Value → Bool
  | [], [] => true
  | a :: as, b :: bs => a.same b && sameAll as bs
  | _, _ => false
termination_by structural x => x

def allOccur : List Value → List Value → Bool
  | [], _ => true
  | a :: as, bs => bs.any (a.same ·) && allOccur as bs
termination_by structural x => x

def keyOccurs : Value × Value → List Value → Bool
  | (k, _), ys => ys.any (k.same ·)
termination_by structural x => x

def keysOccur : List (Value × Value) → List Value → Bool
  | [], _ => true
  | e :: es, ys => keyOccurs e ys && keysOccur es ys
termination_by structural x => x

def itemOccurs : Value × Value → List Value → Bool
  | (k, v), ys => ys.any fun y =>
    match y with
    | tuple [a, b] => k.same a && v.same b
    | _ => false
termination_by structural x => x

def itemsOccur : List (Value × Value) → List Value → Bool
  | [], _ => true
  | e :: es, ys => itemOccurs e ys && itemsOccur es ys
termination_by structural x => x

/-- The key of an entry is there on the right, with an equal value. -/
def entryOccurs : Value × Value → List (Value × Value) → Bool
  | (k, v), es =>
    match es.find? fun e => k.same e.1 with
    | some e => v.same e.2
    | Option.none => false
termination_by structural x => x

def sameEntries : List (Value × Value) → List (Value × Value) → Bool
  | [], _ => true
  | e :: rest, es => entryOccurs e es && sameEntries rest es
termination_by structural x => x

end

mutual

/-- Whether a value may be a key or the member of a set: what can change may not. -/
def hashable : Value → Bool
  | list _ | dict _ | elements .. | entries .. | message _ | slice .. => false
  | set frozen _ => frozen
  | view _ side _ => side == .values
  | tuple xs => allHashable xs
  | _ => true
termination_by structural x => x

def allHashable : List Value → Bool
  | [] => true
  | x :: xs => x.hashable && allHashable xs
termination_by structural x => x

end

def isIn (x : Value) (xs : List Value) : Bool := xs.any (·.same x)

def lookup? (es : List (Value × Value)) (key : Value) : Option Value :=
  (es.find? fun e => e.1.same key).map (·.2)

/-- Puts a value at a key. A key that is there keeps its place and its form. -/
def insertEntry (es : List (Value × Value)) (key value : Value) : List (Value × Value) :=
  if es.any (·.1.same key) then
    es.map fun e => if e.1.same key then (e.1, value) else e
  else es ++ [(key, value)]

/-- Adds a member to the members of a set, unless it is there. -/
def insertMember (xs : List Value) (x : Value) : List Value := if isIn x xs then xs else xs ++ [x]

end Conformance.Value
