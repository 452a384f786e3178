import Conformance.Expr.Tree
import Conformance.Value.Attribute

/-!
# Names and sequences during an evaluation

Names are bound by the caller, by the library and by the iterations of comprehensions; the innermost one
counts. A generator can be gone through once: what it has left is part of the state of an evaluation. So are
the calls that were made.
-/

namespace Conformance.Expr

/-- What stays the same during an evaluation: the types of messages, and the values that the caller binds. -/
structure Scope where
  schema : Schema
  bindings : List (String × Value)

/-- Members as they come, and the fault that ends them, if one does. -/
abbrev Source := List Value × Option Fault

/-- The names that one comprehension binds, without a value until they get one. -/
abbrev Frame := List (String × Option Value)

/-- What a call is written with: a name, a method of a value or another expression; or it is made for the key
of a member, and not written. -/
inductive Callee where
  | name (n : String)
  | method (m : String)
  | computed
  | key
  deriving DecidableEq, Repr

/-- A call and the value that is called. -/
structure Call where
  callee : Callee
  called : Value

/-- The names of comprehensions, what generators have left, and the calls that were made, the latest first. -/
structure Store where
  frames : List Frame := []
  generators : Array Source := #[]
  calls : List Call := []

abbrev Eval := ExceptT Fault (StateM Store)

def callee : Expr → Callee
  | .name _ n => .name n
  | .member _ _ m => .method m
  | _ => .computed

namespace Eval

def lift {α : Type} (r : Except Fault α) : Eval α := ExceptT.mk (pure r)

/-! ## Names -/

def local? (n : String) : List Frame → Option (Option Value)
  | [] => none
  | f :: fs => (f.lookup n).or (local? n fs)

def read (s : Scope) (n : String) : Eval Value := do
  let frames := (← get).frames
  match local? n frames with
  | some (some v) => return v
  | some none =>
    if frames.head?.any fun f => (f.lookup n).isSome then throw .unassignedName else throw .unknownName
  | none =>
    match s.bindings.lookup n with
    | some v => return v
    | none =>
      match Function.named? n with
      | some f => return .function f
      | none => throw .unknownName

def write (n : String) (v : Value) : Eval Unit :=
  modify fun s =>
    match s.frames with
    | f :: fs => { s with frames := f.map (fun e => if e.1 = n then (n, some v) else e) :: fs }
    | [] => s

def record (c : Call) : Eval Unit := modify fun s => { s with calls := c :: s.calls }

/-! ## Sequences -/

def sourceOf (v : Value) : Eval Source := do
  match v with
  | .generator id => return ((← get).generators[id]?).getD ([], none)
  | _ =>
    match v.members? with
    | some xs => return (xs, none)
    | none => throw .wrongType

/-- Records what a generator has left after some of it was taken. -/
def leave (v : Value) (rest : Source) : Eval Unit :=
  match v with
  | .generator id => modify fun s => { s with generators := s.generators.setIfInBounds id rest }
  | _ => pure ()

def sourceTaken (v : Value) : Eval Source := do
  let s ← sourceOf v
  leave v ([], none)
  return s

def taken (v : Value) : Eval (List Value) := do
  match ← sourceTaken v with
  | (xs, none) => return xs
  | (_, some f) => throw f

def newGenerator (s : Source) : Eval Value := do
  let id := (← get).generators.size
  modify fun st => { st with generators := st.generators.push s }
  return .generator id

/-- Goes through a value up to the first member that passes a test, and says whether there is one. -/
def findIn (test : Value → Bool) (v : Value) : Eval Bool := do
  let (xs, fault) ← sourceOf v
  match xs.dropWhile fun x => !test x with
  | _ :: rest =>
    leave v (rest, fault)
    return true
  | [] =>
    leave v ([], none)
    match fault with
    | some f => throw f
    | none => return false

end Eval
end Conformance.Expr
