import Conformance.Expr.Library
import Conformance.Value.Spec

/-!
# Evaluation of expressions

What an expression gives under the bindings of its names. Operands are evaluated from left to right, and
only those that are needed. A generator is gone through where it stands: what its parts give, up to the
first fault, is what it will give to others.
-/

namespace Conformance.Expr

open Conformance.Value (Arguments)

def Literal.value : Literal → Value
  | .none => .none
  | .ellipsis => .ellipsis
  | .bool b => .bool b
  | .int n => .int n
  | .float x => .float x
  | .imaginary x => .complex .zero x
  | .text s => .text s
  | .bytes b => .bytes b

def isSingleton : Value → Value → Bool
  | .none, .none | .ellipsis, .ellipsis | .zone, .zone | .tuple [], .tuple [] => true
  | .bool a, .bool b => a == b
  | .int m, .int n => m == n && -5 ≤ m && m ≤ 256
  | .text a, .text b => a == b && a.length ≤ 1 && a.toList.all (·.toNat < 256)
  | .bytes a, .bytes b => a == b && a.length ≤ 1
  | .function f, .function g => f == g
  | .generator i, .generator j => i == j
  | .descriptor a, .descriptor b => a == b
  | _, _ => false

/-- Messages, and what they hold as wholes: their places give them again and again. -/
def isKept : Value → Bool
  | .message _ | .elements .. | .entries .. => true
  | _ => false

/-- Whether two expressions name one thing: the same name, the same constant, or the same place of a
message that gives `v`. -/
def nameOne (v : Value) : Expr → Expr → Bool
  | .name _ a, .name _ b => a == b
  | .literal _ a, .literal _ b => a == b
  | .member _ a m, .member _ b n => isKept v && m == n && nameOne v a b
  | _, _ => false

/-- Values that equal themselves whatever they have inside. -/
def isReflexive : Value → Bool
  | .list _ | .tuple _ | .dict _ | .message _ => true
  | _ => false

/-- A comparison of two values; `one` says that their expressions name one thing. -/
def compareValues (c : Comparison) (one : Bool) (a b : Value) : Eval Bool :=
  match c with
  | .eq => pure ((one && isReflexive a) || a.same b)
  | .notEq => pure !((one && isReflexive a) || a.same b)
  | .lt => Eval.lift (a.related .lt b)
  | .le => Eval.lift (a.related .le b)
  | .gt => Eval.lift (a.related .gt b)
  | .ge => Eval.lift (a.related .ge b)
  | .same => pure (one || isSingleton a b)
  | .notSame => pure !(one || isSingleton a b)
  | .isIn => Library.holds b a
  | .notIn => return !(← Library.holds b a)

def makeSet (xs : List Value) : Except Fault Value :=
  if xs.all Value.hashable then .ok (.set false (xs.foldl Value.insertMember [])) else .error .wrongType

/-- Puts entries into a mapping one after the other. -/
def putEntries (es new : List (Value × Value)) : Except Fault (List (Value × Value)) :=
  if new.all fun e => e.1.hashable then .ok (new.foldl (fun es e => Value.insertEntry es e.1 e.2) es)
  else .error .wrongType

def placedText (v : Value) (conversion : Conversion) (spec : String) : Except Fault String := do
  match conversion with
  | .keep => v.format spec
  | .text => (Value.text (← v.plainText)).format spec
  | .display => (Value.text (← v.display)).format spec
  | .ascii => (Value.text (← v.asciiDisplay)).format spec

/-! ## Comprehensions -/

mutual

def targetIds : Expr → List String
  | .name _ n => [n]
  | .row _ _ es => targetsIds es
  | _ => []
termination_by structural x => x

def targetsIds : List Expr → List String
  | [] => []
  | e :: es => targetIds e ++ targetsIds es
termination_by structural x => x

end

def frameOf (cs : List Clause) : Frame := (cs.flatMap fun c => targetIds c.target).eraseDups.map (·, none)

mutual

/-- Binds the names of a target to a value or to its members. -/
def assign : Expr → Value → Eval Unit
  | .name _ n, v => Eval.write n v
  | .row _ _ es, v => do
    let xs ← Eval.taken v
    if xs.length = es.length then assignAll es xs else throw .badValue
  | _, _ => throw .invalidSyntax
termination_by structural x => x

def assignAll : List Expr → List Value → Eval Unit
  | e :: es, v :: vs => do
    assign e v
    assignAll es vs
  | _, _ => pure ()
termination_by structural x => x

end

/-- A step of a comprehension: what it gives, and the fault that ends it. -/
abbrev Steps := StateM Store Source

def forEach (body : Value → Steps) : List Value → Steps
  | [] => return ([], none)
  | x :: xs => do
    match ← body x with
    | (vs, none) =>
      let (more, fault) ← forEach body xs
      return (vs ++ more, fault)
    | r => return r

def stepsAfter {α : Type} (first : Eval α) (next : α → Steps) : Steps := do
  match ← first.run with
  | .ok a => next a
  | .error f => return ([], some f)

/-- The steps for the members of a source; after these comes its own fault. -/
def forSource (source : Source) (body : Value → Steps) : Steps := do
  match ← forEach body source.1 with
  | (vs, none) => return (vs, source.2)
  | r => return r

def within (frame : Frame) (steps : Steps) : Eval Source := do
  let before := (← get).frames
  modify fun s => { s with frames := frame :: before }
  let r ← (ExceptT.lift steps : Eval Source)
  modify fun s => { s with frames := before }
  return r

def collected (kind : Collected) (source : Source) : Eval Value :=
  match kind with
  | .generator => Eval.newGenerator source
  | .list =>
    match source.2 with
    | none => pure (.list source.1)
    | some f => throw f
  | .set => do
    let v ← Eval.lift (makeSet source.1)
    match source.2 with
    | none => return v
    | some f => throw f

/-! ## Expressions -/

mutual

def eval (s : Scope) : Expr → Eval Value
  | .literal _ l => pure l.value
  | .name _ n => Eval.read s n
  | .member _ b n => do
    let v ← eval s b
    Eval.lift (v.attributeOf s.schema n)
  | .subscript _ b i => do
    let v ← eval s b
    let i ← eval s i
    Eval.lift (v.subscript i)
  | .slice _ a b c => do
    let a ← evalOption s a
    let b ← evalOption s b
    let c ← evalOption s c
    return .slice (a.getD .none) (b.getD .none) (c.getD .none)
  | .call _ f args named => do
    let v ← eval s f
    let positional ← evalList s args
    let named ← evalNamed s named
    Eval.record ⟨f.callee, v⟩
    Library.call s.schema v { positional, named }
  | .row _ kind es => do
    let xs ← evalList s es
    match kind with
    | .list => return .list xs
    | .tuple => return .tuple xs
    | .set => Eval.lift (makeSet xs)
  | .dict _ es => return .dict (← evalEntries s [] [] es)
  | .comprehension _ kind e cs => do
    let source ← evalFirst s (frameOf cs) (eval s e) cs
    collected kind source
  | .joined _ es => do
    let xs ← evalList s es
    return .text (String.join (← Eval.lift (xs.mapM (·.plainText))))
  | .placed _ e conversion spec => do
    let v ← eval s e
    let spec ← evalOption s spec
    match spec with
    | some (.text spec) => return .text (← Eval.lift (placedText v conversion spec))
    | _ => return .text (← Eval.lift (placedText v conversion ""))
  | .unary _ op e => do
    let v ← eval s e
    Eval.lift (v.unary op)
  | .logical _ isAnd es => evalLogical s isAnd es
  | .binary _ op a b => do
    let a ← eval s a
    let b ← eval s b
    Eval.lift (a.binary op b)
  | .compare _ e rest => do
    let v ← eval s e
    evalComparison s e v rest
  | .conditional _ c a b => do
    if (← eval s c).truth then eval s a else eval s b
  | .starred .. | .foreign .. => throw .invalidSyntax
termination_by structural x => x

def evalOption (s : Scope) : Option Expr → Eval (Option Value)
  | none => return none
  | some e => return some (← eval s e)
termination_by structural x => x

def evalList (s : Scope) : List Expr → Eval (List Value)
  | [] => return []
  | e :: es => do
    let v ← eval s e
    return v :: (← evalList s es)
termination_by structural x => x

def evalArgument (s : Scope) : Option String × Expr → Eval (String × Value)
  | (n, e) => do
    let v ← eval s e
    match n with
    | some n => return (n, v)
    | none => throw .invalidSyntax
termination_by structural x => x

def evalNamed (s : Scope) : List (Option String × Expr) → Eval (List (String × Value))
  | [] => return []
  | e :: es => do
    let v ← evalArgument s e
    return v :: (← evalNamed s es)
termination_by structural x => x

/-- An entry of a mapping, or the entries of the mapping that is unpacked. -/
def evalEntry (s : Scope) : Option Expr × Expr → Eval ((Value × Value) ⊕ List (Value × Value))
  | (k, e) => do
    match ← evalOption s k with
    | some k => return .inl (k, ← eval s e)
    | none =>
      match ← eval s e with
      | .dict es | .entries _ _ es => return .inr es
      | _ => throw .wrongType
termination_by structural x => x

/-- The entries of a mapping after those that are there and those that wait to be put there. -/
def evalEntries (s : Scope) (done waiting : List (Value × Value)) :
    List (Option Expr × Expr) → Eval (List (Value × Value))
  | [] => Eval.lift (putEntries done waiting)
  | e :: es => do
    match ← evalEntry s e with
    | .inl new => evalEntries s done (waiting ++ [new]) es
    | .inr new =>
      let done ← Eval.lift (putEntries done waiting)
      evalEntries s (← Eval.lift (putEntries done new)) [] es
termination_by structural x => x

/-- The first operand that decides, or the last one. -/
def evalLogical (s : Scope) (isAnd : Bool) : List Expr → Eval Value
  | [] => return .bool isAnd
  | e :: es => do
    let v ← eval s e
    if es.isEmpty || v.truth != isAnd then return v else evalLogical s isAnd es
termination_by structural x => x

/-- One link of a chain of comparisons: the right operand and whether it holds. -/
def evalLink (s : Scope) (left : Expr) (v : Value) : Comparison × Expr → Eval (Expr × Value × Bool)
  | (c, e) => do
    let w ← eval s e
    return (e, w, ← compareValues c (nameOne v left e) v w)
termination_by structural x => x

/-- A chain of comparisons, up to the first that does not hold. -/
def evalComparison (s : Scope) (left : Expr) (v : Value) : List (Comparison × Expr) → Eval Value
  | [] => return .bool true
  | l :: rest => do
    let (e, w, holds) ← evalLink s left v l
    if holds then evalComparison s e w rest else return .bool false
termination_by structural x => x

def evalConditions (s : Scope) : List Expr → Eval Bool
  | [] => return true
  | e :: es => do
    if (← eval s e).truth then evalConditions s es else return false
termination_by structural x => x

/-- The first clause of a comprehension, whose members are looked up outside of it. -/
def evalFirst (s : Scope) (frame : Frame) (element : Eval Value) : List Clause → Eval Source
  | [] => return ([], none)
  | .mk target iterated conditions _ :: cs => do
    let v ← eval s iterated
    let source ← Eval.sourceTaken v
    within frame (forSource source fun x =>
      stepsAfter (do assign target x; evalConditions s conditions) fun holds =>
        if holds then evalClauses s element cs else return ([], none))
termination_by structural x => x

/-- The remaining clauses of a comprehension, and its element at the end of them. -/
def evalClauses (s : Scope) (element : Eval Value) : List Clause → Steps
  | [] => stepsAfter element fun v => return ([v], none)
  | .mk target iterated conditions _ :: cs =>
    stepsAfter (do Eval.sourceTaken (← eval s iterated)) fun source =>
      forSource source fun x =>
        stepsAfter (do assign target x; evalConditions s conditions) fun holds =>
          if holds then evalClauses s element cs else return ([], none)
termination_by structural x => x

end

def value (s : Scope) (e : Expr) : Except Fault Value := ((eval s e).run.run {}).1

/-- The calls that are made during an evaluation, the latest first, whether or not it ends in a fault. -/
def calls (s : Scope) (e : Expr) : List Call := ((eval s e).run.run {}).2.calls

end Conformance.Expr
