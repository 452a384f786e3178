import Conformance.Expr.Admission
import Conformance.Expr.Evaluation

/-!
# Programs

A program is an expression that was read and admitted for certain variables. It can be evaluated any number
of times; each evaluation binds all variables and gives a truth value or a text.
-/

namespace Conformance

open Text

/-- What a program is compiled from: its source, and the variables that it may read, in order. -/
structure ProgramKey where
  source : String
  «variables» : List String
  deriving DecidableEq, Repr

inductive Refusal where
  | empty
  | ungrammatical
  | inadmissible (o : Expr.Objection)
  deriving DecidableEq, Repr

structure CompilationError where
  refusal : Refusal
  source : String
  deriving DecidableEq, Repr

namespace CompilationError

def message (e : CompilationError) : String :=
  match e.refusal with
  | .empty => "expression is empty"
  | .ungrammatical => "syntax error in expression " ++ Quoted.text e.source
  | .inadmissible o =>
    o.reason.text ++ " at column " ++ toString o.column ++ " of expression " ++ Quoted.text e.source

end CompilationError

/-- The two ways in which a compilation ends without a program: with an error that says why, or with a
fault. -/
inductive Uncompiled where
  | refused (e : CompilationError)
  | fault (f : Fault)
  deriving DecidableEq, Repr

structure Program where
  source : String
  «variables» : List String
  tree : Expr

/-- What a program says of the values bound to its variables: whether they satisfy it, or how they do not. -/
inductive Verdict where
  | holds (b : Bool)
  | complaint (s : String)
  deriving DecidableEq, Repr

inductive EvaluationError where
  | unbound (names : List String) (source : String)
  | faulty (f : Fault) (source : String)
  | unusable (type : String) (source : String)
  deriving DecidableEq, Repr

namespace EvaluationError

def message : EvaluationError → String
  | unbound names source =>
    "unbound variable(s) " ++ ", ".intercalate names ++ " in expression " ++ Quoted.text source
  | faulty f source => "error evaluating expression " ++ Quoted.text source ++ ": " ++ f.text
  | unusable type source =>
    "expression " ++ Quoted.text source ++ " must evaluate to bool or str, got " ++ type

end EvaluationError

namespace Program

/-- Reads a source and checks it against its variables. A source with a null character cannot be read at
all. One that uses a constant as a name, or gives a name to two arguments of a call, is refused after all else
was admitted. -/
def compile (key : ProgramKey) : Except Uncompiled Program :=
  let refuse (r : Refusal) : Except Uncompiled Program := .error (.refused ⟨r, key.source⟩)
  let source := trim isBlank key.source.toList
  if source.isEmpty then refuse .empty
  else if source.contains '\x00' then .error (.fault .badValue)
  else
    match Expr.ofText? source with
    | none => refuse .ungrammatical
    | some tree =>
      match Expr.objection? (Expr.knownNames key.variables) tree with
      | some o => refuse (.inadmissible o)
      | none =>
        if tree.misnames then .error (.fault .badValue)
        else if tree.clashes then .error (.fault .invalidSyntax)
        else .ok ⟨key.source, key.variables, tree⟩

/-- What the expression of a program can read. Bindings of other names than its variables do not count. -/
def scope (s : Schema) (p : Program) (bindings : List (String × Value)) : Expr.Scope :=
  ⟨s, p.variables.filterMap fun n => (bindings.lookup n).map (n, ·)⟩

def missing (p : Program) (bindings : List (String × Value)) : List String :=
  p.variables.filter fun n => (bindings.lookup n).isNone

def evaluate (s : Schema) (p : Program) (bindings : List (String × Value)) : Except EvaluationError Verdict :=
  let missing := p.missing bindings
  if !missing.isEmpty then .error (.unbound missing p.source)
  else
    match Expr.value (p.scope s bindings) p.tree with
    | .ok (.bool b) => .ok (.holds b)
    | .ok (.text t) => .ok (.complaint t)
    | .ok v => .error (.unusable v.typeName p.source)
    | .error f => .error (.faulty f p.source)

/-- The calls that an evaluation of a program makes, the latest first. -/
def calls (s : Schema) (p : Program) (bindings : List (String × Value)) : List Expr.Call :=
  if (p.missing bindings).isEmpty then Expr.calls (p.scope s bindings) p.tree else []

end Program

/-- Where compilations of constraints take their programs from: what they get for a key. -/
class ProgramSource where
  compile : ProgramKey → Except Uncompiled Program

/-- Programs are compiled each time. -/
instance ProgramSource.fresh : ProgramSource := ⟨Program.compile⟩

end Conformance
