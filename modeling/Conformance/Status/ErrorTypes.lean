import Conformance.Fault
import Conformance.Status.Basic
import Conformance.Text.Quoted

/-!
# Statuses of error types

Error types inherit from each other. Each one has its ancestry: the order in which it and the types that it
inherits from are looked at, in which a type comes before those that it inherits from, and bases keep their
order. The status of an error is the one that is registered for the first type of its ancestry that has one.
-/

namespace Conformance

/-- How the status of an error is found once a type of its ancestry is registered. -/
inductive StatusSource where
  | fixed (s : Status)
  /-- By the text of the error. -/
  | byText (cases : List (String × Status))
  /-- The status that the error type itself declares or inherits. -/
  | declared
  deriving DecidableEq, Repr

structure ErrorType where
  name : String
  ancestry : List String
  status : Option Status
  deriving DecidableEq, Repr

structure ErrorTypes where
  types : List ErrorType
  registered : List (String × StatusSource)
  deriving DecidableEq, Repr

namespace ErrorTypes

/-- The first head that is in no tail. -/
def nextHead? (lists : List (List String)) : Option String :=
  (lists.filterMap List.head?).find? fun h => lists.all fun l => !l.tail.contains h

/-- Merges lists into one that keeps the order of each. The fuel bounds its length. -/
def mergeOrders : (fuel : Nat) → List (List String) → Option (List String)
  | 0, _ => some []
  | fuel + 1, lists =>
    let lists := lists.filter (!·.isEmpty)
    if lists.isEmpty then some []
    else do
      let h ← nextHead? lists
      let rest ← mergeOrders fuel (lists.map (·.filter (· != h)))
      some (h :: rest)

def find? (ts : ErrorTypes) (name : String) : Option ErrorType := ts.types.find? (·.name == name)

/-- The ancestry of a type by its bases, if their orders agree. -/
def ancestry? (ts : ErrorTypes) (name : String) (bases : List String) : Option (List String) := do
  if !bases.Nodup then none
  let above ← bases.mapM fun b => (ts.find? b).map (·.ancestry)
  let lists := above ++ [bases]
  let rest ← mergeOrders lists.flatten.length lists
  some (name :: rest)

def define (ts : ErrorTypes) (name : String) (bases : List String) (status : Option Status) :
    Except Fault ErrorTypes :=
  match ts.ancestry? name bases with
  | some ancestry =>
    .ok ⟨⟨name, ancestry, status⟩ :: ts.types, ts.registered.filter (·.1 != name)⟩
  | none => .error .wrongType

def register (ts : ErrorTypes) (name : String) (source : StatusSource) : ErrorTypes :=
  { ts with registered := (name, source) :: ts.registered.filter (·.1 != name) }

/-- The text of an error; the text of a missing key is quoted. -/
def textOf (t : ErrorType) (message : String) : String :=
  if t.ancestry.contains "KeyError" then Text.Quoted.text message else message

def declaredStatus (ts : ErrorTypes) (t : ErrorType) : Status :=
  (t.ancestry.findSome? fun n => (ts.find? n).bind (·.status)).getD .unspecified

def statusOf (ts : ErrorTypes) (name message : String) : Status :=
  match ts.find? name with
  | none => .unspecified
  | some t =>
    match t.ancestry.findSome? fun n => ts.registered.lookup n with
    | none => .unspecified
    | some (.fixed s) => s
    | some (.byText cases) => (cases.lookup (textOf t message)).getD .unspecified
    | some .declared => ts.declaredStatus t

/-- A type with a single line of ancestors. -/
def plain (name : String) (above : List String) : ErrorType := ⟨name, name :: above, none⟩

/-- The error types that are there from the start, apart from those of validation. -/
def general : List ErrorType :=
  let root := ["BaseException", "object"]
  let exception := "Exception" :: root
  let under (base : String) (names : List String) : List ErrorType :=
    plain base exception :: names.map fun n => plain n (base :: exception)
  [plain "object" [], plain "BaseException" ["object"], plain "Exception" root] ++
    ["KeyboardInterrupt", "SystemExit", "GeneratorExit"].map (plain · root) ++
    under "RuntimeError" ["builtins.RecursionError", "NotImplementedError"] ++
    under "LookupError" ["KeyError", "IndexError"] ++
    under "ArithmeticError" ["ZeroDivisionError", "OverflowError", "FloatingPointError"] ++
    under "NameError" ["UnboundLocalError"] ++
    under "OSError" ["FileNotFoundError", "FileExistsError", "PermissionError", "InterruptedError",
      "TimeoutError", "ConnectionError"] ++
    under "ValueError" ["UnicodeError"] ++
    under "ImportError" ["ModuleNotFoundError"] ++
    under "SyntaxError" ["IndentationError"] ++
    under "Warning" ["UserWarning", "DeprecationWarning"] ++
    ["TypeError", "AttributeError", "AssertionError", "BufferError", "MemoryError", "EOFError",
      "ReferenceError", "StopIteration", "StopAsyncIteration", "SystemError"].map (plain · exception)

/-- The error types of validation: their bases and the statuses that they declare. -/
def ownTypes : List (String × List String × Status) := [
  ("ProtoguardError", ["Exception"], .unspecified),
  ("SchemaError", ["ProtoguardError", "ValueError"], .schemaError),
  ("CompilationError", ["ProtoguardError", "ValueError"], .compilationError),
  ("RecursionError", ["ProtoguardError", "builtins.RecursionError"], .recursionError),
  ("RuntimeEvaluationError", ["ProtoguardError", "RuntimeError"], .runtimeError),
  ("ViolationsError", ["ProtoguardError", "ValueError"], .invalid)]

def isOwn (name : String) : Bool := (ownTypes.lookup name).isSome

/-- Defines types one after the other; those that cannot be defined are left out. -/
def defineAll (ts : ErrorTypes) (new : List (String × List String × Status)) : ErrorTypes :=
  new.foldl (fun ts (name, bases, status) =>
    match ts.define name bases (some status) with
    | .ok ts => ts
    | .error _ => ts) ts

/-- The error types at the start. Those of validation declare their statuses. -/
def initial : ErrorTypes :=
  ((⟨general, []⟩ : ErrorTypes).defineAll ownTypes).register "ProtoguardError" .declared

end ErrorTypes
end Conformance
