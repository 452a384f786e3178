import Conformance.Expr.Grammar

/-!
# Admission of expressions

Which expressions belong to the language: every construct is one of the language, every name that is read
is a variable, a function of the library or the target of an enclosing iteration, calls go to functions of
the library and to methods that are allowed, and nothing private is touched. The first objection, in the
order in which a reader of the tree meets them, is the one that is reported.
-/

namespace Conformance.Expr

inductive Reason where
  | construct (name : String)
  | privateName (name : String)
  | undeclared (name : String)
  | privateMember (name : String)
  | unknownFunction (name : String)
  | unsupportedMethod (name : String)
  | computedFunction
  | unpackedArgument
  | unpackedMapping
  | privateTarget (name : String)
  | unsupportedTarget
  | asyncIteration
  deriving DecidableEq, Repr

namespace Reason

open Text in
def text : Reason → String
  | construct n => "unsupported syntax " ++ n
  | privateName n => "reference to private name " ++ Quoted.text n
  | undeclared n => "undeclared reference to " ++ Quoted.text n
  | privateMember n => "access to private attribute " ++ Quoted.text n
  | unknownFunction n => "call to unknown function " ++ Quoted.text n
  | unsupportedMethod n => "call to unsupported method " ++ Quoted.text n
  | computedFunction => "call to a computed function"
  | unpackedArgument => "unsupported argument unpacking"
  | unpackedMapping => "unsupported keyword argument unpacking"
  | privateTarget n => "private name " ++ Quoted.text n
  | unsupportedTarget => "unsupported comprehension target"
  | asyncIteration => "unsupported async comprehension"

end Reason

structure Objection where
  column : Nat
  reason : Reason
  deriving DecidableEq, Repr

def allowedMethods : List String :=
  ["count", "endswith", "find", "get", "isascii", "items", "keys", "lower", "split", "startswith", "strip",
    "upper", "values"]

/-- Operators that are not part of the language, by the names of their constructs. -/
def foreignOperator? : BinaryOp → Option String
  | .matMul => some "MatMult"
  | .leftShift => some "LShift"
  | .rightShift => some "RShift"
  | .bitOr => some "BitOr"
  | .bitXor => some "BitXor"
  | .bitAnd => some "BitAnd"
  | _ => none

def isPrivate (name : String) : Bool := name.startsWith "_"

mutual

def targetSize : Expr → Nat
  | .row _ .tuple es => targetsSize es + 1
  | _ => 1

def targetsSize : List Expr → Nat
  | [] => 0
  | e :: es => targetSize e + targetsSize es

end

/-- The names that targets bind, breadth first. -/
def targetNames : (fuel : Nat) → List Expr → Except Objection (List String)
  | 0, _ => .ok []
  | _ + 1, [] => .ok []
  | fuel + 1, e :: es =>
    match e with
    | .name c n => do
      if isPrivate n then throw ⟨c, .privateTarget n⟩
      let ns ← targetNames fuel es
      return n :: ns
    | .row _ .tuple inner => targetNames fuel (es ++ inner)
    | e => throw ⟨e.column, .unsupportedTarget⟩

def boundNames (target : Expr) : Except Objection (List String) := targetNames (targetSize target + 1) [target]

mutual

def objection? (known : List String) : Expr → Option Objection
  | .literal .. => none
  | .name c n =>
    if isPrivate n then some ⟨c, .privateName n⟩
    else if known.contains n then none
    else some ⟨c, .undeclared n⟩
  | .member c b n => if isPrivate n then some ⟨c, .privateMember n⟩ else objection? known b
  | .subscript _ b i => (objection? known b) <|> objection? known i
  | .slice _ a b s => optionObjection? known a <|> optionObjection? known b <|> optionObjection? known s
  | .call c f args named =>
    calleeObjection? known c f <|> argumentsObjection? known args <|> namedObjection? known named
  | .row _ _ es => listObjection? known es
  | .dict _ es => keysObjection? known es <|> valuesObjection? known es
  | .comprehension _ _ e cs =>
    match clausesKnown known cs with
    | .ok known => objection? known e
    | .error o => some o
  | .joined _ es => listObjection? known es
  | .placed _ v _ s => objection? known v <|> optionObjection? known s
  | .unary _ _ e => objection? known e
  | .logical _ _ es => listObjection? known es
  | .binary _ op a b =>
    objection? known a <|> (foreignOperator? op).map (⟨0, .construct ·⟩) <|> objection? known b
  | .compare _ e rest => objection? known e <|> comparedObjection? known rest
  | .conditional _ c a b => objection? known c <|> objection? known a <|> objection? known b
  | .starred c _ => some ⟨c, .construct "Starred"⟩
  | .foreign c n => some ⟨c, .construct n⟩

/-- What is called: a function of the library by its name, or an allowed method of a value. -/
def calleeObjection? (known : List String) (column : Nat) : Expr → Option Objection
  | .name _ n => if (Function.named? n).isNone then some ⟨column, .unknownFunction n⟩ else none
  | .member _ b n =>
    if allowedMethods.contains n then objection? known b else some ⟨column, .unsupportedMethod n⟩
  | _ => some ⟨column, .computedFunction⟩

def optionObjection? (known : List String) : Option Expr → Option Objection
  | none => none
  | some e => objection? known e

def listObjection? (known : List String) : List Expr → Option Objection
  | [] => none
  | e :: es => objection? known e <|> listObjection? known es

def argumentsObjection? (known : List String) : List Expr → Option Objection
  | [] => none
  | e :: es =>
    (match e with
      | .starred c _ => some ⟨c, .unpackedArgument⟩
      | e => objection? known e) <|> argumentsObjection? known es

def namedObjection? (known : List String) : List (Option String × Expr) → Option Objection
  | [] => none
  | (n, e) :: es =>
    (if n.isNone then some ⟨e.column, .unpackedMapping⟩ else objection? known e)
      <|> namedObjection? known es

def keysObjection? (known : List String) : List (Option Expr × Expr) → Option Objection
  | [] => none
  | (k, _) :: es => optionObjection? known k <|> keysObjection? known es

def valuesObjection? (known : List String) : List (Option Expr × Expr) → Option Objection
  | [] => none
  | (_, v) :: es => objection? known v <|> valuesObjection? known es

def comparedObjection? (known : List String) : List (Comparison × Expr) → Option Objection
  | [] => none
  | (_, e) :: es => objection? known e <|> comparedObjection? known es

/-- The names that are known after some clauses, or the first objection to these. -/
def clausesKnown (known : List String) : List Clause → Except Objection (List String)
  | [] => .ok known
  | .mk target iterated conditions isAsync :: cs =>
    match objection? known iterated with
    | some o => .error o
    | none =>
      match boundNames target with
      | .error o => .error o
      | .ok names =>
        match listObjection? (names ++ known) conditions with
        | some o => .error o
        | none =>
          if isAsync then .error ⟨0, .asyncIteration⟩ else clausesKnown (names ++ known) cs

end

mutual

/-- Whether a test holds for some expression inside of an expression, itself included. -/
def anywhere (p : Expr → Bool) : Expr → Bool
  | .literal c l => p (.literal c l)
  | .name c n => p (.name c n)
  | .foreign c n => p (.foreign c n)
  | .member c b n => p (.member c b n) || anywhere p b
  | .subscript c b i => p (.subscript c b i) || anywhere p b || anywhere p i
  | .slice c a b s => p (.slice c a b s) || anywhereOption p a || anywhereOption p b || anywhereOption p s
  | .call c f args named =>
    p (.call c f args named) || anywhere p f || anywhereList p args || anywhereNamed p named
  | .row c kind es => p (.row c kind es) || anywhereList p es
  | .dict c es => p (.dict c es) || anywhereEntries p es
  | .comprehension c kind e cs => p (.comprehension c kind e cs) || anywhere p e || anywhereClauses p cs
  | .joined c es => p (.joined c es) || anywhereList p es
  | .placed c v k s => p (.placed c v k s) || anywhere p v || anywhereOption p s
  | .unary c op e => p (.unary c op e) || anywhere p e
  | .logical c isAnd es => p (.logical c isAnd es) || anywhereList p es
  | .binary c op a b => p (.binary c op a b) || anywhere p a || anywhere p b
  | .compare c e rest => p (.compare c e rest) || anywhere p e || anywhereCompared p rest
  | .conditional c x a b => p (.conditional c x a b) || anywhere p x || anywhere p a || anywhere p b
  | .starred c e => p (.starred c e) || anywhere p e

def anywhereOption (p : Expr → Bool) : Option Expr → Bool
  | none => false
  | some e => anywhere p e

def anywhereList (p : Expr → Bool) : List Expr → Bool
  | [] => false
  | e :: es => anywhere p e || anywhereList p es

def anywhereNamed (p : Expr → Bool) : List (Option String × Expr) → Bool
  | [] => false
  | (_, e) :: es => anywhere p e || anywhereNamed p es

def anywhereEntries (p : Expr → Bool) : List (Option Expr × Expr) → Bool
  | [] => false
  | (k, v) :: es => anywhereOption p k || anywhere p v || anywhereEntries p es

def anywhereCompared (p : Expr → Bool) : List (Comparison × Expr) → Bool
  | [] => false
  | (_, e) :: es => anywhere p e || anywhereCompared p es

def anywhereClauses (p : Expr → Bool) : List Clause → Bool
  | [] => false
  | .mk t i cs _ :: rest => anywhere p t || anywhere p i || anywhereList p cs || anywhereClauses p rest

end

/-- A call that gives one name to two arguments, or a name that is reserved. -/
def isClash : Expr → Bool
  | .call _ _ _ named =>
    let names := named.filterMap (·.1)
    !names.Nodup || names.contains "__debug__"
  | _ => false

/-- Names that are constants. Only what is a variant of such a name as it is written can be read as a name. -/
def constantNames : List String := ["None", "True", "False"]

def isConstantName : Expr → Bool
  | .name _ n => constantNames.contains n
  | _ => false

/-- Whether some call gives one name to two arguments, or a name that is reserved. -/
def clashes (e : Expr) : Bool := e.anywhere isClash

/-- Whether a constant is used as a name. -/
def misnames (e : Expr) : Bool := e.anywhere isConstantName

def knownNames (names : List String) : List String := names ++ Function.library.map (·.name)

end Conformance.Expr
