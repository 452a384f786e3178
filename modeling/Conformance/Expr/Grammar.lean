import Conformance.Expr.Template

/-!
# The grammar of expressions

Expressions are read from their tokens by descent along the precedence of their operators. Each function
reads one kind of expression and leaves the tokens that follow it.
-/

namespace Conformance.Expr

/-- Reads from the front of a list of tokens, or fails. -/
abbrev Parse := StateT (List Token) Option

namespace Parse

def next? : Parse (Option Lexeme) := do return (← get).head?.map (·.lexeme)

def here : Parse Nat := do return ((← get).head?.map (·.column)).getD 0

def advance : Parse Unit := modify List.tail

def isNext (l : Lexeme) : Parse Bool := do return (← next?) == some l

/-- Takes a token if it comes next. -/
def accept (l : Lexeme) : Parse Bool := do
  if ← isNext l then
    advance
    return true
  else return false

def expect (l : Lexeme) : Parse Unit := do
  if !(← accept l) then failure

def name : Parse String := do
  match ← next? with
  | some (.name s) =>
    advance
    return s
  | _ => failure

def isNameBefore (op : String) : Parse Bool := do
  match ← get with
  | ⟨.name _, _⟩ :: ⟨.op o, _⟩ :: _ => return o == op
  | _ => return false

def isClause : Parse Bool := do return (← isNext (.keyword "for")) || (← isNext (.keyword "async"))

def chained (word : String) (operand : Parse Expr) : (fuel : Nat) → Parse (List Expr)
  | 0 => failure
  | fuel + 1 => do
    if ← accept (.keyword word) then
      let e ← operand
      let es ← chained word operand fuel
      return e :: es
    else return []

def comparison? : Parse (Option Comparison) := do
  match ← get with
  | ⟨.op o, _⟩ :: rest =>
    match [("==", Comparison.eq), ("!=", .notEq), ("<", .lt), ("<=", .le), (">", .gt), (">=", .ge)].lookup o with
    | some c =>
      set rest
      return some c
    | none => return none
  | ⟨.keyword "in", _⟩ :: rest =>
    set rest
    return some .isIn
  | ⟨.keyword "not", _⟩ :: ⟨.keyword "in", _⟩ :: rest =>
    set rest
    return some .notIn
  | ⟨.keyword "is", _⟩ :: ⟨.keyword "not", _⟩ :: rest =>
    set rest
    return some .notSame
  | ⟨.keyword "is", _⟩ :: rest =>
    set rest
    return some .same
  | _ => return none

def compared (operand : Parse Expr) : (fuel : Nat) → Parse (List (Comparison × Expr))
  | 0 => failure
  | fuel + 1 => do
    match ← comparison? with
    | none => return []
    | some c =>
      let e ← operand
      let es ← compared operand fuel
      return (c, e) :: es

def levels : List (List (String × BinaryOp)) :=
  [[("|", .bitOr)], [("^", .bitXor)], [("&", .bitAnd)], [("<<", .leftShift), (">>", .rightShift)],
    [("+", .add), ("-", .sub)],
    [("*", .mul), ("/", .div), ("//", .floorDiv), ("%", .mod), ("@", .matMul)]]

def operations (column : Nat) (ops : List (String × BinaryOp)) (operand : Parse Expr) :
    (fuel : Nat) → Expr → Parse Expr
  | 0, _ => failure
  | fuel + 1, left => do
    match ← next? with
    | some (.op o) =>
      match ops.lookup o with
      | some op =>
        advance
        let right ← operand
        operations column ops operand fuel (.binary column op left right)
      | none => return left
    | _ => return left

def leveled (operand : Parse Expr) (fuel : Nat) : List (List (String × BinaryOp)) → Parse Expr
  | [] => operand
  | ops :: tighter => do
    let column ← here
    let left ← leveled operand fuel tighter
    operations column ops (leveled operand fuel tighter) fuel left

def strings : (fuel : Nat) → Parse (List (StringForm × List Glyph))
  | 0 => failure
  | fuel + 1 => do
    match ← next? with
    | some (.string form body) =>
      advance
      return (form, body) :: (← strings fuel)
    | _ => return []

end Parse

mutual

def isTarget : Expr → Bool
  | .name .. | .member .. | .subscript .. => true
  | .row _ .tuple es | .row _ .list es => areTargets es
  | .starred _ e => isPlainTarget e
  | _ => false

def isPlainTarget : Expr → Bool
  | .name .. | .member .. | .subscript .. => true
  | .row _ .tuple es | .row _ .list es => areTargets es
  | _ => false

def areTargets : List Expr → Bool
  | [] => true
  | e :: es => isTarget e && areTargets es

end

def isStarred : Expr → Bool
  | .starred .. => true
  | _ => false

structure Parameters where
  named : Bool := false
  optional : Bool := false
  slash : Bool := false
  star : Bool := false
  /-- A star without a name still needs a parameter. -/
  bare : Bool := false

namespace Parse

mutual

/-- A conditional, a function or anything tighter. -/
def expression : (fuel : Nat) → Parse Expr
  | 0 => failure
  | fuel + 1 => do
    let column ← here
    if ← accept (.keyword "lambda") then
      parameters fuel {}
      expect (.op ":")
      discard (expression fuel)
      return .foreign column "Lambda"
    else
      let yes ← disjunction fuel
      if ← accept (.keyword "if") then
        let condition ← disjunction fuel
        expect (.keyword "else")
        return .conditional column condition yes (← expression fuel)
      else return yes

def parameters : (fuel : Nat) → Parameters → Parse Unit
  | 0, _ => failure
  | fuel + 1, s => do
    match ← next? with
    | some (.op ":") => if s.bare then failure
    | some (.name _) =>
      advance
      if ← accept (.op "=") then
        discard (expression fuel)
        moreParameters fuel { s with named := true, optional := true, bare := false }
      else
        if s.optional && !s.star then failure
        moreParameters fuel { s with named := true, bare := false }
    | some (.op "/") =>
      advance
      if !s.named || s.slash || s.star then failure
      moreParameters fuel { s with slash := true }
    | some (.op "*") =>
      advance
      if s.star then failure
      match ← next? with
      | some (.name _) =>
        advance
        moreParameters fuel { s with star := true }
      | _ => moreParameters fuel { s with star := true, bare := true }
    | some (.op "**") =>
      advance
      if s.bare then failure
      discard name
      discard (accept (.op ","))
      if !(← isNext (.op ":")) then failure
    | _ => failure

def moreParameters : (fuel : Nat) → Parameters → Parse Unit
  | 0, _ => failure
  | fuel + 1, s => do
    if ← accept (.op ",") then parameters fuel s
    else if s.bare || !(← isNext (.op ":")) then failure

def disjunction : (fuel : Nat) → Parse Expr
  | 0 => failure
  | fuel + 1 => do
    let column ← here
    let first ← conjunction fuel
    match ← chained "or" (conjunction fuel) fuel with
    | [] => return first
    | es => return .logical column false (first :: es)

def conjunction : (fuel : Nat) → Parse Expr
  | 0 => failure
  | fuel + 1 => do
    let column ← here
    let first ← inversion fuel
    match ← chained "and" (inversion fuel) fuel with
    | [] => return first
    | es => return .logical column true (first :: es)

def inversion : (fuel : Nat) → Parse Expr
  | 0 => failure
  | fuel + 1 => do
    let column ← here
    if ← accept (.keyword "not") then return .unary column .not (← inversion fuel)
    else
      let first ← operand fuel
      match ← compared (operand fuel) fuel with
      | [] => return first
      | es => return .compare column first es

def operand : (fuel : Nat) → Parse Expr
  | 0 => failure
  | fuel + 1 => leveled (factor fuel) fuel levels

/-- A sign with its operand, or a power. -/
def factor : (fuel : Nat) → Parse Expr
  | 0 => failure
  | fuel + 1 => do
    let column ← here
    if ← accept (.op "+") then return .unary column .plus (← factor fuel)
    else if ← accept (.op "-") then return .unary column .minus (← factor fuel)
    else if ← accept (.op "~") then return .unary column .invert (← factor fuel)
    else
      let base ← awaited fuel
      if ← accept (.op "**") then return .binary column .pow base (← factor fuel)
      else return base

def awaited : (fuel : Nat) → Parse Expr
  | 0 => failure
  | fuel + 1 => do
    let column ← here
    if ← accept (.keyword "await") then
      discard (primary fuel)
      return .foreign column "Await"
    else primary fuel

def primary : (fuel : Nat) → Parse Expr
  | 0 => failure
  | fuel + 1 => do
    let column ← here
    trailers fuel column (← atom fuel)

def trailers : (fuel : Nat) → Nat → Expr → Parse Expr
  | 0, _, _ => failure
  | fuel + 1, column, e => do
    let opening ← here
    if ← accept (.op ".") then trailers fuel column (.member column e (← name))
    else if ← accept (.op "(") then
      let (args, named) ← arguments fuel opening
      trailers fuel column (.call column e args named)
    else if ← accept (.op "[") then
      let index ← subscripts fuel
      trailers fuel column (.subscript column e index)
    else return e

/-- The arguments of a call after its opening bracket; a lone comprehension needs no brackets of its own. -/
def arguments : (fuel : Nat) → (opening : Nat) → Parse (List Expr × List (Option String × Expr))
  | 0, _ => failure
  | fuel + 1, opening => do
    let single := !((← isNext (.op ")")) || (← isNext (.op "*")) || (← isNext (.op "**"))
      || (← isNameBefore "="))
    if single then
      let e ← assigned fuel
      if ← isClause then
        let cs ← clauses fuel
        expect (.op ")")
        return ([.comprehension opening .generator e cs], [])
      else if ← accept (.op ",") then
        let (args, named) ← moreArguments fuel false false
        return (e :: args, named)
      else
        expect (.op ")")
        return ([e], [])
    else moreArguments fuel false false

/-- Further arguments; after one with a name none goes by position, and after an unpacked mapping no
sequence is unpacked. -/
def moreArguments : (fuel : Nat) → (named mapped : Bool) →
    Parse (List Expr × List (Option String × Expr))
  | 0, _, _ => failure
  | fuel + 1, named, mapped => do
    let column ← here
    if ← accept (.op ")") then return ([], [])
    else if ← accept (.op "*") then
      if mapped then failure
      let e ← expression fuel
      let (es, ns) ← nextArguments fuel named mapped
      return (.starred column e :: es, ns)
    else if ← accept (.op "**") then
      let e ← expression fuel
      let (es, ns) ← nextArguments fuel true true
      return (es, (none, e) :: ns)
    else if ← isNameBefore "=" then
      let n ← name
      expect (.op "=")
      let e ← expression fuel
      let (es, ns) ← nextArguments fuel true mapped
      return (es, (some n, e) :: ns)
    else
      if named then failure
      let e ← assigned fuel
      let (es, ns) ← nextArguments fuel named mapped
      return (e :: es, ns)

def nextArguments : (fuel : Nat) → (named mapped : Bool) →
    Parse (List Expr × List (Option String × Expr))
  | 0, _, _ => failure
  | fuel + 1, named, mapped => do
    if ← accept (.op ",") then moreArguments fuel named mapped
    else
      expect (.op ")")
      return ([], [])

def subscripts : (fuel : Nat) → Parse Expr
  | 0 => failure
  | fuel + 1 => do
    let column ← here
    let first ← subscriptItem fuel
    if ← accept (.op ",") then return .row column .tuple (first :: (← moreSubscripts fuel))
    else
      expect (.op "]")
      if isStarred first then return .row column .tuple [first] else return first

def moreSubscripts : (fuel : Nat) → Parse (List Expr)
  | 0 => failure
  | fuel + 1 => do
    if ← accept (.op "]") then return []
    else
      let e ← subscriptItem fuel
      if ← accept (.op ",") then return e :: (← moreSubscripts fuel)
      else
        expect (.op "]")
        return [e]

/-- A slice, an unpacked sequence or an index. -/
def subscriptItem : (fuel : Nat) → Parse Expr
  | 0 => failure
  | fuel + 1 => do
    let column ← here
    if ← accept (.op "*") then return .starred column (← expression fuel)
    else if ← isNameBefore ":=" then assigned fuel
    else
      let start ← bound fuel
      if ← accept (.op ":") then
        let stop ← bound fuel
        let step ← if ← accept (.op ":") then bound fuel else pure none
        return .slice column start stop step
      else
        match start with
        | some e => return e
        | none => failure

def bound : (fuel : Nat) → Parse (Option Expr)
  | 0 => failure
  | fuel + 1 => do
    if (← isNext (.op ":")) || (← isNext (.op ",")) || (← isNext (.op "]")) then return none
    else return some (← expression fuel)

def assigned : (fuel : Nat) → Parse Expr
  | 0 => failure
  | fuel + 1 => do
    let column ← here
    if ← isNameBefore ":=" then
      advance
      advance
      discard (expression fuel)
      return .foreign column "NamedExpr"
    else expression fuel

def item : (fuel : Nat) → Parse Expr
  | 0 => failure
  | fuel + 1 => do
    let column ← here
    if ← accept (.op "*") then return .starred column (← operand fuel)
    else assigned fuel

def items : (fuel : Nat) → (closing : String) → Parse (List Expr)
  | 0, _ => failure
  | fuel + 1, closing => do
    if ← accept (.op closing) then return []
    else
      let e ← item fuel
      if ← accept (.op ",") then return e :: (← items fuel closing)
      else
        expect (.op closing)
        return [e]

/-- Expressions with commas between them, of which some may be unpacked. -/
def sequence : (fuel : Nat) → Parse Unit
  | 0 => failure
  | fuel + 1 => do
    if ← accept (.op "*") then discard (operand fuel) else discard (expression fuel)
    if ← accept (.op ",") then
      if !(← isNext (.op ")")) then sequence fuel

def clauses : (fuel : Nat) → Parse (List Clause)
  | 0 => failure
  | fuel + 1 => do
    let isAsync ← accept (.keyword "async")
    expect (.keyword "for")
    let t ← targets fuel
    expect (.keyword "in")
    let iterated ← disjunction fuel
    let conditions ← chained "if" (disjunction fuel) fuel
    let c := Clause.mk t iterated conditions isAsync
    if ← isClause then return c :: (← clauses fuel) else return [c]

def targets : (fuel : Nat) → Parse Expr
  | 0 => failure
  | fuel + 1 => do
    let column ← here
    let first ← targetItem fuel
    if ← accept (.op ",") then return .row column .tuple (first :: (← moreTargets fuel))
    else return first

def moreTargets : (fuel : Nat) → Parse (List Expr)
  | 0 => failure
  | fuel + 1 => do
    if ← isNext (.keyword "in") then return []
    else
      let e ← targetItem fuel
      if ← accept (.op ",") then return e :: (← moreTargets fuel) else return [e]

def targetItem : (fuel : Nat) → Parse Expr
  | 0 => failure
  | fuel + 1 => do
    let column ← here
    let star ← accept (.op "*")
    let e ← primary fuel
    let e := if star then .starred column e else e
    if isTarget e then return e else failure

def atom : (fuel : Nat) → Parse Expr
  | 0 => failure
  | fuel + 1 => do
    let column ← here
    match ← next? with
    | some (.name s) =>
      advance
      return .name column s
    | some (.keyword "None") =>
      advance
      return .literal column .none
    | some (.keyword "True") =>
      advance
      return .literal column (.bool true)
    | some (.keyword "False") =>
      advance
      return .literal column (.bool false)
    | some (.number l) =>
      advance
      return .literal column l
    | some (.op "...") =>
      advance
      return .literal column .ellipsis
    | some (.string ..) => joinedStrings fuel column (← strings fuel)
    | some (.op "(") =>
      advance
      group fuel column
    | some (.op "[") =>
      advance
      if ← accept (.op "]") then return .row column .list []
      else
        let e ← item fuel
        if !isStarred e && (← isClause) then
          let cs ← clauses fuel
          expect (.op "]")
          return .comprehension column .list e cs
        else if ← accept (.op ",") then return .row column .list (e :: (← items fuel "]"))
        else
          expect (.op "]")
          return .row column .list [e]
    | some (.op "\x7b") =>
      advance
      braces fuel column
    | _ => failure

/-- What follows an opening parenthesis: a tuple, a comprehension or an expression in parentheses. -/
def group : (fuel : Nat) → (column : Nat) → Parse Expr
  | 0, _ => failure
  | fuel + 1, column => do
    let inner ← here
    if ← accept (.op ")") then return .row column .tuple []
    else if ← accept (.keyword "yield") then
      if ← accept (.keyword "from") then
        discard (expression fuel)
        expect (.op ")")
        return .foreign inner "YieldFrom"
      else
        if !(← isNext (.op ")")) then sequence fuel
        expect (.op ")")
        return .foreign inner "Yield"
    else
      let e ← item fuel
      if !isStarred e && (← isClause) then
        let cs ← clauses fuel
        expect (.op ")")
        return .comprehension column .generator e cs
      else if ← accept (.op ",") then return .row column .tuple (e :: (← items fuel ")"))
      else
        expect (.op ")")
        if isStarred e then failure else return e

/-- What follows an opening brace: a mapping or a set. -/
def braces : (fuel : Nat) → (column : Nat) → Parse Expr
  | 0, _ => failure
  | fuel + 1, column => do
    if ← accept (.op "\x7d") then return .dict column []
    else if ← accept (.op "**") then
      let e ← operand fuel
      return .dict column ((none, e) :: (← moreEntries fuel))
    else
      let plain := !(← isNameBefore ":=")
      let e ← item fuel
      if plain && !isStarred e && (← accept (.op ":")) then
        let v ← expression fuel
        if ← isClause then
          discard (clauses fuel)
          expect (.op "\x7d")
          return .foreign column "DictComp"
        else return .dict column ((some e, v) :: (← moreEntries fuel))
      else if !isStarred e && (← isClause) then
        let cs ← clauses fuel
        expect (.op "\x7d")
        return .comprehension column .set e cs
      else if ← accept (.op ",") then return .row column .set (e :: (← items fuel "\x7d"))
      else
        expect (.op "\x7d")
        return .row column .set [e]

def moreEntries : (fuel : Nat) → Parse (List (Option Expr × Expr))
  | 0 => failure
  | fuel + 1 => do
    if ← accept (.op ",") then
      if ← accept (.op "\x7d") then return []
      else if ← accept (.op "**") then
        let e ← operand fuel
        return (none, e) :: (← moreEntries fuel)
      else
        let k ← expression fuel
        expect (.op ":")
        let v ← expression fuel
        return (some k, v) :: (← moreEntries fuel)
    else
      expect (.op "\x7d")
      return []

/-- One value from strings side by side: octets, a text, or a text with expressions in it. -/
def joinedStrings : (fuel : Nat) → (column : Nat) → List (StringForm × List Glyph) → Parse Expr
  | 0, _, _ => failure
  | fuel + 1, column, parts => do
    if parts.all fun (form, _) => form.bytes then
      let texts ← parts.mapM fun (form, body) => liftM (bodyText form (chars body))
      return .literal column (.bytes (texts.flatten.map fun c => UInt8.ofNat c.toNat))
    else if parts.any fun (form, _) => form.bytes then failure
    else if parts.any fun (form, _) => form.template then
      let ps ← parts.mapM fun (form, body) =>
        if form.template then liftM (templatePieces form.raw body)
        else (fun cs => [Piece.text cs]) <$> liftM (bodyText form (chars body))
      return .joined column (← ps.flatten.mapM (part fuel column))
    else
      let texts ← parts.mapM fun (form, body) => liftM (bodyText form (chars body))
      return .literal column (.text (String.ofList texts.flatten))

def part : (fuel : Nat) → (column : Nat) → Piece → Parse Expr
  | 0, _, _ => failure
  | _ + 1, column, .text cs => return .literal column (.text (String.ofList cs))
  | fuel + 1, column, .place source conversion spec => do
    let tokens ← liftM (tokens? source)
    let (value, _) ← liftM ((expression fuel).run tokens)
    match spec with
    | none => return .placed column value conversion none
    | some ps =>
      let spec ← ps.mapM (part fuel column)
      return .placed column value conversion (some (.joined column spec))

end

/-- One or more expressions, a tuple if there is a comma, up to the end. -/
def whole (fuel : Nat) : Parse Expr := do
  let column ← here
  let first ← expression fuel
  let e ← if ← accept (.op ",") then
      let es ← more fuel
      pure (.row column .tuple (first :: es))
    else pure first
  set ((← get).dropWhile (·.lexeme == .newline))
  if (← get).isEmpty then return e else failure
where
  more : Nat → Parse (List Expr)
    | 0 => failure
    | n + 1 => do
      match ← next? with
      | none | some .newline => return []
      | _ =>
        let e ← expression fuel
        if ← accept (.op ",") then return e :: (← more n) else return [e]

end Parse

/-- The expression that a text denotes, if it follows the grammar. The fuel is enough for any text of its
length: each token is reached through a bounded number of kinds of expressions. -/
def ofText? (s : List Char) : Option Expr := do
  let gs := withColumns 0 (plainLines s)
  let tokens ← tokens? gs
  let (e, _) ← (Parse.whole (32 * (gs.length + 2))).run tokens
  some e

end Conformance.Expr
