import Catalog.Syntax.Lexer
import Catalog.Syntax.Literal
import Catalog.Syntax.Parser.Basic
import Catalog.Syntax.Parser.Target

/-!
# Expressions

The rules for expressions, from atoms up to lists of expressions with stars. Binary operators
group to the left, except for powers; comparisons and truth operators gather all their operands in
one node. A node begins where its first token stands, brackets included.

An expression is read with every rule between an expression and an atom open, whatever it is, so
where the interpreter looks for an expression in vain it opens them as well.
-/

namespace Catalog.Syntax.Parser

variable (g : Grammar)

def expression : Parser Node := one (g .expression)

/-- A token that can begin an expression. -/
def startsExpression : TokenKind → Bool
  | .name _ | .number _ | .string _ => true
  | .keyword word => ["True", "False", "None", "not", "lambda", "await"].contains word
  | .op text => ["(", "[", "\x7b", "-", "+", "~", "..."].contains text
  | _ => false

/-- The token at the position cannot begin an expression with or without a star. -/
def atExpressionEnd : Parser Bool := do
  let kind ← peek
  return !(startsExpression kind || kind == .op "*")

/-! ## Strings -/

/-- String literals that follow one another, with their lines. -/
def stringLiterals : Parser (List (StringLiteral × Nat)) :=
  many do
    match ← peek with
    | .string literal =>
      let start ← line
      advance
      return some (literal, start)
    | _ => return none

/-- The pieces of a literal, each with the line of the literal. -/
def literalPieces (literal : StringLiteral) (start : Nat) : Option (List (Literal.Piece × Nat)) :=
  if literal.format then
    (Literal.pieces literal.raw literal.body).map fun found => found.map (·, start)
  else (Literal.decode literal.raw literal.body).map fun text => [(.text text, start)]

/-- A string node, if there is any text. -/
def textNodes (start : Nat) (text : List Char) : List Node :=
  if text.isEmpty then [] else [.constant { line := start } (some (String.ofList text))]

/-- The expression of a field, read from its own tokens. -/
def fieldExpression (start : Nat) (expr : List Char) : Parser Node := do
  let input : Input := { tokens := (expressionTokens start expr).toArray }
  match inside 1 (one (g .starExpressions)) input 0 with
  | .ok (n, _) => return n
  | .error e => if e.mismatch = .exhausted then failWith .exhausted else reject

/-- The nodes of the pieces of a format literal. Neighbouring text is one node. `first` is the
line of the whole string, `last` the line for text at the end. -/
def pieceNodes (first last : Nat) :
    Nat → List Char → List (Literal.Piece × Nat) → Parser (List Node)
  | 0, _, _ => reject
  | _, text, [] => return textNodes last text
  | fuel + 1, text, (.text more, _) :: rest => pieceNodes first last fuel (text ++ more) rest
  | fuel + 1, text, (.field expr breaks shown format, start) :: rest => do
    let value ← fieldExpression g (start + breaks) expr
    let formatNodes ← match format with
      | none => pure []
      | some found => do
        let parts ← pieceNodes first start fuel [] (found.map (·, start))
        pure [Node.plain { line := start } .joinedStr parts]
    let field := Node.plain { line := first } .formattedValue (value :: formatNodes)
    let more ← pieceNodes first last fuel [] rest
    return textNodes first (text ++ shown) ++ field :: more

/-- String literals that follow one another are one string. -/
def strings : Parser Node := do
  let info ← here
  let literals ← stringLiterals
  if literals.any fun (literal, _) => literal.bytes then
    if literals.all fun (literal, _) =>
        literal.bytes && Literal.bytesOk literal.raw literal.body then
      return .constant info none
    else reject
  else
    let found ← orReject ((literals.mapM fun (literal, start) => literalPieces literal start))
    let pieces := found.flatten
    if literals.any fun (literal, _) => literal.format then
      let size := literals.foldl (fun total (literal, _) => total + literal.body.length) 0
      return .plain info .joinedStr
        (← pieceNodes g info.line info.line (2 * size + pieces.length + 2) [] pieces)
    else
      let text := pieces.flatMap fun (piece, _) => match piece with
        | .text chars => chars
        | .field .. => []
      return .constant info (some (String.ofList text))

/-! ## Lists of expressions -/

/-- A name that is assigned to inside an expression. -/
def atNamed : Parser Bool := do
  match ← peek with
  | .name _ => return (← peekAt 1) == .op ":="
  | _ => return false

/-- An expression, or an assignment to a name. -/
def namedExpression : Parser Node := do
  if ← atNamed then
    let info ← here
    let target ← name
    advance
    let value ← inside 2 (expression g)
    return .plain info .namedExpr [.name info target .store, value]
  else
    let value ← inside 1 (expression g)
    if ← atOp ":=" then fail
    return value

/-- Operators of one level that group to the left. -/
def binary (ops : List String) (operand : Parser Node) : Parser Node := do
  let info ← here
  let first ← operand
  iterate
    (fun left => do
      match ← peek with
      | .op text =>
        if ops.contains text then
          advance
          return some (.binOp info (text == "+") left (← operand))
        else return none
      | _ => return none)
    first

/-- Operands of the operators `|`, `^`, `&`, shifts, sums and products. -/
def bitwiseOr : Parser Node :=
  binary ["|"] <| binary ["^"] <| binary ["&"] <| binary ["<<", ">>"] <| binary ["+", "-"] <|
    binary ["*", "/", "//", "%", "@"] (inside 12 (one (g .factor)))

/-- An item of a list of expressions: a star before an operand, or an expression. -/
def starNamed : Parser Node := do
  let info ← here
  if ← acceptOp "*" then return .plain info .starred [← inside 1 (bitwiseOr g)]
  else inside 1 (namedExpression g)

/-- An item of a list of expressions outside of brackets. -/
def starExpression : Parser Node := do
  let info ← here
  if ← acceptOp "*" then return .plain info .starred [← inside 1 (bitwiseOr g)]
  else inside 1 (expression g)

/-- Expressions with commas between them are a tuple. -/
def starExpressions : Parser Node := do
  let info ← here
  let (items, comma) ←
    commaList (inside 1 (starExpression g)) (inside 3 (starExpression g)) atExpressionEnd
  match items, comma with
  | [item], false => return item
  | _, _ => return .plain info .tuple items

/-- The value of a `yield`. -/
def yieldExpression : Parser Node := do
  let info ← here
  expectWord "yield"
  if ← acceptWord "from" then return .plain info .yieldFrom [← inside 1 (expression g)]
  else
    reach 25
    if ← atExpressionEnd then return .plain info .yieldExpr []
    else return .plain info .yieldExpr [← inside 1 (starExpressions g)]

/-! ## Operators -/

/-- The operator of a comparison at the position. -/
def comparisonOp : Parser Bool := do
  match ← peek with
  | .op text =>
    if ["==", "!=", "<=", "<", ">=", ">"].contains text then
      advance
      return true
    else return false
  | .keyword "in" => advance; return true
  | .keyword "is" => advance; let _ ← acceptWord "not"; return true
  | .keyword "not" =>
    if (← peekAt 1) == .keyword "in" then
      advance
      advance
      return true
    else return false
  | _ => return false

/-- An operand of a comparison, or a whole comparison. -/
def comparison : Parser Node := do
  let info ← here
  let left ← inside 1 (bitwiseOr g)
  let others ← many do
    if ← comparisonOp then return some (← inside 4 (bitwiseOr g)) else return none
  return if others.isEmpty then left else .plain info .compare (left :: others)

/-- A comparison, or the opposite of one. -/
def inversion : Parser Node := do
  let info ← here
  if ← acceptWord "not" then return .plain info .unaryOp [← inside 1 (one (g .inversion))]
  else inside 1 (comparison g)

/-- Operands with a word between them. -/
def truthOperator (word : String) (operand : Parser Node) : Parser Node := do
  let info ← here
  let first ← inside 1 operand
  let others ← many do
    if ← acceptWord word then return some (← inside 3 operand) else return none
  return if others.isEmpty then first else .plain info .boolOp (first :: others)

def disjunction : Parser Node :=
  truthOperator "or" (truthOperator "and" (one (g .inversion)))

/-! ## Targets and comprehensions -/

/-- A target, read as an expression of the form that targets have. -/
def targetItem (primary : Parser Node) : Parser Node := do
  let info ← here
  if ← acceptOp "*" then
    if ← atOp "*" then fail
    return .plain info .starred [← inside 4 (asTarget 0 0 primary)]
  else inside 2 (asTarget 0 0 primary)

/-- Targets up to the word `in`, or another token at which a list of targets ends. -/
def targetList (primary : Parser Node) : Parser Node := do
  let info ← here
  let (items, comma) ←
    commaList (inside 1 (targetItem primary)) (inside 3 (targetItem primary)) atExpressionEnd
  let whole := match items, comma with
    | [item], false => item
    | _, _ => .plain info .tuple items
  orReject (whole.target? .store true)

/-- One `for` of a comprehension, with its conditions. -/
def comprehensionClause (primary : Parser Node) : Parser (Option Node) := do
  let async ← atWord "async"
  if async then
    if (← peekAt 1) != .keyword "for" then return none
    advance
  if ← acceptWord "for" then
    let target ← inside 1 (targetList primary)
    expectWord "in"
    let iter ← inside 1 (disjunction g)
    let ifs ← many do
      if ← acceptWord "if" then return some (← inside 3 (disjunction g)) else return none
    return some (.generator { line := 0 } target iter ifs)
  else return none

/-- A comprehension begins at the position. -/
def atComprehension : Parser Bool := do
  return (← atWord "for") || ((← atWord "async") && (← peekAt 1) == .keyword "for")

/-- The clauses of a comprehension. -/
def comprehensionClauses (primary : Parser Node) : Parser (List Node) :=
  many (inside 3 (comprehensionClause g primary))

/-! ## Arguments of calls -/

/-- How far the arguments of a call have come: a value without a name cannot follow one with a
name, and a list cannot follow a mapping. -/
inductive ArgumentPhase where
  | positional
  | named
  | mapped
  deriving DecidableEq

/-- What was read of the arguments of a call. -/
structure CallArguments where
  phase : ArgumentPhase := .positional
  args : List Node := []
  keywords : List Node := []
  /-- Values without a name stand before the first one with a name. -/
  leading : Bool := false

/-- How far inside of a call the first argument of the next kind is read. -/
def CallArguments.depth (found : CallArguments) : Nat :=
  if found.leading then 8 else 7

/-- A value without a name was read. -/
def CallArguments.withValue (found : CallArguments) (value : Node) : CallArguments :=
  { found with
    args := found.args ++ [value], leading := found.leading || found.phase = .positional }

/-- A value with a name was read, or a mapping. -/
def CallArguments.withKeyword (found : CallArguments) (phase : ArgumentPhase) (keyword : Node) :
    CallArguments :=
  { found with
    phase := if found.phase = .mapped then .mapped else phase
    keywords := found.keywords ++ [keyword] }

/-- One argument of a call. A value without a name is read `depth` rules inside of it. -/
def callArgument (depth : Nat) (found : CallArguments) : Parser CallArguments := do
  let info ← here
  if ← atOp "*" then
    if found.phase = .mapped then fail
    advance
    let depth := if found.phase = .positional then found.depth else found.depth + 2
    let value ← inside depth (expression g)
    return found.withValue (.plain info .starred [value])
  else if ← acceptOp "**" then
    let depth := if found.phase = .mapped then found.depth + 1 else found.depth
    let value ← inside depth (expression g)
    return found.withKeyword .mapped (.keyword info none value)
  else if (← peekAt 1) == .op "=" then
    let label ← name
    advance
    let depth := if found.phase = .positional then found.depth else found.depth + 1
    let value ← inside depth (expression g)
    return found.withKeyword .named (.keyword info (some label) value)
  else if found.phase = .positional then
    let value ← inside depth (namedExpression g)
    if ← atOp "=" then fail
    return found.withValue value
  else
    -- a value without a name after one with a name
    let _ ← inside found.depth (namedExpression g)
    fail

/-- The arguments of a call after its opening bracket, with the closing one. A comprehension may
be the only argument of a call; it begins at the bracket, and is looked for before anything
else. -/
def callArguments (primary : Parser Node) (start : Info) (comprehension : Bool) :
    Parser CallArguments := do
  if comprehension then reach 26
  if ← acceptOp ")" then return {}
  let first ← callArgument g (if comprehension then 3 else 6) {}
  match first.args with
  | [value] =>
    if comprehension && (← atComprehension) && first.keywords.isEmpty &&
        !(match value with
          | .plain _ .starred _ => true
          | _ => false) then
      let clauses ← inside 2 (comprehensionClauses g primary)
      expectOp ")"
      return { args := [.comprehension start .generator [value] clauses] }
  | _ => pure ()
  let (found, _) ← iterate
    (fun ((found, done) : CallArguments × Bool) => do
      if done then return none
      else if ← acceptOp ")" then return some (found, true)
      else
        expectOp ","
        if ← acceptOp ")" then return some (found, true)
        else return some (← callArgument g 7 found, false))
    (first, false)
  return found

/-! ## Subscripts -/

/-- A bound of a slice, if there is one. -/
def sliceBound : Parser (List Node) := do
  if startsExpression (← peek) then return [← expression g] else return []

/-- The bounds of a slice after its first colon. -/
def sliceTail : Parser (List Node) := do
  let upper ← inside 1 (sliceBound g)
  if ← acceptOp ":" then return upper ++ (← inside 2 (sliceBound g)) else return upper

/-- One item of a subscript. A starred one is read `depth` rules further inside. -/
def sliceItem (depth : Nat) : Parser Node := do
  let info ← here
  if ← acceptOp "*" then return .plain info .starred [← inside depth (expression g)]
  else if ← acceptOp ":" then return .plain info .slice (← sliceTail g)
  else if ← atNamed then inside 1 (namedExpression g)
  else
    let value ← namedExpression g
    if ← acceptOp ":" then return .plain info .slice (value :: (← sliceTail g))
    else return value

/-- The items of a subscript, with the closing bracket. -/
def slices : Parser Node := do
  let info ← here
  let (items, comma) ← commaList (inside 1 (sliceItem g 3)) (inside 4 (sliceItem g 1)) (atOp "]")
  expectOp "]"
  match items, comma with
  | [item], false =>
    match item with
    | .plain _ .starred _ => return .plain info .tuple [item]
    | _ => return item
  | _, _ => return .plain info .tuple items

/-! ## Parameters -/

/-- What was read of a list of parameters. -/
structure Parameters where
  posonly : List Node := []
  args : List Node := []
  vararg : Option Node := none
  kwonly : List Node := []
  kwDefaults : List Node := []
  kwarg : Option Node := none
  defaults : List Node := []
  /-- The slash after the parameters that have a position only was read. -/
  slash : Bool := false
  /-- A star was read. -/
  star : Bool := false
  /-- A star was read that stands alone, and no parameter after it yet. -/
  lone : Bool := false

def Parameters.node (p : Parameters) : Node :=
  .arguments { line := 0 } p.posonly p.args p.vararg p.kwonly p.kwDefaults p.kwarg p.defaults

/-- The hint of a parameter. After a star it may have a star. -/
def parameterHint (star : Bool) : Parser Node := do
  if star && (← atOp "*") then starExpression g else expression g

/-- A parameter with its hint, without its default. The hint is read `depth` rules inside. -/
def parameter (hints star : Bool) (depth : Nat) : Parser Node := do
  let info ← here
  let label ← name
  if hints then
    if ← acceptOp ":" then return .arg info label (some (← inside depth (parameterHint g star)))
  return .arg info label none

/-- One item of a list of parameters. -/
def parameterItem (hints : Bool) (p : Parameters) : Parser Parameters := do
  if ← atOp "/" then
    if p.slash || p.star || p.args.isEmpty then fail
    advance
    return { p with slash := true, posonly := p.args, args := [] }
  else if ← atOp "*" then
    if p.star then fail
    advance
    if ← atOp "," then return { p with star := true, lone := true }
    else return { p with star := true, vararg := some (← parameter g hints true 7) }
  else if ← atOp "**" then
    if p.lone then fail
    advance
    return { p with kwarg := some (← parameter g hints false 8) }
  else
    -- up to a slash, the interpreter looks for the slash first
    let depth := if p.slash && !p.star then 6 else 7
    let arg ← parameter g hints false (depth + 1)
    let default ← do
      if ← acceptOp "=" then pure (some (← inside depth (expression g))) else pure none
    if p.star then
      return { p with
        lone := false, kwonly := p.kwonly ++ [arg], kwDefaults := p.kwDefaults ++ default.toList }
    else if default.isNone && !p.defaults.isEmpty then fail
    else return { p with args := p.args ++ [arg], defaults := p.defaults ++ default.toList }

/-- Parameters up to the token that ends their list, which is not read. -/
def parameters (hints : Bool) (ending : String) : Parser Node := do
  if ← atOp ending then return ({} : Parameters).node
  let first ← parameterItem g hints {}
  let (p, _) ← iterate
    (fun ((p, done) : Parameters × Bool) => do
      if done then return none
      else if ← atOp ending then return some (p, true)
      else
        expectOp ","
        if ← atOp ending then return some (p, true)
        else if p.kwarg.isSome then fail
        else return some (← parameterItem g hints p, false))
    (first, false)
  if p.lone then fail
  return p.node

/-! ## Atoms -/

/-- What stands between round brackets; the opening one was read. -/
def bracketed (primary : Parser Node) (info : Info) : Parser Node := do
  reach 28
  if ← acceptOp ")" then return .plain info .tuple []
  else if ← atWord "yield" then
    let value ← inside 4 (yieldExpression g)
    expectOp ")"
    return value
  else
    let star ← atOp "*"
    let first ← inside 4 (starNamed g)
    if !star && (← atComprehension) then
      let clauses ← inside 2 (comprehensionClauses g primary)
      expectOp ")"
      return .comprehension info .generator [first] clauses
    else if ← acceptOp "," then
      if ← acceptOp ")" then return .plain info .tuple [first]
      let (more, _) ← commaList (inside 6 (starNamed g)) (inside 7 (starNamed g)) (atOp ")")
      expectOp ")"
      return .plain info .tuple (first :: more)
    else
      if star then fail
      expectOp ")"
      return first

/-- What stands between square brackets; the opening one was read. -/
def listDisplay (primary : Parser Node) (info : Info) : Parser Node := do
  reach 29
  if ← acceptOp "]" then return .plain info .list []
  let star ← atOp "*"
  let first ← inside 5 (starNamed g)
  if !star && (← atComprehension) then
    let clauses ← inside 2 (comprehensionClauses g primary)
    expectOp "]"
    return .comprehension info .list [first] clauses
  else if ← acceptOp "," then
    if ← acceptOp "]" then return .plain info .list [first]
    let (more, _) ← commaList (inside 6 (starNamed g)) (inside 6 (starNamed g)) (atOp "]")
    expectOp "]"
    return .plain info .list (first :: more)
  else
    expectOp "]"
    return .plain info .list [first]

/-- An item of a dictionary: a key and its value, or a mapping after two stars. -/
def dictItem : Parser (Option Node × Node) := do
  if ← acceptOp "**" then return (none, ← inside 1 (bitwiseOr g))
  else
    let key ← inside 2 (expression g)
    expectOp ":"
    return (some key, ← inside 2 (expression g))

/-- A dictionary: first the keys, then the values. -/
def dictNode (info : Info) (items : List (Option Node × Node)) : Node :=
  .plain info .dict (items.filterMap Prod.fst ++ items.map Prod.snd)

/-- The rest of a dictionary after its first item. -/
def dictRest (info : Info) (first : Option Node × Node) : Parser Node := do
  if ← acceptOp "," then
    if ← acceptOp "\x7d" then return dictNode info [first]
    let (more, _) ← commaList (inside 6 (dictItem g)) (inside 6 (dictItem g)) (atOp "\x7d")
    expectOp "\x7d"
    return dictNode info (first :: more)
  else
    expectOp "\x7d"
    return dictNode info [first]

/-- The rest of a set after its first item. -/
def setRest (info : Info) (first : Node) : Parser Node := do
  if ← acceptOp "," then
    if ← acceptOp "\x7d" then return .plain info .set [first]
    let (more, _) ← commaList (inside 6 (starNamed g)) (inside 6 (starNamed g)) (atOp "\x7d")
    expectOp "\x7d"
    return .plain info .set (first :: more)
  else
    expectOp "\x7d"
    return .plain info .set [first]

/-- What stands between braces; the opening one was read. -/
def braced (primary : Parser Node) (info : Info) : Parser Node := do
  reach 29
  if ← acceptOp "\x7d" then return .plain info .dict []
  else if ← atOp "**" then dictRest g info (← inside 5 (dictItem g))
  else if ← atOp "*" then setRest g info (← inside 5 (starNamed g))
  else
    let named ← atNamed
    let first ← inside 6 (namedExpression g)
    if !named && (← acceptOp ":") then
      let value ← inside 7 (expression g)
      if ← atComprehension then
        let clauses ← inside 2 (comprehensionClauses g primary)
        expectOp "\x7d"
        return .comprehension info .dict [first, value] clauses
      else dictRest g info (some first, value)
    else if ← atComprehension then
      let clauses ← inside 2 (comprehensionClauses g primary)
      expectOp "\x7d"
      return .comprehension info .set [first] clauses
    else setRest g info first

/-- An atom. The parser `primary` reads targets inside of it. -/
def atom (primary : Parser Node) : Parser Node := do
  let info ← here
  match ← peek with
  | .name id => advance; return .name info id .load
  | .number _ => advance; return .constant info none
  | .string _ =>
    reach 2
    strings g
  | .keyword word =>
    if word == "True" || word == "False" || word == "None" then
      advance
      return .constant info none
    else fail
  | .op text =>
    if text == "(" then
      advance
      bracketed g primary info
    else if text == "[" then
      advance
      listDisplay g primary info
    else if text == "\x7b" then
      advance
      braced g primary info
    else if text == "..." then
      advance
      return .constant info none
    else fail
  | _ => fail

/-- An attribute, a call or a subscript of what was read before. -/
def trailer (primary : Parser Node) (info : Info) (value : Node) : Parser (Option Node) := do
  let start ← here
  if ← acceptOp "." then return some (.attr info value (← name))
  else if ← acceptOp "(" then
    let found ← callArguments g primary start true
    return some (.call info value found.args found.keywords)
  else if ← acceptOp "[" then
    return some (.plain info .subscript [value, ← inside 2 (slices g)])
  else return none

/-- An atom with its trailers; targets inside of it are read with the given parser. -/
def primaryWith (inner : Parser Node) : Parser Node :=
  asKept do
    let info ← here
    let first ← inside 2 (atom g inner)
    iterate (trailer g inner info) first

/-- A target inside an atom is an atom with trailers again, whose own inner targets are read as
factors of the grammar. -/
def primary : Parser Node :=
  primaryWith g (one (g .factor))

/-- A power, or a primary after `await`. -/
def power : Parser Node := do
  let info ← here
  let base ← do
    if ← acceptWord "await" then pure (.plain info .awaitExpr [← inside 2 (primary g)])
    else inside 2 (primary g)
  if ← acceptOp "**" then return .binOp info false base (← inside 1 (one (g .factor)))
  else return base

/-- A power with signs before it. -/
def factor : Parser Node := do
  let info ← here
  if (← acceptOp "+") || (← acceptOp "-") || (← acceptOp "~") then
    return .plain info .unaryOp [← inside 1 (one (g .factor))]
  else inside 1 (power g)

/-- A function without a name. -/
def lambda : Parser Node := do
  let info ← here
  expectWord "lambda"
  let args ← parameters g false ":"
  expectOp ":"
  return .lambda info args (← inside 1 (expression g))

/-- An expression. -/
def wholeExpression : Parser Node := do
  if ← atWord "lambda" then
    reach 22
    inside 1 (lambda g)
  else
    let info ← here
    let body ← inside 1 (disjunction g)
    if ← acceptWord "if" then
      let test ← inside 1 (disjunction g)
      expectWord "else"
      return .plain info .ifExp [test, body, ← inside 1 (expression g)]
    else return body

end Catalog.Syntax.Parser
