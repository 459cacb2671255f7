import Catalog.Syntax.Parser.Pattern

/-!
# Statements

Simple statements stand on one line, with semicolons between them; compound statements have
blocks. The words `match` and `case` are names everywhere else, so a `match` statement is tried
first and read as an expression if it does not fit.

What begins a statement is looked for as a target first, with fewer rules open than there are when
it is read as an expression; what was read then is kept.
-/

namespace Catalog.Syntax.Parser

variable (g : Grammar)

/-! ## Simple statements -/

/-- A value that is assigned or stands alone, `depth` rules inside of its statement. -/
def assignedValue (depth : Nat) : Parser Node := do
  if ← atWord "yield" then inside depth (yieldExpression g)
  else inside depth (starExpressions g)

/-- What may turn out as a target. A single target may stand in brackets. -/
def firstValue : Parser Node := do
  if ← atWord "yield" then inside 2 (yieldExpression g)
  else if ← atOp "(" then asTarget 0 4 (asTarget 1 5 (inside 1 (starExpressions g)))
  else if ← atOp "*" then asTarget 1 9 (inside 1 (starExpressions g))
  else asTarget 0 4 (inside 1 (starExpressions g))

/-- Operators that assign to what they change. -/
def assignmentOps : List String :=
  ["+=", "-=", "*=", "@=", "/=", "%=", "&=", "|=", "^=", "<<=", ">>=", "**=", "//="]

/-- The values of `=` signs in a row, the last one first. -/
def assignmentChain (first : Node) : Parser (List Node) :=
  iterate
    (fun found => do
      if ← acceptOp "=" then return some ((← asTarget 0 7 (assignedValue g 3)) :: found)
      else return none)
    [first]

/-- An assignment, or an expression. -/
def expressionStatement : Parser Node := do
  let info ← here
  let first ← firstValue g
  match ← peek with
  | .op ":" =>
    advance
    let target ← orReject first.singleTarget?
    let hint ← inside 2 (expression g)
    let value ← do
      if ← acceptOp "=" then pure (some (← assignedValue g 4)) else pure none
    return .annAssign info target hint value
  | .op text =>
    if assignmentOps.contains text then
      advance
      let target ← orReject first.singleTarget?
      return .plain info .augAssign [target, ← assignedValue g 3]
    else if text == "=" then
      match ← assignmentChain g first with
      | value :: targets =>
        let targets ← orReject (Node.targets? .store true targets.reverse)
        return .assign info targets value
      | [] => fail
    else return .plain info .exprStmt [first]
  | _ => return .plain info .exprStmt [first]

/-- What is deleted. -/
def deleteStatement (info : Info) : Parser Node := do
  let (items, _) ←
    commaList (inside 5 (primary g)) (inside 6 (primary g)) atExpressionEnd
  let targets ← orReject (Node.targets? .del false items)
  return .plain info .deleteStmt targets

/-- A module name with its dots. -/
def dottedName : Parser String := do
  let first ← name
  iterate (fun text => do
    if ← acceptOp "." then return some (text ++ "." ++ (← name)) else return none) first

/-- Another name after `as`. -/
def asName : Parser (Option String) := do
  if ← acceptWord "as" then return some (← name) else return none

/-- One module that is imported. -/
def importedModule : Parser Node := do
  let info ← here
  let label ← dottedName
  return .importAlias info label (← asName)

/-- One name that is imported from a module. -/
def importedName : Parser Node := do
  let info ← here
  let label ← name
  return .importAlias info label (← asName)

/-- Items with commas between them and none at the end. -/
def commaSeparated {α : Type} (head item : Parser α) : Parser (List α) := do
  let first ← head
  let others ← many do
    if ← acceptOp "," then return some (← item) else return none
  return first :: others

/-- The dots before a module name. -/
def importLevel : Parser Nat :=
  iterate (fun level => do
    if ← acceptOp "." then return some (level + 1)
    else if ← acceptOp "..." then return some (level + 3)
    else return none) 0

/-- What is imported from a module. -/
def importedNames : Parser (List Node) := do
  let info ← here
  if ← acceptOp "*" then return [.importAlias info "*" none]
  else if ← acceptOp "(" then
    let (names, _) ← commaList importedName importedName (atOp ")")
    expectOp ")"
    return names
  else
    commaSeparated importedName importedName

/-- The rest of an import from a module. -/
def importFromStatement (info : Info) : Parser Node := do
  let level ← importLevel
  let module ← do
    if level > 0 && (← atWord "import") then pure none else pure (some (← dottedName))
  expectWord "import"
  return .importFrom info module level (← importedNames)

/-- The rest of a `raise`. -/
def raiseStatement (info : Info) : Parser Node := do
  if startsExpression (← peek) then
    let value ← inside 2 (expression g)
    if ← acceptWord "from" then return .plain info .raiseStmt [value, ← inside 3 (expression g)]
    else return .plain info .raiseStmt [value]
  else return .plain info .raiseStmt []

/-- A statement that begins with a word of the language. -/
def wordStatement (info : Info) (word : String) : Parser Node := do
  match word with
  | "pass" => advance; return .plain info .passStmt []
  | "break" => advance; return .plain info .breakStmt []
  | "continue" => advance; return .plain info .continueStmt []
  | "return" =>
    advance
    reach 26
    if ← atExpressionEnd then return .plain info .returnStmt []
    else return .plain info .returnStmt [← inside 2 (starExpressions g)]
  | "raise" => advance; raiseStatement g info
  | "assert" =>
    advance
    let test ← inside 2 (expression g)
    if ← acceptOp "," then return .plain info .assertStmt [test, ← inside 3 (expression g)]
    else return .plain info .assertStmt [test]
  | "del" => advance; deleteStatement g info
  | "global" => advance; return .globalNames info (← commaSeparated name name)
  | "nonlocal" => advance; return .nonlocalNames info (← commaSeparated name name)
  | "import" =>
    advance
    return .importModules info (← commaSeparated importedModule importedModule)
  | "from" => advance; importFromStatement info
  | _ => expressionStatement g

/-- A simple statement. An expression is looked for before any word. -/
def simpleStatement : Parser Node := do
  let info ← here
  reach 25
  match ← peek with
  | .keyword word => wordStatement g info word
  | _ => expressionStatement g

/-- Simple statements up to the end of the line. -/
def simpleStatements : Parser (List Node) := do
  let first ← inside 1 (simpleStatement g)
  let others ← many do
    if ← acceptOp ";" then
      if ← at? .newline then return none else return some (← inside 3 (simpleStatement g))
    else return none
  expect .newline
  return first :: others

/-! ## Blocks -/

/-- Statements up to the end of a block. -/
def blockStatements : Parser (List Node) := do
  let first ← inside 3 (g .statement)
  let others ← many do
    if ← at? .dedent then return none else return some (← inside 3 (g .statement))
  expect .dedent
  return first ++ others.flatten

/-- A colon and the statements after it. -/
def block : Parser (List Node) := do
  expectOp ":"
  if ← accept .newline then
    if ← accept .indent then blockStatements g else failWith .missingBlock
  else inside 1 (simpleStatements g)

/-- The block after `else`, if there is one. -/
def elseBlock : Parser (List Node) := do
  if ← acceptWord "else" then inside 1 (block g) else return []

/-- A condition after its word, with its block. -/
def condition (info : Info) : Parser (Info × Node × List Node) := do
  let test ← inside 1 (namedExpression g)
  return (info, test, ← inside 1 (block g))

/-- The conditions of an `if` with their blocks, the last one first, each inside of the one
before. -/
def conditions (first : Info × Node × List Node) : Parser (List (Info × Node × List Node)) :=
  iterate
    (fun found => do
      let info ← here
      if ← acceptWord "elif" then
        return some ((← inside found.length (condition g info)) :: found)
      else return none)
    [first]

/-- A condition after `elif` is an `if` in the `else` of the one before. -/
def ifNode (otherwise : List Node) : List (Info × Node × List Node) → List Node
  | [] => otherwise
  | (info, test, body) :: rest =>
    [.plain info .ifStmt (test :: body ++ ifNode otherwise rest)]

/-- An `if` after its word. -/
def ifStatement (info : Info) : Parser (List Node) := do
  let found ← conditions g (← condition g info)
  let otherwise ← inside found.length (elseBlock g)
  return ifNode otherwise found.reverse

/-- A `while` after its word. -/
def whileStatement (info : Info) : Parser Node := do
  let test ← inside 1 (namedExpression g)
  let body ← inside 1 (block g)
  return .plain info .whileStmt (test :: body ++ (← inside 1 (elseBlock g)))

/-- A `for` after its word. -/
def forStatement (info : Info) (async : Bool) : Parser Node := do
  let target ← inside 1 (targetList (primary g))
  expectWord "in"
  let iter ← inside 1 (starExpressions g)
  let body ← inside 1 (block g)
  let otherwise ← inside 1 (elseBlock g)
  return .plain info (if async then .asyncForStmt else .forStmt)
    (target :: iter :: body ++ otherwise)

/-- One context of a `with`. -/
def withItem : Parser Node := do
  let value ← inside 1 (expression g)
  if ← acceptWord "as" then
    let target ← inside 1 (targetItem (primary g))
    let target ← orReject (target.target? .store true)
    if !((← atOp ",") || (← atOp ")") || (← atOp ":")) then fail
    return .plain { line := 0 } .withItem [value, target]
  else return .plain { line := 0 } .withItem [value]

/-- The contexts of a `with`, if they stand in brackets. -/
def bracketedWithItems : Parser (List Node) := do
  expectOp "("
  let (items, _) ← commaList (inside 2 (withItem g)) (inside 3 (withItem g)) (atOp ")")
  expectOp ")"
  if ← atOp ":" then return items else fail

/-- A `with` after its word. -/
def withStatement (info : Info) (async : Bool) : Parser Node := do
  let bracketed ← do
    if ← atOp "(" then attempt (bracketedWithItems g) else pure none
  let items ← match bracketed with
    | some items => pure items
    | none => commaSeparated (inside 2 (withItem g)) (inside 3 (withItem g))
  let body ← inside 1 (block g)
  return .plain info (if async then .asyncWithStmt else .withStmt) (items ++ body)

/-- A handler after its word. Handlers for groups have a star and always a type. -/
def exceptHandler (info : Info) (star : Bool) : Parser Node := do
  if !star && (← atOp ":") then return .exceptHandler info none none (← inside 1 (block g))
  else
    let type ← inside 1 (expression g)
    let label ← asName
    return .exceptHandler info (some type) label (← inside 1 (block g))

/-- The handlers of a `try`, and whether each has a star. -/
def exceptHandlers : Parser (List (Node × Bool)) :=
  many do
    let info ← here
    if ← acceptWord "except" then
      let star ← acceptOp "*"
      return some (← inside 2 (exceptHandler g info star), star)
    else return none

/-- A `try` after its word. -/
def tryStatement (info : Info) : Parser Node := do
  let body ← inside 1 (block g)
  let handlers ← exceptHandlers g
  if handlers.any Prod.snd && !handlers.all Prod.snd then reject
  let otherwise ← if handlers.isEmpty then pure [] else inside 1 (elseBlock g)
  let hasFinal ← acceptWord "finally"
  let final ← if hasFinal then inside 2 (block g) else pure []
  if handlers.isEmpty && !hasFinal then reject
  return .plain info (if handlers.any Prod.snd then .tryStarStmt else .tryStmt)
    (body ++ handlers.map Prod.fst ++ otherwise ++ final)

/-! ## Definitions -/

/-- A function after `def`. -/
def functionDef (info : Info) (async : Bool) (decorators : List Node) : Parser Node := do
  let label ← name
  expectOp "("
  let args ← parameters g true ")"
  expectOp ")"
  let returns ← do
    if ← acceptOp "->" then pure (some (← inside 2 (expression g))) else pure none
  return .functionDef info async label args (← inside 1 (block g)) decorators returns

/-- A class after its word. -/
def classDef (info : Info) (decorators : List Node) : Parser Node := do
  let label ← name
  let found ← do
    if ← acceptOp "(" then callArguments g (one (g .factor)) info false else pure {}
  return .classDef info label found.args found.keywords (← inside 1 (block g)) decorators

/-- Decorators, each on a line of its own. -/
def decorators : Parser (List Node) :=
  many do
    if ← acceptOp "@" then
      let value ← inside 4 (namedExpression g)
      expect .newline
      return some value
    else return none

/-- What decorators stand before. -/
def decorated : Parser Node := do
  let found ← decorators g
  let info ← here
  if ← acceptWord "class" then inside 1 (classDef g info found)
  else
    let async ← acceptWord "async"
    expectWord "def"
    inside 1 (functionDef g info async found)

/-! ## Matching -/

/-- The subject of a `match`. -/
def matchSubject : Parser Node := do
  let info ← here
  let star ← atOp "*"
  let first ← inside 1 (starNamed g)
  if ← acceptOp "," then
    if ← atOp ":" then return .plain info .tuple [first]
    let (more, _) ← commaList (inside 3 (starNamed g)) (inside 4 (starNamed g)) (atOp ":")
    return .plain info .tuple (first :: more)
  else
    if star then fail
    return first

/-- The first line of a `match`. -/
def matchHead : Parser Node := do
  expect (.name "match")
  let subject ← inside 1 (matchSubject g)
  expectOp ":"
  expect .newline
  return subject

/-- One case of a `match`. -/
def matchCase : Parser Node := do
  expect (.name "case")
  let found ← topPattern g
  let guard ← do
    if ← acceptWord "if" then pure [← inside 2 (namedExpression g)] else pure []
  return .plain { line := 0 } .matchCase (found :: guard ++ (← inside 1 (block g)))

/-- The cases of a `match`, with the end of its block. -/
def matchCases : Parser (List Node) := do
  let first ← inside 2 (matchCase g)
  let others ← many do
    if ← at? .dedent then return none else return some (← inside 2 (matchCase g))
  expect .dedent
  return first :: others

/-- A `match`, unless its first line is no such line. -/
def matchStatement : Parser (Option Node) := do
  let info ← here
  match ← attempt (matchHead g) with
  | none => return none
  | some subject =>
    if ← accept .indent then
      return some (.plain info .matchStmt (subject :: (← matchCases g)))
    else failWith .missingBlock

/-! ## All statements -/

/-- A compound statement that begins with a word of the language. A definition is read inside of
its decorators, which may be missing. -/
def compoundStatement? (info : Info) (word : String) : Parser (Option (List Node)) := do
  match word with
  | "if" => advance; return some (← inside 2 (ifStatement g info))
  | "while" => advance; return some [← inside 2 (whileStatement g info)]
  | "for" => advance; return some [← inside 2 (forStatement g info false)]
  | "try" => advance; return some [← inside 2 (tryStatement g info)]
  | "with" => advance; return some [← inside 2 (withStatement g info false)]
  | "def" => advance; return some [← inside 3 (functionDef g info false [])]
  | "class" => advance; return some [← inside 3 (classDef g info [])]
  | "async" =>
    advance
    if ← acceptWord "def" then return some [← inside 3 (functionDef g info true [])]
    else if ← acceptWord "for" then return some [← inside 2 (forStatement g info true)]
    else if ← acceptWord "with" then return some [← inside 2 (withStatement g info true)]
    else fail
  | _ => return none

/-- A compound statement, or all simple statements of a line. -/
def wholeStatement : Parser (List Node) := do
  let info ← here
  match ← peek with
  | .op "@" => return [← inside 2 (decorated g)]
  | .keyword word =>
    match ← compoundStatement? g info word with
    | some found => return found
    | none => inside 1 (simpleStatements g)
  | .name "match" =>
    match ← inside 2 (matchStatement g) with
    | some found => return [found]
    | none => inside 1 (simpleStatements g)
  | _ => inside 1 (simpleStatements g)

end Catalog.Syntax.Parser
