import Catalog.Syntax.Numbering
import Catalog.Syntax.Parser.Statement
import Catalog.Syntax.Traversal

/-!
# Modules from their text

`Module.parse` reads the text of a module. A text that is no module has one of a few kinds of
error; which one is decided by the token at which reading stopped.
-/

namespace Catalog.Syntax

/-- Why a text is no module. -/
inductive SourceError where
  | malformed
  /-- Blocks are not indented as they must be. -/
  | indentation
  /-- Tabs and spaces are mixed so that the depth of a line is not certain. -/
  | tabs
  /-- The text holds the character with code zero. -/
  | nullChar
  /-- Expressions are nested too deep for the tree. -/
  | tooDeep
  /-- Expressions are nested too deep for the parser. -/
  | exhausted
  deriving DecidableEq, Repr

/-- The name under which an error is reported. -/
def SourceError.name : SourceError → String
  | malformed => "SyntaxError"
  | indentation => "IndentationError"
  | tabs => "TabError"
  | nullChar => "ValueError"
  | tooDeep => "RecursionError"
  | exhausted => "MemoryError"

/-- The error that a fault in the tokens is. -/
def LexicalFault.error : LexicalFault → SourceError
  | badToken => .malformed
  | unexpectedEnd => .malformed
  | badContinuation => .malformed
  | badDedent => .indentation
  | tooManyIndents => .indentation
  | mixedTabs => .tabs

namespace Parser

/-- The grammar, for parts that are nested at most `fuel` deep. -/
def grammar : (fuel : Nat) → Grammar
  | 0 => fun _ => reject
  | fuel + 1 => fun rule =>
    let g := grammar fuel
    match rule with
    | .expression => return [← wholeExpression g]
    | .starExpressions => return [← starExpressions g]
    | .inversion => return [← inversion g]
    | .factor => return [← factor g]
    | .pattern => return [← wholePattern g]
    | .statement => wholeStatement g

/-- All statements up to the end. -/
def allStatements (g : Grammar) : Parser (List Node) := do
  let found ← many do
    if ← at? .endMarker then return none else return some (← inside 3 (g .statement))
  expect .endMarker
  return found.flatten

end Parser

/-- The kind of error that reading stopped with. Nothing is looked at after the stack is full;
else a fault in the tokens comes first. A missing block is an error of indentation, unless a bad
token follows somewhere. -/
def ParseError.toSourceError (tokens : Array Token) (e : ParseError) : SourceError :=
  match tokens[e.position]?.map Token.kind, e.mismatch with
  | _, .exhausted => .exhausted
  | some (.fault cause), _ => cause.error
  | _, .missingBlock =>
    if tokens.back?.map Token.kind == some (.fault .badToken) then .malformed else .indentation
  | some .indent, .unexpected => .indentation
  | some .dedent, .unexpected => .indentation
  | _, _ => .malformed

namespace Module

/-- The deepest tree that a text may have. -/
def maxDepth : Nat := 2900

/-- The statements of a text, not numbered yet. -/
def statements (source : String) : Except SourceError (List Node) :=
  if source.toList.contains '\x00' then .error .nullChar
  else
    let tokens := (tokens source).toArray
    let fuel := 4 * source.length + 100
    match Parser.allStatements (Parser.grammar fuel) { tokens } 0 with
    | .ok (found, _) => .ok found
    | .error e => .error (e.toSourceError tokens)

/-- The depth of the deepest statement. -/
def depth (m : Module) : Nat :=
  (m.body.map Node.depth).foldl max 0

/-- The module of a text. -/
def parse (source : String) : Except SourceError Module :=
  match statements source with
  | .error e => .error e
  | .ok body =>
    let m : Module := { body }
    if maxDepth < m.depth then .error .tooDeep else .ok m.numbered

end Module

end Catalog.Syntax
