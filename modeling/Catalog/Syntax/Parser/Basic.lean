import Catalog.Syntax.Node
import Catalog.Syntax.Token

/-!
# Reading tokens

A parser reads tokens from a position on. It fails at a position, and the position at which it
fails decides what kind of error the module has. The rules of the grammar refer to each other by
`Rule`; a rule takes the parser for all rules as an argument, and `grammar` ties the knot with as
much fuel as there are characters to read.

The interpreter has a stack for the rules that it has opened and not closed yet, and gives up when
that stack is full. What it then raises is no error of the text. So a parser knows how many rules
are open, and the rules below say with `inside` how many more the interpreter opens before it
comes to a part. These numbers are those of its generated parser, where a repetition or a group
inside a rule is a rule of its own.
-/

namespace Catalog.Syntax

/-- How a parser fails. -/
inductive Mismatch where
  /-- The token at the position cannot stand there. -/
  | unexpected
  /-- A block should begin at the position, and the line there is not indented. -/
  | missingBlock
  /-- What was read has the right tokens but is no part of the language. -/
  | rejected
  /-- Too many rules were open. -/
  | exhausted
  deriving DecidableEq, Repr

/-- Where and how a parser failed. -/
structure ParseError where
  position : Nat
  mismatch : Mismatch
  deriving DecidableEq, Repr

/-- What a parser reads from. -/
structure Input where
  tokens : Array Token
  /-- How many rules are open. -/
  opened : Nat := 0
  /-- Positions where a target was looked for before, with the number of rules that were open
  then. What begins there is kept from that reading. -/
  targets : List (Nat × Nat) := []

/-- How many rules may be open. -/
def Input.maxOpened : Nat := 6000

/-- A parser reads from its input, from a position on. -/
abbrev Parser := ReaderT Input (StateT Nat (Except ParseError))

/-- The rules of the grammar that refer to themselves. -/
inductive Rule where
  | expression
  | starExpressions
  | inversion
  | factor
  | pattern
  | statement
  deriving DecidableEq, Repr

/-- Parsers for all rules. A rule gives a list of nodes; most give one. -/
abbrev Grammar := Rule → Parser (List Node)

namespace Parser

/-- The token that stands `n` places after the position. -/
def peekAt (n : Nat) : Parser TokenKind := do
  let input ← read
  let position ← get
  return (input.tokens[position + n]?.map Token.kind).getD .endMarker

/-- The token at the position. -/
def peek : Parser TokenKind := peekAt 0

/-- The line of the token at the position. -/
def line : Parser Nat := do
  let input ← read
  let position ← get
  return (input.tokens[position]?.map Token.line).getD 0

/-- A node that begins at the position. -/
def here : Parser Info := do
  return { line := ← line }

/-- Passes over the token at the position. -/
def advance : Parser Unit := modify (· + 1)

def failWith {α : Type} (mismatch : Mismatch) : Parser α := do
  throw { position := ← get, mismatch }

/-- The token at the position cannot stand there. -/
def fail {α : Type} : Parser α := failWith .unexpected

/-- What was read is no part of the language. -/
def reject {α : Type} : Parser α := failWith .rejected

/-- The value, if there is one. -/
def orReject {α : Type} : Option α → Parser α
  | some a => return a
  | none => reject

/-- Reads a part that stands `n` rules further inside. -/
def inside {α : Type} (n : Nat) (p : Parser α) : Parser α := do
  let opened := (← read).opened + n
  if opened < Input.maxOpened then
    withReader (fun input => { input with opened }) p
  else failWith .exhausted

/-- The interpreter opens `n` rules here before it knows that no part stands there. -/
def reach (n : Nat) : Parser Unit := inside n (return ())

/-- A target is looked for first, `ahead` tokens from here and `n` rules further inside. -/
def asTarget {α : Type} (ahead n : Nat) (p : Parser α) : Parser α := do
  let position ← get
  withReader
    (fun input =>
      { input with targets := (position + ahead, input.opened + n) :: input.targets }) p

/-- Reads a part with as many rules open as there were when a target was looked for here. -/
def asKept {α : Type} (p : Parser α) : Parser α := do
  let position ← get
  withReader
    (fun input => { input with opened := (input.targets.lookup position).getD input.opened }) p

/-- The token at the position is the given one. -/
def at? (kind : TokenKind) : Parser Bool := do
  return (← peek) == kind

/-- Passes over the given token, if it stands at the position. -/
def accept (kind : TokenKind) : Parser Bool := do
  if ← at? kind then
    advance
    return true
  else return false

/-- Passes over the given token. -/
def expect (kind : TokenKind) : Parser Unit := do
  if ← at? kind then advance else fail

def atOp (text : String) : Parser Bool := at? (.op text)
def acceptOp (text : String) : Parser Bool := accept (.op text)
def expectOp (text : String) : Parser Unit := expect (.op text)
def atWord (text : String) : Parser Bool := at? (.keyword text)
def acceptWord (text : String) : Parser Bool := accept (.keyword text)
def expectWord (text : String) : Parser Unit := expect (.keyword text)

/-- A name. -/
def name : Parser String := do
  match ← peek with
  | .name text => advance; return text
  | _ => fail

/-- The only node that a rule gives. -/
def one (p : Parser (List Node)) : Parser Node := do
  match ← p with
  | [n] => return n
  | _ => reject

/-- Results of `p`, one after another, until it gives none. -/
def manyFrom {α : Type} (p : Parser (Option α)) : Nat → List α → Parser (List α)
  | 0, acc => return acc.reverse
  | fuel + 1, acc => do
    match ← p with
    | some a => manyFrom p fuel (a :: acc)
    | none => return acc.reverse

/-- Results of `p`, one after another, until it gives none. There are no more of them than
tokens. -/
def many {α : Type} (p : Parser (Option α)) : Parser (List α) := do
  manyFrom p ((← read).tokens.size + 1) []

/-- The results of reading again and again, each from the one before, until there is no next. -/
def iterateFrom {α : Type} (next : α → Parser (Option α)) : Nat → α → Parser α
  | 0, a => return a
  | fuel + 1, a => do
    match ← next a with
    | some b => iterateFrom next fuel b
    | none => return a

/-- Reads again and again, each time from the result before, until there is no next result. -/
def iterate {α : Type} (next : α → Parser (Option α)) (start : α) : Parser α := do
  iterateFrom next ((← read).tokens.size + 1) start

/-- Items with commas between them, up to a token where the list ends. A comma may stand after
the last one; the flag tells whether a comma was read at all. Items after the first may have a
parser of their own. -/
def commaList {α : Type} (head item : Parser α) (atEnd : Parser Bool) :
    Parser (List α × Bool) := do
  let first ← head
  let (found, _, comma) ← iterate
    (fun ((found, done, comma) : List α × Bool × Bool) => do
      if done then return none
      else if ← acceptOp "," then
        if ← atEnd then return some (found, true, true)
        else return some ((← item) :: found, false, true)
      else return some (found, true, comma))
    ([first], false, false)
  return (found.reverse, comma)

/-- Tries a parser. If it fails, nothing was read, unless it failed at the end of what can be cut
into tokens at all or cannot go on. -/
def attempt {α : Type} (p : Parser α) : Parser (Option α) := fun input position =>
  match p input position with
  | .ok (a, next) => .ok (some a, next)
  | .error e =>
    match input.tokens[e.position]?.map Token.kind with
    | some (.fault _) => .error e
    | _ =>
      if e.mismatch = .rejected || e.mismatch = .exhausted then .error e
      else .ok (none, position)

end Parser

end Catalog.Syntax
