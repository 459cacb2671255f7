import Catalog.Syntax.Parser.Expression

/-!
# Patterns

What stands after `case`: literals, names that take a value, names that are compared, sequences,
mappings, classes, and alternatives of these. Patterns are nested in brackets only, of which there
are never enough to fill the interpreter's stack, so no rules are counted here.
-/

namespace Catalog.Syntax.Parser

variable (g : Grammar)

/-- A pattern inside another one. -/
def pattern : Parser Node := one (g .pattern)

/-- A number, possibly after a minus sign, and whether it is imaginary. -/
def signedNumber : Parser (Node × Bool) := do
  let info ← here
  let negative ← acceptOp "-"
  let inner ← here
  match ← peek with
  | .number imaginary =>
    advance
    let value := Node.constant inner none
    return (if negative then .plain info .unaryOp [value] else value, imaginary)
  | _ => fail

/-- A number as a literal: a signed number, or a real one with an imaginary one added to it. -/
def numberLiteral : Parser Node := do
  let info ← here
  let (value, imaginary) ← signedNumber
  let plus ← acceptOp "+"
  if plus || (← acceptOp "-") then
    let inner ← here
    match ← peek with
    | .number second =>
      advance
      if imaginary || !second then reject
      return .binOp info plus value (.constant inner none)
    | _ => fail
  else return value

/-- A literal that can be compared with a value, but for the words. -/
def literalValue? : Parser (Option Node) := do
  match ← peek with
  | .number _ | .op "-" => return some (← numberLiteral)
  | .string _ => return some (← strings g)
  | _ => return none

/-- One of the words `None`, `True` and `False` is at the position. -/
def atSingleton : Parser Bool := do
  match ← peek with
  | .keyword word => return ["None", "True", "False"].contains word
  | _ => return false

/-- Attributes of a value that was read before. -/
def dottedRest (info : Info) (value : Node) : Parser Node :=
  iterate (fun n => do if ← acceptOp "." then return some (.attr info n (← name)) else return none)
    value

/-- A name that takes a value: not the wildcard, and nothing follows that makes it more than a
name. -/
def captureName : Parser String := do
  if ← at? (.name "_") then fail
  let label ← name
  if (← atOp ".") || (← atOp "(") || (← atOp "=") then fail
  return label

/-- A star before the name for the rest of a sequence. -/
def starPattern : Parser Node := do
  let info ← here
  expectOp "*"
  if ← accept (.name "_") then return .matchStar info none
  else return .matchStar info (some (← captureName))

/-- An item of a sequence of patterns. -/
def sequenceItem : Parser Node := do
  if ← atOp "*" then starPattern else pattern g

/-- The items of a sequence up to a closing bracket, which is not read. -/
def sequenceItems (closing : String) : Parser (List Node × Bool) := do
  if ← atOp closing then return ([], true)
  else commaList (sequenceItem g) (sequenceItem g) (atOp closing)

/-- The key of a mapping pattern. -/
def mappingKey : Parser Node := do
  let info ← here
  if ← atSingleton then
    advance
    return .constant info none
  match ← literalValue? g with
  | some value => return value
  | none =>
    let label ← name
    match ← dottedRest info (.name info label .load) with
    | .name .. => fail
    | value => return value

/-- An item of a mapping pattern: a key with its pattern, or a name for the rest. -/
def mappingItem : Parser (Node × Node ⊕ String) := do
  if ← acceptOp "**" then return .inr (← captureName)
  else
    let key ← mappingKey g
    expectOp ":"
    return .inl (key, ← pattern g)

/-- A mapping pattern after its opening brace. A name for the rest must come last. -/
def mappingPattern (info : Info) : Parser Node := do
  if ← acceptOp "\x7d" then return .matchMapping info [] [] none
  let (items, _) ← commaList (mappingItem g) (mappingItem g) (atOp "\x7d")
  expectOp "\x7d"
  let pairs := items.filterMap Sum.getLeft?
  let rest := items.filterMap Sum.getRight?
  if rest.length > 1 || items.dropLast.any Sum.isRight then reject
  return .matchMapping info (pairs.map Prod.fst) (pairs.map Prod.snd) rest.head?

/-- An item of a class pattern, and whether it has a name. -/
def classItem : Parser (Node × Bool) := do
  if (← peekAt 1) == .op "=" then
    let _ ← name
    advance
    return (← pattern g, true)
  else return (← pattern g, false)

/-- A class pattern after its opening bracket. Patterns with names come last. -/
def classPattern (info : Info) (value : Node) : Parser Node := do
  if ← acceptOp ")" then return .plain info .matchClass [value]
  let (items, _) ← commaList (classItem g) (classItem g) (atOp ")")
  expectOp ")"
  if (items.dropWhile fun item => !item.2).any fun item => !item.2 then reject
  return .plain info .matchClass (value :: items.map Prod.fst)

/-- A pattern that begins with a name. -/
def namePattern : Parser Node := do
  let info ← here
  let label ← name
  let value ← dottedRest info (.name info label .load)
  if ← acceptOp "(" then classPattern g info value
  else
    if ← atOp "=" then fail
    match value with
    | .name .. => return .matchAs info none (if label == "_" then none else some label)
    | _ => return .plain info .matchValue [value]

/-- A pattern that is not made of alternatives. -/
def closedPattern : Parser Node := do
  let info ← here
  if ← atSingleton then
    advance
    return .plain info .matchSingleton []
  match ← literalValue? g with
  | some value => return .plain info .matchValue [value]
  | none =>
    if ← acceptOp "[" then
      let (items, _) ← sequenceItems g "]"
      expectOp "]"
      return .plain info .matchSequence items
    else if ← acceptOp "(" then
      let (items, comma) ← sequenceItems g ")"
      expectOp ")"
      match items, comma with
      | [.matchStar ..], false => reject
      | [item], false => return item
      | _, _ => return .plain info .matchSequence items
    else if ← acceptOp "\x7b" then mappingPattern g info
    else namePattern g

/-- Alternatives, with a name for the value if there is one. -/
def wholePattern : Parser Node := do
  let info ← here
  let first ← closedPattern g
  let others ← many do
    if ← acceptOp "|" then return some (← closedPattern g) else return none
  let value := if others.isEmpty then first else .plain info .matchOr (first :: others)
  if ← acceptWord "as" then return .matchAs info (some value) (some (← captureName))
  else return value

/-- A pattern at the top, where a sequence needs no brackets. -/
def topPattern : Parser Node := do
  let info ← here
  let (items, comma) ←
    commaList (sequenceItem g) (sequenceItem g) (do return (← atOp ":") || (← atWord "if"))
  match items, comma with
  | [.matchStar ..], false => reject
  | [item], false => return item
  | _, _ => return .plain info .matchSequence items

end Catalog.Syntax.Parser
