import Catalog.Resolve.Name

/-!
# Constants

A constant is a name that is bound once, to a text. The text may be a literal, another constant,
or texts that are added up. A constant that depends on itself has no value.
-/

namespace Catalog.Resolve

open Syntax

variable (units : List SourceUnit)

mutual

/-- The text that an expression refers to: a literal, or the value of a constant. -/
def referenceValue (fuel : Nat) (seen : List SymbolKey) (u : SourceUnit) (expr : Node) :
    Query (Option String) :=
  match fuel with
  | 0 => .fail .tooDeep
  | fuel + 1 =>
    match expr with
    | .constant _ text => return text
    | .name info id context =>
      match u.symbolFor? info.id id with
      | none => do
        let q ← expressionName units fuel [] u (.name info id context)
        qualifiedValue fuel seen q
      | some ref => constantValue fuel seen u ref
    | .attr info value label => do
      let q ← expressionName units fuel [] u (.attr info value label)
      qualifiedValue fuel seen q
    | _ => return none

/-- The value of the constant with a qualified name. -/
def qualifiedValue (fuel : Nat) (seen : List SymbolKey) (q : Option String) :
    Query (Option String) :=
  match fuel with
  | 0 => .fail .tooDeep
  | fuel + 1 =>
    match q with
    | none => return none
    | some q =>
      if q.isEmpty then return none
      else do
        match ← lookupSymbol units q with
        | none => return none
        | some (owner, ref) => constantValue fuel seen owner ref

/-- The value of a symbol, unless it was met before. -/
def constantValue (fuel : Nat) (seen : List SymbolKey) (u : SourceUnit) (ref : SymbolRef) :
    Query (Option String) :=
  match fuel with
  | 0 => .fail .tooDeep
  | fuel + 1 =>
    let key : SymbolKey := { origin := u.origin, symbol := ref }
    if seen.contains key then return none
    else
      match (u.scopes.symbol? ref).bind Symbol.definite? with
      | none => return none
      | some b =>
        match b.form with
        | .imported target => do
          let q ← canonical units target
          qualifiedValue fuel (key :: seen) (some q)
        | .assigned value => definitionValue fuel (key :: seen) u value
        | _ => return none

/-- The text that the definition of a constant gives. Here texts may be added. -/
def definitionValue (fuel : Nat) (seen : List SymbolKey) (u : SourceUnit) (expr : Node) :
    Query (Option String) :=
  match fuel with
  | 0 => .fail .tooDeep
  | fuel + 1 =>
    match expr with
    | .binOp _ true left right => do
      let a ← definitionValue fuel seen u left
      let b ← definitionValue fuel seen u right
      match a, b with
      | some a, some b => return some (a ++ b)
      | _, _ => return none
    | expr => referenceValue fuel seen u expr

end

/-- The value of a symbol of a unit, if it is a constant. -/
def symbolValue (u : SourceUnit) (ref : SymbolRef) : Query (Option String) :=
  constantValue units maxNesting [] u ref

/-- The text of a field: that of a literal or of a constant, and otherwise the empty text. -/
def fieldText (u : SourceUnit) (expr : Node) : Query String := do
  return (← referenceValue units maxNesting [] u expr).getD ""

end Catalog.Resolve
