import Catalog.Resolve.Query

/-!
# What names denote

A qualified name is a module and names inside of it, with dots between them. `canonical` follows a
qualified name from module to module, as long as the module it names only imports what the name
stands for. `qualifiedName` gives the qualified name of an expression, through imports, simple
aliases and attributes.

Modules of the repository come before those on the search paths, and longer module names before
shorter ones.
-/

namespace Catalog.Resolve

open Syntax

variable (units : List SourceUnit)

/-! ## Modules -/

/-- The unit of a module of the repository. Of several units of one name the first one counts; a
unit without a name has none. -/
def indexed? (m : String) : Option SourceUnit :=
  if m.isEmpty then none else units.find? fun u => u.moduleName == m

/-- The unit of a module, in the repository or outside of it. -/
def unitFor? (m : String) : Query (Option SourceUnit) :=
  match indexed? units m with
  | some u => return some u
  | none => if m.isEmpty then return none else Query.outside m

/-- All ways to cut a dotted name in two, with the longest first part first. -/
def cuts (q : String) : List (String × List String) :=
  let parts := Dotted.segments q
  (List.range parts.length).map fun k =>
    (Dotted.ofSegments (parts.take (parts.length - k)), parts.drop (parts.length - k))

/-- The first of the cuts whose first part is a module outside of the repository. -/
def firstOutside? : List (String × List String) → Query (Option (SourceUnit × List String))
  | [] => return none
  | (m, rest) :: more => do
    match ← Query.outside m with
    | some u => return some (u, rest)
    | none => firstOutside? more

/-- The longest known module that a dotted name begins with, and the rest of the name. -/
def split? (q : String) : Query (Option (SourceUnit × List String)) :=
  match (cuts q).findSome? fun (m, rest) => (indexed? units m).map (·, rest) with
  | some found => return some found
  | none => firstOutside? (cuts q)

/-! ## Re-exports -/

/-- The first of some modules from which a name can be imported together with everything else. -/
def starTargetIn? (name : String) : List String → Query (Option String)
  | [] => return none
  | m :: rest => do
    match ← unitFor? units m with
    | some u =>
      if u.topScope.binds name && !Text.beginsWith name "_" then return some (m ++ "." ++ name)
      else starTargetIn? name rest
    | none => starTargetIn? name rest

/-- The qualified name of a name that a module does not bind itself. -/
def starTarget? (u : SourceUnit) (name : String) : Query (Option String) :=
  starTargetIn? units name u.topScope.stars

/-- The name that a qualified name is only an import of. -/
def redirect? (q : String) : Query (Option String) := do
  match ← split? units q with
  | none => return none
  | some (_, []) => return none
  | some (u, name :: rest) =>
    match u.topSymbol? name with
    | none => return (← starTarget? units u name).map fun t => Dotted.ofSegments (t :: rest)
    | some symbol =>
      return (symbol.definite?.bind fun b => b.form.target?).map fun t =>
        Dotted.ofSegments (t :: rest)

/-- Follows imports from a name, unless it was met before. -/
def canonicalFrom : (fuel : Nat) → (seen : List String) → String → Query String
  | 0, _, _ => .fail .endless
  | fuel + 1, seen, q =>
    if seen.contains q then return q
    else do
      match ← redirect? units q with
      | none => return q
      | some next => canonicalFrom fuel (q :: seen) next

/-- The most imports that are followed from one name. No set of sources has that many names, so a
chain that goes on for longer goes on without end. -/
def maxRedirects : Nat := 1000000000000000000

/-- The qualified name of what a name denotes where it is defined. -/
def canonical (q : String) : Query String :=
  canonicalFrom units maxRedirects [] q

/-! ## Symbols -/

/-- A symbol of a unit of a scan. -/
structure SymbolKey where
  origin : Origin
  symbol : SymbolRef
  deriving DecidableEq, Repr

/-- The qualified name of a symbol, made of the names of the scopes around it. -/
def scopeQualname (u : SourceUnit) (ref : SymbolRef) : String :=
  Dotted.ofSegments <|
    (u.moduleName :: (u.scopes.path ref.scope).drop 1 ++ [ref.name]).filter (· != "")

/-- The most references that may be nested in each other. -/
def maxNesting : Nat := 960

mutual

/-- The qualified name of what a symbol denotes. -/
def symbolName (fuel : Nat) (seen : List SymbolKey) (u : SourceUnit) (ref : SymbolRef) :
    Query (Option String) :=
  match fuel with
  | 0 => .fail .tooDeep
  | fuel + 1 =>
    match (u.scopes.symbol? ref).bind Symbol.definite? with
    | none => return none
    | some b =>
      match b.form with
      | .imported target => return some (← canonical units target)
      | .function => return some (scopeQualname u ref)
      | .classDef => return some (scopeQualname u ref)
      | .assigned value =>
        let key : SymbolKey := { origin := u.origin, symbol := ref }
        if seen.contains key then return none
        else expressionName fuel (key :: seen) u value
      | _ => return none

/-- The qualified name of what an expression denotes. -/
def expressionName (fuel : Nat) (seen : List SymbolKey) (u : SourceUnit) (expr : Node) :
    Query (Option String) :=
  match fuel with
  | 0 => .fail .tooDeep
  | fuel + 1 =>
    match expr with
    | .name info id _ =>
      match u.symbolFor? info.id id with
      | none => starTarget? units u id
      | some ref => symbolName fuel seen u ref
    | .attr _ value label => do
      match ← expressionName fuel seen u value with
      | none => return none
      | some base =>
        if base.isEmpty then return none
        else return some (← canonical units (base ++ "." ++ label))
    | _ => return none

end

/-- The qualified name of what an expression of a unit denotes. -/
def qualifiedName (u : SourceUnit) (expr : Node) : Query (Option String) :=
  expressionName units maxNesting [] u expr

/-- The qualified name of what a symbol of a unit denotes. -/
def symbolQualname (u : SourceUnit) (ref : SymbolRef) : Query (Option String) :=
  symbolName units maxNesting [] u ref

/-- The symbol in the body of the class that another symbol is. -/
def memberOf? (u : SourceUnit) (ref : SymbolRef) (attr : String) : Option SymbolRef := do
  let symbol ← u.scopes.symbol? ref
  let b ← symbol.definite?
  match b.form with
  | .classDef =>
    let n ← u.scopes.openedBy? b.owner.id
    u.scopes.symbolIn? n attr
  | _ => none

/-- The symbol that names lead to from the top of a module, through class bodies. -/
def descend? (u : SourceUnit) : List String → Option SymbolRef
  | [] => none
  | name :: rest => do
    let ref ← u.scopes.symbolIn? ScopeTable.moduleScope name
    rest.foldlM (memberOf? u) ref

/-- The symbol that a qualified name denotes, and its unit. -/
def lookupSymbol (q : String) : Query (Option (SourceUnit × SymbolRef)) := do
  match ← split? units (← canonical units q) with
  | none => return none
  | some (u, rest) => return (descend? u rest).map (u, ·)

/-- The qualified name denotes the target, as it is given or where the target is defined. -/
def matchesTarget (q : Option String) (target : String) : Query Bool := do
  match q with
  | none => return false
  | some q =>
    if q.isEmpty then return false
    else if Dotted.endsIn q target then return true
    else
      let resolved ← canonical units target
      return resolved != target && Dotted.endsIn q resolved

end Catalog.Resolve
