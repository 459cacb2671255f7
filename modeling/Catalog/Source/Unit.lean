import Catalog.Scope.Build
import Catalog.Syntax.Parse

/-!
# Source units

A source unit is a file that was read as a module: where it stands, which module it is, its
syntax and its scopes.
-/

namespace Catalog

open Syntax

/-- Where a unit comes from. No two units of a scan have the same origin. -/
inductive Origin where
  /-- The repository, with the place of the unit among its units. -/
  | repository (index : Nat)
  /-- A search path, with the name under which the unit was looked up. -/
  | searchPath (module : String)
  deriving DecidableEq, Repr, Inhabited

/-- A file that was read as a module. -/
structure SourceUnit where
  origin : Origin
  path : String
  identity : ModuleName.Identity
  body : List Node
  scopes : ScopeTable
  deriving Repr, Inhabited

namespace SourceUnit

/-- The deepest tree of which the scopes can be found. -/
def maxDepth : Nat := 320

/-- The dotted name of the module. -/
def moduleName (u : SourceUnit) : String := u.identity.name

/-- The package that holds the module. -/
def package (u : SourceUnit) : String := u.identity.package

/-- There are no statements. -/
def isEmpty (u : SourceUnit) : Bool := u.body.isEmpty

/-- The unit of a module that was read already. -/
def ofModule (origin : Origin) (path : String) (identity : ModuleName.Identity) (m : Module) :
    SourceUnit :=
  { origin, path, identity, body := m.body
    scopes := ScopeTable.ofModule identity.name identity.package m }

/-- The unit of a text. -/
def ofText (origin : Origin) (path : String) (identity : ModuleName.Identity) (text : String) :
    Except SourceError SourceUnit :=
  match Module.parse text with
  | .error e => .error e
  | .ok m => if maxDepth < m.depth then .error .tooDeep else .ok (ofModule origin path identity m)

/-- The unit of a text of the repository; which module it is follows from its path. -/
def parse (roots : List String) (index : Nat) (path text : String) :
    Except SourceError SourceUnit :=
  ofText (.repository index) path (ModuleName.ofPath path roots) text

/-- The scope of the module. -/
def topScope (u : SourceUnit) : Scope :=
  (u.scopes.get? ScopeTable.moduleScope).getD default

/-- The symbol of a name at the top of the module. -/
def topSymbol? (u : SourceUnit) (name : String) : Option Symbol :=
  u.topScope.symbol? name

/-- The symbol that a name leads to where it stands. -/
def symbolFor? (u : SourceUnit) (node : Nat) (name : String) : Option SymbolRef :=
  u.scopes.symbolFor? node name

/-- Where a line stands, as it is written in warnings. -/
def location (u : SourceUnit) (line : Nat) : String :=
  if line = 0 then u.path else u.path ++ ":" ++ toString line

end SourceUnit

end Catalog
