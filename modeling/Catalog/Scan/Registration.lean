import Catalog.Resolve.Name
import Catalog.Scan.Options
import Catalog.Scan.Tracing

/-!
# Registrations

A module registers what it provides when it is loaded: in its own statements, or in functions that
are called to initialise it. Each of these is an entry, and the first call of the registry's
function that runs in an entry is its registration. A call in a function that is only defined
there does not run.
-/

namespace Catalog

open Syntax

/-- Code that runs when a module is loaded. -/
structure LoadEntry where
  /-- The name of the function; the module's own statements have a name in angle brackets. -/
  name : String
  scope : Nat
  line : Nat
  body : List Node

namespace LoadEntry

/-- The name of the entry of the module's own statements. -/
def moduleEntry : String := "<module>"

/-- The entry of a function, if the statement is one of the given functions. -/
def ofStatement? (u : SourceUnit) (initFunctions : List String) (statement : Node) :
    Option LoadEntry :=
  match statement with
  | .functionDef info _ name _ body _ _ =>
    if initFunctions.contains name then
      (u.scopes.openedBy? info.id).map fun scope => { name, scope, line := info.line, body }
    else none
  | _ => none

/-- The entries of a unit, the module's own statements first. -/
def all (u : SourceUnit) (initFunctions : List String) : List LoadEntry :=
  { name := moduleEntry, scope := ScopeTable.moduleScope, line := 0, body := u.body } ::
    u.body.filterMap (ofStatement? u initFunctions)

end LoadEntry

/-- A call that registers something. -/
structure Registration where
  entry : String
  scope : Nat
  call : Node
  /-- What is registered. -/
  argument : Node

namespace Registration

/-- The function of a call and its first argument, if that argument is a single value. -/
def callee? : Node → Option (Node × Node)
  | .call _ func (argument :: _) _ =>
    match argument with
    | .plain _ .starred _ => none
    | _ => some (func, argument)
  | _ => none

/-- What a node registers, if it is a call of the registry's function. -/
def argument? (units : List SourceUnit) (o : ScanOptions) (u : SourceUnit) (n : Node) :
    Query (Option (Node × Node)) :=
  match callee? n with
  | none => return none
  | some (func, argument) => do
    let q ← Resolve.qualifiedName units u func
    if ← Resolve.matchesTarget units q o.registerTarget then return some (n, argument)
    else return none

/-- The first registration that runs when nodes run. -/
def first? (units : List SourceUnit) (o : ScanOptions) (u : SourceUnit) (body : List Node) :
    Query (Option (Node × Node)) :=
  Query.firstSome (argument? units o u) (Node.executed body)

/-- The warning for an entry without a registration. -/
def missingWarning (o : ScanOptions) (u : SourceUnit) (e : LoadEntry) : String :=
  u.location e.line ++ ": initializer " ++ e.name ++ "() has no " ++ o.registerTarget ++ " call"

/-- The registrations of entries, at most one of each. A function without one leaves a warning. -/
def ofEntries (units : List SourceUnit) (o : ScanOptions) (u : SourceUnit) :
    List LoadEntry → Tracing (List Registration)
  | [] => return []
  | e :: rest => do
    match ← Tracing.query (first? units o u e.body) with
    | none =>
      if e.name != LoadEntry.moduleEntry then Tracing.warn (missingWarning o u e)
      ofEntries units o u rest
    | some (call, argument) =>
      let others ← ofEntries units o u rest
      return { entry := e.name, scope := e.scope, call, argument } :: others

/-- The registrations of a unit. -/
def all (units : List SourceUnit) (o : ScanOptions) (u : SourceUnit) :
    Tracing (List Registration) :=
  ofEntries units o u (LoadEntry.all u o.initFunctions)

end Registration

end Catalog
