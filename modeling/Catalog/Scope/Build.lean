import Catalog.Scope.Steps
import Catalog.Syntax.Numbering

/-!
# The scopes of a module

The table of scopes is what the steps of a module leave when they are taken one after another. A
name that is bound in a comprehension by an assignment belongs to the scope around it. A name that
is declared global belongs to the module; one that is declared nonlocal belongs to the nearest
function around that binds it so far, and to the scope itself if there is none.
-/

namespace Catalog

open Syntax

/-- The table so far, and the open scopes, the current one first. -/
structure ScopeBuilder where
  table : ScopeTable
  current : Nat
  /-- The scopes around the current one, the nearest first. -/
  outer : List Nat := []

namespace ScopeBuilder

/-- Changes the current scope. -/
def modifyScope (b : ScopeBuilder) (n : Nat) (f : Scope → Scope) : ScopeBuilder :=
  { b with table := { b.table with scopes := b.table.scopes.modify n f } }

/-- The nearest scope that is no comprehension, with the scopes around it. The last scope of the
list is taken in any case. -/
def withoutComprehensions (t : ScopeTable) (n : Nat) : List Nat → Nat × List Nat
  | [] => (n, [])
  | next :: rest =>
    match t.get? n with
    | some s =>
      if s.kind = .comprehension then withoutComprehensions t next rest else (n, next :: rest)
    | none => (n, next :: rest)

/-- The nearest function that binds a name. -/
def functionBinding? (t : ScopeTable) (name : String) (scopes : List Nat) : Option Nat :=
  scopes.find? fun n =>
    match t.get? n with
    | some s => s.kind = .function && s.binds name
    | none => false

/-- The scope that a binding of a name belongs to. -/
def bindingScope (b : ScopeBuilder) (name : String) : Nat :=
  let (n, outer) := withoutComprehensions b.table b.current b.outer
  match b.table.get? n with
  | none => n
  | some s =>
    if s.globals.contains name then ScopeTable.moduleScope
    else if s.nonlocals.contains name then (functionBinding? b.table name outer).getD n
    else n

/-- Takes one step. -/
def take (b : ScopeBuilder) : Step → ScopeBuilder
  | .place node =>
    { b with table := { b.table with places := (node, b.current) :: b.table.places } }
  | .bind fixed name binding =>
    b.modifyScope (if fixed then b.current else b.bindingScope name) fun s => s.bind name binding
  | .enter kind info name body =>
    let outer := b.current :: b.outer
    let scope : Scope := { kind, node := info.id, line := info.line, name, outer, body }
    { table := { b.table with scopes := b.table.scopes.push scope }
      current := b.table.scopes.size, outer }
  | .leave =>
    match b.outer with
    | n :: rest => { b with current := n, outer := rest }
    | [] => b
  | .declareGlobal names =>
    b.modifyScope b.current fun s => { s with globals := s.globals ++ names }
  | .declareNonlocal names =>
    b.modifyScope b.current fun s => { s with nonlocals := s.nonlocals ++ names }
  | .star module => b.modifyScope b.current fun s => { s with stars := s.stars ++ [module] }

/-- The beginning: the scope of the module, and nothing in it. -/
def start (name : String) (body : List Node) : ScopeBuilder :=
  { table :=
      { scopes := #[{ kind := .module, node := Module.id, line := 0, name, outer := [], body }]
        places := [(Module.id, ScopeTable.moduleScope)] }
    current := ScopeTable.moduleScope }

end ScopeBuilder

/-- The scopes of a module with the given name, in the given package. -/
def ScopeTable.ofModule (name package : String) (m : Module) : ScopeTable :=
  let steps := Node.stepsList package none m.body
  (steps.foldl ScopeBuilder.take (ScopeBuilder.start name m.body)).table

end Catalog
