import Catalog.Syntax.Node
import Catalog.Text.Basic

/-!
# Scopes and symbols

A scope is a part of a module in which names are bound: the module itself, the body of a class or
of a function, or a comprehension. A symbol is one name in one scope, with everything that binds
it. Two names in a module denote the same thing exactly if they lead to the same symbol.

The scopes of a module form a table in the order in which they open. A scope knows the scopes
around it, so looking a name up is a walk outwards along a list. The first scope is that of the
module.
-/

namespace Catalog

open Syntax

/-- What binds a name. -/
inductive BindingForm where
  /-- An assignment of one expression to the name. -/
  | assigned (value : Node)
  /-- An import of the given absolute name. -/
  | imported (target : String)
  | function
  | classDef
  | parameter
  /-- Anything else that binds: a loop, an unpacking, a deletion, a relative import that leads out
  of the package. -/
  | other
  deriving Repr

namespace BindingForm

/-- The name of a form. -/
def text : BindingForm → String
  | assigned _ => "assign"
  | imported _ => "import"
  | function => "def"
  | classDef => "class"
  | parameter => "param"
  | other => "other"

/-- The absolute name that is imported. -/
def target? : BindingForm → Option String
  | imported target => some target
  | _ => none

/-- The expression that is assigned. -/
def value? : BindingForm → Option Node
  | assigned value => some value
  | _ => none

/-- The name is bound by a definition. -/
def isDeclaration : BindingForm → Bool
  | function => true
  | classDef => true
  | _ => false

end BindingForm

/-- One binding of a name, and the node that makes it. -/
structure Binding where
  form : BindingForm
  owner : Node
  deriving Repr

/-- A name in a scope, with its bindings in the order in which they stand. -/
structure Symbol where
  name : String
  bindings : List Binding
  deriving Repr

namespace Symbol

/-- The symbol is bound by imports only, and all of them import the same thing. -/
def sameImports (target : String) (bindings : List Binding) : Bool :=
  bindings.all fun b => b.form.target? == some target

/-- The binding that every use of the symbol sees: the only one, or the first of several imports
of the same thing. A symbol that is bound in more than one way has none. -/
def definite? (s : Symbol) : Option Binding :=
  match s.bindings with
  | [] => none
  | [b] => some b
  | b :: rest =>
    match b.form.target? with
    | some target => if sameImports target rest then some b else none
    | none => none

end Symbol

/-- The kinds of scope. -/
inductive ScopeKind where
  | module
  | classBody
  | function
  | comprehension
  deriving DecidableEq, Repr, Inhabited

/-- The name of a kind. -/
def ScopeKind.text : ScopeKind → String
  | module => "module"
  | classBody => "class"
  | function => "function"
  | comprehension => "comprehension"

/-- A scope. -/
structure Scope where
  kind : ScopeKind
  /-- The number of the node that opens the scope. -/
  node : Nat
  line : Nat
  name : String
  /-- The scopes around this one, the nearest first. -/
  outer : List Nat
  /-- What runs in the scope. -/
  body : List Node
  symbols : List Symbol := []
  /-- Names that are declared to be those of the module. -/
  globals : List String := []
  /-- Names that are declared to be those of a function around. -/
  nonlocals : List String := []
  /-- The modules of which everything is imported. -/
  stars : List String := []
  deriving Repr, Inhabited

namespace Scope

/-- The symbol of a name. -/
def symbol? (s : Scope) (name : String) : Option Symbol :=
  s.symbols.find? fun symbol => symbol.name == name

/-- The name is bound in the scope. -/
def binds (s : Scope) (name : String) : Bool :=
  (s.symbol? name).isSome

/-- The symbols with one more binding of a name. -/
def addTo (name : String) (binding : Binding) : List Symbol → List Symbol
  | [] => [{ name, bindings := [binding] }]
  | symbol :: rest =>
    if symbol.name == name then
      { symbol with bindings := symbol.bindings ++ [binding] } :: rest
    else symbol :: addTo name binding rest

/-- The scope with one more binding of a name. -/
def bind (s : Scope) (name : String) (binding : Binding) : Scope :=
  { s with symbols := addTo name binding s.symbols }

end Scope

/-- Where a symbol is found: its scope and its name. -/
structure SymbolRef where
  scope : Nat
  name : String
  deriving DecidableEq, Repr

/-- The scopes of a module, and the scope in which each node stands. -/
structure ScopeTable where
  scopes : Array Scope
  /-- Pairs of a node and its scope. -/
  places : List (Nat × Nat) := []
  deriving Repr, Inhabited

namespace ScopeTable

/-- The number of the module's own scope. -/
def moduleScope : Nat := 0

/-- The scope with the given number. -/
def get? (t : ScopeTable) (n : Nat) : Option Scope := t.scopes[n]?

/-- The symbol of a name in a scope. -/
def symbolIn? (t : ScopeTable) (n : Nat) (name : String) : Option SymbolRef :=
  match t.get? n with
  | some s => if s.binds name then some { scope := n, name } else none
  | none => none

/-- The symbol that a reference leads to. -/
def symbol? (t : ScopeTable) (ref : SymbolRef) : Option Symbol :=
  (t.get? ref.scope).bind fun s => s.symbol? ref.name

/-- Looks a name up in the scopes around, the nearest first. Class bodies are passed over. -/
def lookupOuter (t : ScopeTable) (name : String) : List Nat → Option SymbolRef
  | [] => none
  | n :: rest =>
    match t.get? n with
    | none => none
    | some s =>
      if s.kind = .classBody then lookupOuter t name rest
      else if s.globals.contains name then t.symbolIn? moduleScope name
      else if s.binds name && !s.nonlocals.contains name then some { scope := n, name }
      else lookupOuter t name rest

/-- The symbol that a name leads to when it stands in a scope. -/
def lookup (t : ScopeTable) (n : Nat) (name : String) : Option SymbolRef :=
  match t.get? n with
  | none => none
  | some s =>
    if s.globals.contains name then t.symbolIn? moduleScope name
    else if !s.nonlocals.contains name && s.binds name then some { scope := n, name }
    else lookupOuter t name s.outer

/-- The scope in which a node stands. -/
def scopeAt? (t : ScopeTable) (node : Nat) : Option Nat :=
  t.places.lookup node

/-- The symbol that a name in the module leads to. -/
def symbolFor? (t : ScopeTable) (node : Nat) (name : String) : Option SymbolRef :=
  (t.scopeAt? node).bind fun n => t.lookup n name

/-- The scope that a node opens. -/
def openedBy? (t : ScopeTable) (node : Nat) : Option Nat :=
  t.scopes.findIdx? fun s => s.node == node

/-- The scopes directly inside of a scope. -/
def children (t : ScopeTable) (n : Nat) : List Nat :=
  (List.range t.scopes.size).filter fun k =>
    match t.get? k with
    | some s => s.outer.head? == some n
    | none => false

/-- The first class of the given name directly inside of a scope. -/
def classIn? (t : ScopeTable) (n : Nat) (name : String) : Option Nat :=
  (t.children n).find? fun k =>
    match t.get? k with
    | some s => s.kind = .classBody && s.name == name
    | none => false

/-- The names of a scope and of those around it, the outermost first. -/
def path (t : ScopeTable) (n : Nat) : List String :=
  match t.get? n with
  | none => []
  | some s => (s.outer.reverse.filterMap t.get?).map Scope.name ++ [s.name]

/-- The names of a scope and of those around it, with dots between them. -/
def qualname (t : ScopeTable) (n : Nat) : String :=
  Text.join "." (t.path n)

end ScopeTable

end Catalog
