import Catalog.Scan.Registration

/-!
# Constructors

What is registered is built by a function or class of the same module, the constructor. The
argument of a registration is a call of it, or a name to which such a call is assigned. A
constructor that cannot be traced gives exactly one warning.
-/

namespace Catalog.Constructor

open Syntax

/-- The name that is called, with the node where it stands. -/
def calledName? : Node → Option (Info × String)
  | .call _ (.name info id _) _ _ => some (info, id)
  | _ => none

/-- The name to which a node assigns a value, and the value. -/
def assignment? : Node → Option (Info × String × Node)
  | .assign _ [.name info id _] value => some (info, id, value)
  | .annAssign _ (.name info id _) _ (some value) => some (info, id, value)
  | _ => none

/-- The name that is called in an assignment to a symbol. -/
def assignedCall? (u : SourceUnit) (ref : SymbolRef) (n : Node) : Option (Info × String) :=
  match assignment? n with
  | some (info, id, value) =>
    if u.symbolFor? info.id id == some ref then calledName? value else none
  | none => none

/-- The name that is called in the first call assigned to a symbol, in the order of the scope of
the symbol. -/
def assignedName? (u : SourceUnit) (info : Info) (id : String) : Option (Info × String) := do
  let ref ← u.symbolFor? info.id id
  let scope ← u.scopes.get? ref.scope
  (Node.preorder scope.body).findSome? (assignedCall? u ref)

/-- The constructor's name in the argument of a registration. -/
def name? (u : SourceUnit) : Node → Option (Info × String)
  | .call info func args keywords => calledName? (.call info func args keywords)
  | .name info id _ => assignedName? u info id
  | _ => none

/-- The beginning of a warning about a constructor. -/
def place (u : SourceUnit) (info : Info) (id : String) : String :=
  u.location info.line ++ ": constructor " ++ id ++ "()"

/-- The declaration that a constructor's name leads to. A name that is bound in any other way
leads to none. Of several declarations the first is taken. -/
def declaration (u : SourceUnit) (info : Info) (id : String) (untraced : String) :
    Except String Node :=
  match (u.symbolFor? info.id id).bind u.scopes.symbol? with
  | none => .error (place u info id ++ " is not declared in " ++ u.path)
  | some symbol =>
    let others := symbol.bindings.filter fun b => !b.form.isDeclaration
    if others.any fun b => b.form.target?.isSome then
      .error (place u info id ++
        " is imported; constructors declared in other modules are not traced")
    else if !others.isEmpty then
      .error (place u info id ++ " is rebound and cannot be traced")
    else
      match symbol.bindings with
      | [] => .error untraced
      | b :: _ => .ok b.owner

/-- The declaration that builds what is registered, or the warning if it cannot be traced. -/
def trace (u : SourceUnit) (r : Registration) : Except String Node :=
  let untraced := u.location r.call.line ++
    ": found a registration call but could not trace its constructor function"
  match name? u r.argument with
  | none => .error untraced
  | some (info, id) => declaration u info id untraced

/-- The name of a declaration. -/
def declaredName : Node → String
  | .functionDef _ _ name .. => name
  | .classDef _ name .. => name
  | _ => ""

/-- The statements of a declaration. -/
def declaredBody : Node → List Node
  | .functionDef _ _ _ _ body _ _ => body
  | .classDef _ _ _ _ body _ => body
  | _ => []

end Catalog.Constructor
