import Catalog.Syntax.Node

/-!
# Targets

An expression on the left of an assignment, after `for`, or after `del` is a target: a name, an
attribute, a subscript, or a tuple or list of targets. Its names are stored or deleted. A star
before a target is allowed where the target may take several values.
-/

namespace Catalog.Syntax.Node

mutual

/-- The expression as a target. -/
def target? (context : Context) (star : Bool) : Node → Option Node
  | name info id _ => some (name info id context)
  | attr info value label => some (attr info value label)
  | plain info kind parts =>
    match kind with
    | .subscript => some (plain info kind parts)
    | .tuple | .list => (targets? context star parts).map (plain info kind)
    | .starred => if star then (targets? context star parts).map (plain info kind) else none
    | _ => none
  | _ => none

/-- Expressions as targets, if all of them are. -/
def targets? (context : Context) (star : Bool) : List Node → Option (List Node)
  | [] => some []
  | n :: rest =>
    match target? context star n, targets? context star rest with
    | some t, some ts => some (t :: ts)
    | _, _ => none

end

/-- The expression as a single target: a name, an attribute or a subscript. -/
def singleTarget? : Node → Option Node
  | name info id _ => some (name info id .store)
  | attr info value label => some (attr info value label)
  | plain info .subscript parts => some (plain info .subscript parts)
  | _ => none

end Catalog.Syntax.Node
