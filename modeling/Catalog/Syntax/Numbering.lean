import Catalog.Syntax.Node

/-!
# Numbers of nodes

The nodes of a module are numbered in the order in which they begin: a node comes before its
parts, and earlier parts before later ones. So no two nodes have the same number.
-/

namespace Catalog.Syntax

namespace Node

/-- The next number. -/
def fresh (info : Info) : StateM Nat Info :=
  modifyGet fun next => ({ info with id := next }, next + 1)

mutual

/-- The node with its own number and those of its parts. -/
def number : Node → StateM Nat Node
  | name info id context => return name (← fresh info) id context
  | attr info value label => return attr (← fresh info) (← number value) label
  | constant info text => return constant (← fresh info) text
  | call info func args keywords =>
    return call (← fresh info) (← number func) (← numberList args) (← numberList keywords)
  | keyword info label value => return keyword (← fresh info) label (← number value)
  | binOp info isAdd left right =>
    return binOp (← fresh info) isAdd (← number left) (← number right)
  | lambda info args body => return lambda (← fresh info) (← number args) (← number body)
  | comprehension info kind elements generators =>
    return comprehension (← fresh info) kind (← numberList elements) (← numberList generators)
  | generator info target iter ifs =>
    return generator (← fresh info) (← number target) (← number iter) (← numberList ifs)
  | functionDef info async label args body decorators returns =>
    return functionDef (← fresh info) async label (← number args) (← numberList body)
      (← numberList decorators) (← numberOption returns)
  | classDef info label bases keywords body decorators =>
    return classDef (← fresh info) label (← numberList bases) (← numberList keywords)
      (← numberList body) (← numberList decorators)
  | arguments info posonly args vararg kwonly kwDefaults kwarg defaults =>
    return arguments (← fresh info) (← numberList posonly) (← numberList args)
      (← numberOption vararg) (← numberList kwonly) (← numberList kwDefaults)
      (← numberOption kwarg) (← numberList defaults)
  | arg info label hint => return arg (← fresh info) label (← numberOption hint)
  | assign info targets value =>
    return assign (← fresh info) (← numberList targets) (← number value)
  | annAssign info target hint value =>
    return annAssign (← fresh info) (← number target) (← number hint) (← numberOption value)
  | importModules info names => return importModules (← fresh info) (← numberList names)
  | importFrom info module level names =>
    return importFrom (← fresh info) module level (← numberList names)
  | importAlias info label asName => return importAlias (← fresh info) label asName
  | globalNames info names => return globalNames (← fresh info) names
  | nonlocalNames info names => return nonlocalNames (← fresh info) names
  | exceptHandler info type label body =>
    return exceptHandler (← fresh info) (← numberOption type) label (← numberList body)
  | matchAs info pattern label => return matchAs (← fresh info) (← numberOption pattern) label
  | matchStar info label => return matchStar (← fresh info) label
  | matchMapping info keys patterns rest =>
    return matchMapping (← fresh info) (← numberList keys) (← numberList patterns) rest
  | plain info kind parts => return plain (← fresh info) kind (← numberList parts)

/-- Numbers nodes one after another. -/
def numberList : List Node → StateM Nat (List Node)
  | [] => return []
  | n :: rest => return (← number n) :: (← numberList rest)

/-- Numbers a node that may be missing. -/
def numberOption : Option Node → StateM Nat (Option Node)
  | none => return none
  | some n => return some (← number n)

end

end Node

/-- The number of the module itself, which its nodes do not have. -/
def Module.id : Nat := 0

/-- The module with its nodes numbered from one on. -/
def Module.numbered (m : Module) : Module :=
  { body := ((Node.numberList m.body).run 1).1 }

end Catalog.Syntax
