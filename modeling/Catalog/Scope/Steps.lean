import Catalog.ModuleName
import Catalog.Scope.Basic
import Catalog.Syntax.Traversal

/-!
# Steps

Reading a module for its names is a list of steps: a scope opens or closes, a name is bound or
declared, a node is found. The steps follow from the syntax alone, in the order in which the
language takes its parts: the value of an assignment before its targets, decorators and defaults
before the function they belong to, the first iterable of a comprehension before its scope opens.
-/

namespace Catalog

open Syntax

/-- One step in reading a module for its names. -/
inductive Step where
  /-- A node stands in the current scope. -/
  | place (node : Nat)
  /-- A name is bound. A binding that is fixed belongs to the current scope, any other to the
  scope that the declarations choose. -/
  | bind (fixed : Bool) (name : String) (binding : Binding)
  /-- A scope opens. -/
  | enter (kind : ScopeKind) (info : Info) (name : String) (body : List Node)
  | leave
  | declareGlobal (names : List String)
  | declareNonlocal (names : List String)
  /-- Everything is imported from a module. -/
  | star (module : String)
  deriving Repr

namespace Syntax.Node

/-! ## Declarations -/

/-- The parts of a node that belong to the same function or class body as the node. -/
def ownParts : Node → List Node
  | functionDef .. => []
  | classDef .. => []
  | lambda .. => []
  | n => n.children

theorem totalSize_ownParts (n : Node) : totalSize n.ownParts < n.size := by
  rw [size_eq_totalSize]
  cases n <;> simp only [ownParts, totalSize_nil] <;> omega

/-- The declarations in statements, without those in functions and classes inside of them. -/
def declarations : List Node → List Step
  | [] => []
  | n :: rest =>
    let more := declarations (n.ownParts ++ rest)
    match n with
    | globalNames _ names => .declareGlobal names :: more
    | nonlocalNames _ names => .declareNonlocal names :: more
    | _ => more
termination_by stack => totalSize stack
decreasing_by
  have := totalSize_ownParts n
  simp; omega

/-! ## Targets, parameters and imports -/

/-- The names in the target of a comprehension: those that are stored are bound in the
comprehension, and all of them stand in it. -/
def clauseTargetSteps (owner target : Node) : List Step :=
  (preorder [target]).flatMap fun n =>
    match n with
    | name info id .store => [.place info.id, .bind true id { form := .other, owner }]
    | n => [.place n.id]

/-- A parameter. -/
def parameterStep : Node → List Step
  | arg info label hint =>
    [.place info.id, .bind true label { form := .parameter, owner := arg info label hint }]
  | _ => []

/-- The parameters, those with a star last. -/
def parameterSteps : Node → List Step
  | arguments _ posonly args vararg kwonly _ kwarg _ =>
    (posonly ++ args ++ kwonly ++ vararg.toList ++ kwarg.toList).flatMap parameterStep
  | _ => []

/-- A module that is imported under a name of its own, or under its first segment. -/
def importStep (owner : Node) : Node → List Step
  | importAlias _ label (some asName) =>
    [.bind false asName { form := .imported label, owner }]
  | importAlias _ label none =>
    [.bind false (Dotted.head label) { form := .imported (Dotted.head label), owner }]
  | _ => []

/-- A name that is imported from a module; there is no module if a relative import leads out of
the package. -/
def importFromStep (owner : Node) (module : Option String) : Node → List Step
  | importAlias _ label asName =>
    if label == "*" then (module.map Step.star).toList
    else
      let form := match module with
        | some m => .imported (m ++ "." ++ label)
        | none => .other
      [.bind false (asName.getD label) { form, owner }]
  | _ => []

/-- The binding of a name that may be missing. -/
def captureStep (owner : Node) : Option String → List Step
  | some label => [.bind false label { form := .other, owner }]
  | none => []

/-! ## All nodes -/

variable (package : String)

mutual

/-- The steps of a node in a module of the given package. If the node is a plain name that is
assigned to, `how` tells how it is bound. -/
def steps (how : Option Binding) : Node → List Step
  | name info _ .load => [.place info.id]
  | name info id context =>
    [.place info.id,
     .bind false id (how.getD { form := .other, owner := name info id context })]
  | attr info value _ => .place info.id :: steps none value
  | constant info _ => [.place info.id]
  | call info func args keywords =>
    .place info.id :: steps none func ++ stepsList none args ++ stepsList none keywords
  | keyword info _ value => .place info.id :: steps none value
  | binOp info _ left right => .place info.id :: steps none left ++ steps none right
  | lambda info args body =>
    .place info.id :: defaultSteps args ++ hintSteps args ++
      .enter .function info "<lambda>" [body] :: parameterSteps args ++ steps none body ++ [.leave]
  | comprehension info _ elements generators =>
    .place info.id :: firstIterSteps generators ++
      .enter .comprehension info "<comprehension>" [] :: clauseSteps true generators ++
      stepsList none elements ++ [.leave]
  | generator .. => []
  | functionDef info async label args body decorators returns =>
    .place info.id :: stepsList none decorators ++ defaultSteps args ++ hintSteps args ++
      stepsOption returns ++
      .bind false label
        { form := .function, owner := functionDef info async label args body decorators returns } ::
      .enter .function info label body :: parameterSteps args ++ declarations body ++
      stepsList none body ++ [.leave]
  | classDef info label bases keywords body decorators =>
    .place info.id :: stepsList none decorators ++ stepsList none bases ++ keywordSteps keywords ++
      .bind false label
        { form := .classDef, owner := classDef info label bases keywords body decorators } ::
      .enter .classBody info label body :: declarations body ++ stepsList none body ++ [.leave]
  | arguments .. => []
  | arg .. => []
  | assign info targets value =>
    .place info.id :: steps none value ++
      stepsList (some { form := .assigned value, owner := assign info targets value }) targets
  | annAssign info target hint none => .place info.id :: steps none hint ++ [.place target.id]
  | annAssign info target hint (some value) =>
    .place info.id :: steps none hint ++ steps none value ++
      steps (some { form := .assigned value, owner := annAssign info target hint (some value) })
        target
  | importModules info names =>
    .place info.id :: names.flatMap (importStep (importModules info names))
  | importFrom info module level names =>
    .place info.id :: names.flatMap
      (importFromStep (importFrom info module level names)
        (ModuleName.absolute? module level package))
  | importAlias .. => []
  | globalNames info names => [.place info.id, .declareGlobal names]
  | nonlocalNames info names => [.place info.id, .declareNonlocal names]
  | exceptHandler info type label body =>
    .place info.id :: stepsOption type ++
      captureStep (exceptHandler info type label body) label ++ stepsList none body
  | matchAs info pattern label =>
    .place info.id :: stepsOption pattern ++ captureStep (matchAs info pattern label) label
  | matchStar info label => .place info.id :: captureStep (matchStar info label) label
  | matchMapping info keys patterns rest =>
    .place info.id :: stepsList none keys ++ stepsList none patterns ++
      captureStep (matchMapping info keys patterns rest) rest
  | plain info _ parts => .place info.id :: stepsList none parts

/-- The steps of nodes one after another. -/
def stepsList (how : Option Binding) : List Node → List Step
  | [] => []
  | n :: rest => steps how n ++ stepsList how rest

/-- The steps of a node that may be missing. -/
def stepsOption : Option Node → List Step
  | none => []
  | some n => steps none n

/-- The steps of the values of keywords. -/
def keywordSteps : List Node → List Step
  | [] => []
  | n :: rest => keywordStep n ++ keywordSteps rest

/-- The steps of the value of a keyword. -/
def keywordStep : Node → List Step
  | keyword _ _ value => steps none value
  | _ => []

/-- The steps of the defaults of parameters. -/
def defaultSteps : Node → List Step
  | arguments _ _ _ _ _ kwDefaults _ defaults =>
    stepsList none defaults ++ stepsList none kwDefaults
  | _ => []

/-- The steps of the hints of parameters. -/
def hintSteps : Node → List Step
  | arguments _ posonly args vararg kwonly _ kwarg _ =>
    hintList posonly ++ hintList args ++ hintList kwonly ++ hintOption vararg ++ hintOption kwarg
  | _ => []

def hintList : List Node → List Step
  | [] => []
  | n :: rest => hintStep n ++ hintList rest

def hintOption : Option Node → List Step
  | none => []
  | some n => hintStep n

/-- The steps of the hint of a parameter. -/
def hintStep : Node → List Step
  | arg _ _ hint => stepsOption hint
  | _ => []

/-- The steps of the iterable of the first clause. -/
def firstIterSteps : List Node → List Step
  | [] => []
  | n :: _ => iterStep n

/-- The steps of the iterable of a clause. -/
def iterStep : Node → List Step
  | generator _ _ iter _ => steps none iter
  | _ => []

/-- The steps of a clause; the first one's iterable was read outside. -/
def clauseStep (first : Bool) : Node → List Step
  | generator info target iter ifs =>
    (if first then [] else steps none iter) ++
      clauseTargetSteps (generator info target iter ifs) target ++ stepsList none ifs
  | _ => []

/-- The steps of the clauses of a comprehension. -/
def clauseSteps (first : Bool) : List Node → List Step
  | [] => []
  | n :: rest => clauseStep first n ++ clauseSteps false rest

end

end Syntax.Node

end Catalog
