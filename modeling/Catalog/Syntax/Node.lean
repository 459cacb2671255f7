/-!
# Syntax trees

The tree of a Python module. Forms that bind names, refer to them or stand in the way of an
analysis have constructors of their own; all others are `plain`, a kind and the parts in their
order. Every node has a number that no other node of its module has, and the line on which it
begins; lines count from one, and nodes that are only groups of parts have line zero.
-/

namespace Catalog.Syntax

/-- What identifies a node, and where it stands. -/
structure Info where
  id : Nat := 0
  line : Nat
  deriving DecidableEq, Repr, Inhabited

/-- What happens to a name where it stands. -/
inductive Context where
  | load
  | store
  | del
  deriving DecidableEq, Repr

/-- The comprehensions. -/
inductive ComprehensionKind where
  | list
  | set
  | dict
  | generator
  deriving DecidableEq, Repr

/-- Forms that need no constructor of their own. -/
inductive Kind where
  | starred | tuple | list | set | dict | subscript | slice | unaryOp | boolOp | compare | ifExp
  | awaitExpr | yieldExpr | yieldFrom | namedExpr | joinedStr | formattedValue
  | exprStmt | augAssign | returnStmt | deleteStmt | passStmt | breakStmt | continueStmt
  | raiseStmt | assertStmt | ifStmt | whileStmt | forStmt | asyncForStmt | withStmt
  | asyncWithStmt | withItem | tryStmt | tryStarStmt | matchStmt | matchCase | matchValue
  | matchSingleton | matchSequence | matchClass | matchOr
  deriving DecidableEq, Repr

/-- A node of a syntax tree. -/
inductive Node where
  | name (info : Info) (id : String) (context : Context)
  | attr (info : Info) (value : Node) (name : String)
  /-- A literal, with its text if it is a string. -/
  | constant (info : Info) (text : Option String)
  | call (info : Info) (func : Node) (args keywords : List Node)
  /-- An argument with its name, or without one after two stars. -/
  | keyword (info : Info) (arg : Option String) (value : Node)
  | binOp (info : Info) (isAdd : Bool) (left right : Node)
  | lambda (info : Info) (args body : Node)
  | comprehension (info : Info) (kind : ComprehensionKind) (elements generators : List Node)
  | generator (info : Info) (target iter : Node) (ifs : List Node)
  | functionDef (info : Info) (async : Bool) (name : String) (args : Node)
      (body decorators : List Node) (returns : Option Node)
  | classDef (info : Info) (name : String) (bases keywords body decorators : List Node)
  | arguments (info : Info) (posonly args : List Node) (vararg : Option Node) (kwonly : List Node)
      (kwDefaults : List Node) (kwarg : Option Node) (defaults : List Node)
  | arg (info : Info) (name : String) (hint : Option Node)
  | assign (info : Info) (targets : List Node) (value : Node)
  | annAssign (info : Info) (target hint : Node) (value : Option Node)
  | importModules (info : Info) (names : List Node)
  | importFrom (info : Info) (module : Option String) (level : Nat) (names : List Node)
  | importAlias (info : Info) (name : String) (asName : Option String)
  | globalNames (info : Info) (names : List String)
  | nonlocalNames (info : Info) (names : List String)
  | exceptHandler (info : Info) (type : Option Node) (name : Option String) (body : List Node)
  | matchAs (info : Info) (pattern : Option Node) (name : Option String)
  | matchStar (info : Info) (name : Option String)
  | matchMapping (info : Info) (keys patterns : List Node) (rest : Option String)
  | plain (info : Info) (kind : Kind) (parts : List Node)
  deriving Repr

instance : Inhabited Node := ⟨.plain { line := 0 } .passStmt []⟩

/-- A module: its statements. -/
structure Module where
  body : List Node
  deriving Repr, Inhabited

/-- The name of a kind. -/
def Kind.text : Kind → String
  | starred => "Starred"
  | tuple => "Tuple"
  | list => "List"
  | set => "Set"
  | dict => "Dict"
  | subscript => "Subscript"
  | slice => "Slice"
  | unaryOp => "UnaryOp"
  | boolOp => "BoolOp"
  | compare => "Compare"
  | ifExp => "IfExp"
  | awaitExpr => "Await"
  | yieldExpr => "Yield"
  | yieldFrom => "YieldFrom"
  | namedExpr => "NamedExpr"
  | joinedStr => "JoinedStr"
  | formattedValue => "FormattedValue"
  | exprStmt => "Expr"
  | augAssign => "AugAssign"
  | returnStmt => "Return"
  | deleteStmt => "Delete"
  | passStmt => "Pass"
  | breakStmt => "Break"
  | continueStmt => "Continue"
  | raiseStmt => "Raise"
  | assertStmt => "Assert"
  | ifStmt => "If"
  | whileStmt => "While"
  | forStmt => "For"
  | asyncForStmt => "AsyncFor"
  | withStmt => "With"
  | asyncWithStmt => "AsyncWith"
  | withItem => "withitem"
  | tryStmt => "Try"
  | tryStarStmt => "TryStar"
  | matchStmt => "Match"
  | matchCase => "match_case"
  | matchValue => "MatchValue"
  | matchSingleton => "MatchSingleton"
  | matchSequence => "MatchSequence"
  | matchClass => "MatchClass"
  | matchOr => "MatchOr"

/-- The name of a comprehension. -/
def ComprehensionKind.text : ComprehensionKind → String
  | list => "ListComp"
  | set => "SetComp"
  | dict => "DictComp"
  | generator => "GeneratorExp"

namespace Node

/-- The number and the line of a node. -/
def info : Node → Info
  | name info .. | attr info .. | constant info .. | call info .. | keyword info ..
  | binOp info .. | lambda info .. | comprehension info .. | generator info ..
  | functionDef info .. | classDef info .. | arguments info .. | arg info .. | assign info ..
  | annAssign info .. | importModules info .. | importFrom info .. | importAlias info ..
  | globalNames info .. | nonlocalNames info .. | exceptHandler info .. | matchAs info ..
  | matchStar info .. | matchMapping info .. | plain info .. => info

/-- The number of a node. -/
def id (n : Node) : Nat := n.info.id

/-- The line of a node. -/
def line (n : Node) : Nat := n.info.line

/-- The name of the form of a node. -/
def form : Node → String
  | name .. => "Name"
  | attr .. => "Attribute"
  | constant .. => "Constant"
  | call .. => "Call"
  | keyword .. => "keyword"
  | binOp .. => "BinOp"
  | lambda .. => "Lambda"
  | comprehension _ kind .. => kind.text
  | generator .. => "comprehension"
  | functionDef _ async .. => if async then "AsyncFunctionDef" else "FunctionDef"
  | classDef .. => "ClassDef"
  | arguments .. => "arguments"
  | arg .. => "arg"
  | assign .. => "Assign"
  | annAssign .. => "AnnAssign"
  | importModules .. => "Import"
  | importFrom .. => "ImportFrom"
  | importAlias .. => "alias"
  | globalNames .. => "Global"
  | nonlocalNames .. => "Nonlocal"
  | exceptHandler .. => "ExceptHandler"
  | matchAs .. => "MatchAs"
  | matchStar .. => "MatchStar"
  | matchMapping .. => "MatchMapping"
  | plain _ kind _ => kind.text

/-- The parts of a node, in their order. -/
def children : Node → List Node
  | name .. => []
  | attr _ value _ => [value]
  | constant .. => []
  | call _ func args keywords => func :: args ++ keywords
  | keyword _ _ value => [value]
  | binOp _ _ left right => [left, right]
  | lambda _ args body => [args, body]
  | comprehension _ _ elements generators => elements ++ generators
  | generator _ target iter ifs => target :: iter :: ifs
  | functionDef _ _ _ args body decorators returns =>
    args :: body ++ decorators ++ returns.toList
  | classDef _ _ bases keywords body decorators => bases ++ keywords ++ body ++ decorators
  | arguments _ posonly args vararg kwonly kwDefaults kwarg defaults =>
    posonly ++ args ++ vararg.toList ++ kwonly ++ kwDefaults ++ kwarg.toList ++ defaults
  | arg _ _ hint => hint.toList
  | assign _ targets value => targets ++ [value]
  | annAssign _ target hint value => target :: hint :: value.toList
  | importModules _ names => names
  | importFrom _ _ _ names => names
  | importAlias .. => []
  | globalNames .. => []
  | nonlocalNames .. => []
  | exceptHandler _ type _ body => type.toList ++ body
  | matchAs _ pattern _ => pattern.toList
  | matchStar .. => []
  | matchMapping _ keys patterns _ => keys ++ patterns
  | plain _ _ parts => parts

theorem sizeOf_lt_of_mem_toList {o : Option Node} {c : Node} (h : c ∈ o.toList) :
    sizeOf c < sizeOf o := by
  cases o with
  | none => simp at h
  | some d =>
    obtain rfl : c = d := by simpa using h
    simp

/-- A part is smaller than the whole. -/
theorem sizeOf_lt_of_mem_children {n c : Node} (h : c ∈ n.children) : sizeOf c < sizeOf n := by
  have inList {l : List Node} (m : c ∈ l) : sizeOf c < sizeOf l := List.sizeOf_lt_of_mem m
  have inOption {o : Option Node} (m : c ∈ o.toList) : sizeOf c < sizeOf o :=
    sizeOf_lt_of_mem_toList m
  cases n with
  | name | constant | importAlias | globalNames | nonlocalNames | matchStar => simp [children] at h
  | attr _ value _ | keyword _ _ value =>
    obtain rfl : c = value := by simpa [children] using h
    simp only [attr.sizeOf_spec, keyword.sizeOf_spec]; omega
  | binOp _ _ l r | lambda _ l r =>
    have h : c = l ∨ c = r := by simpa [children] using h
    rcases h with rfl | rfl <;> simp only [binOp.sizeOf_spec, lambda.sizeOf_spec] <;> omega
  | importModules _ l | importFrom _ _ _ l | plain _ _ l =>
    have := inList h
    simp only [children, importModules.sizeOf_spec, importFrom.sizeOf_spec,
      plain.sizeOf_spec] at *
    omega
  | arg _ _ o | matchAs _ o _ =>
    have := inOption h
    simp only [children, arg.sizeOf_spec, matchAs.sizeOf_spec] at *
    omega
  | comprehension _ _ l r | matchMapping _ l r _ =>
    have h : c ∈ l ∨ c ∈ r := by simpa [children] using h
    rcases h with h | h <;> have := inList h <;>
      simp only [comprehension.sizeOf_spec, matchMapping.sizeOf_spec] <;> omega
  | call _ func args keywords =>
    have h : c = func ∨ c ∈ args ∨ c ∈ keywords := by simpa [children] using h
    rcases h with rfl | h | h
    · simp only [call.sizeOf_spec]; omega
    · have := inList h; simp only [call.sizeOf_spec]; omega
    · have := inList h; simp only [call.sizeOf_spec]; omega
  | generator _ target iter ifs =>
    have h : c = target ∨ c = iter ∨ c ∈ ifs := by simpa [children] using h
    rcases h with rfl | rfl | h
    · simp only [generator.sizeOf_spec]; omega
    · simp only [generator.sizeOf_spec]; omega
    · have := inList h; simp only [generator.sizeOf_spec]; omega
  | assign _ targets value =>
    have h : c ∈ targets ∨ c = value := by simpa [children] using h
    rcases h with h | rfl
    · have := inList h; simp only [assign.sizeOf_spec]; omega
    · simp only [assign.sizeOf_spec]; omega
  | annAssign _ target hint value =>
    simp only [children, List.mem_cons] at h
    rcases h with rfl | rfl | h
    · simp only [annAssign.sizeOf_spec]; omega
    · simp only [annAssign.sizeOf_spec]; omega
    · have := inOption h; simp only [annAssign.sizeOf_spec]; omega
  | exceptHandler _ type _ body =>
    simp only [children, List.mem_append] at h
    rcases h with h | h
    · have := inOption h; simp only [exceptHandler.sizeOf_spec]; omega
    · have := inList h; simp only [exceptHandler.sizeOf_spec]; omega
  | functionDef _ _ _ args body decorators returns =>
    simp only [children, List.cons_append, List.mem_cons, List.mem_append] at h
    rcases h with rfl | (h | h) | h
    · simp only [functionDef.sizeOf_spec]; omega
    · have := inList h; simp only [functionDef.sizeOf_spec]; omega
    · have := inList h; simp only [functionDef.sizeOf_spec]; omega
    · have := inOption h; simp only [functionDef.sizeOf_spec]; omega
  | classDef _ _ bases keywords body decorators =>
    simp only [children, List.mem_append] at h
    rcases h with ((h | h) | h) | h <;> have := inList h <;>
      simp only [classDef.sizeOf_spec] <;> omega
  | arguments _ posonly args vararg kwonly kwDefaults kwarg defaults =>
    simp only [children, List.mem_append] at h
    rcases h with (((((h | h) | h) | h) | h) | h) | h
    · have := inList h; simp only [arguments.sizeOf_spec]; omega
    · have := inList h; simp only [arguments.sizeOf_spec]; omega
    · have := inOption h; simp only [arguments.sizeOf_spec]; omega
    · have := inList h; simp only [arguments.sizeOf_spec]; omega
    · have := inList h; simp only [arguments.sizeOf_spec]; omega
    · have := inOption h; simp only [arguments.sizeOf_spec]; omega
    · have := inList h; simp only [arguments.sizeOf_spec]; omega

end Node

end Catalog.Syntax
