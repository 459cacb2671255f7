import Catalog.Proofs.Syntax.Nodes
import Catalog.Proofs.Text.Dotted

/-!
# Trees of the language

Trees are untyped: any node may be a part of any other. `Shaped` says which of them are trees of
the language, by the category of a node: where an expression stands there is no statement, the
clauses of a comprehension stand in comprehensions only, and a name is stored or deleted only
where it is a target. What is bound or imported has a name of components.
Numbering the nodes keeps their shape.
-/

namespace Catalog.Syntax

open ModuleName (IsComponent IsImportable)

/-- What a node can be a part of. -/
inductive Category where
  | expression
  /-- Something that is stored or deleted. -/
  | target (context : Context)
  | keyword
  | generator
  | arguments
  | parameter
  /-- A module that is imported. -/
  | imported
  /-- What is imported from a module. -/
  | member
  /-- A statement, a pattern, or any other part of a statement. -/
  | part
  deriving DecidableEq

/-- Names may be deleted in a node of the category. -/
def Category.deletes : Category → Bool
  | target .del => true
  | part => true
  | _ => false

/-- The trees of each category. -/
inductive Shaped : Category → Node → Prop
  -- expressions
  | load (info : Info) {id : String} (named : IsComponent id) :
      Shaped .expression (.name info id .load)
  | attr {info : Info} {value : Node} {label : String} (inner : Shaped .expression value) :
      Shaped .expression (.attr info value label)
  | constant (info : Info) (text : Option String) : Shaped .expression (.constant info text)
  | call {info : Info} {func : Node} {args keywords : List Node}
      (callee : Shaped .expression func) (values : ∀ n ∈ args, Shaped .expression n)
      (named : ∀ n ∈ keywords, Shaped .keyword n) :
      Shaped .expression (.call info func args keywords)
  | binOp {info : Info} {isAdd : Bool} {left right : Node} (first : Shaped .expression left)
      (second : Shaped .expression right) : Shaped .expression (.binOp info isAdd left right)
  | lambda {info : Info} {args body : Node} (parameters : Shaped .arguments args)
      (result : Shaped .expression body) : Shaped .expression (.lambda info args body)
  | comprehension {info : Info} {kind : ComprehensionKind} {elements generators : List Node}
      (values : ∀ n ∈ elements, Shaped .expression n)
      (clauses : ∀ n ∈ generators, Shaped .generator n) :
      Shaped .expression (.comprehension info kind elements generators)
  | named {info inner : Info} {id : String} {value : Node} (assigned : Shaped .expression value)
      (named : IsComponent id) :
      Shaped .expression (.plain info .namedExpr [.name inner id .store, value])
  | compound {info : Info} {kind : Kind} {parts : List Node}
      (inner : ∀ n ∈ parts, Shaped .expression n) : Shaped .expression (.plain info kind parts)
  -- parts of expressions
  | keyword {info : Info} {label : Option String} {value : Node}
      (inner : Shaped .expression value) : Shaped .keyword (.keyword info label value)
  | generator {info : Info} {target iter : Node} {ifs : List Node}
      (bound : Shaped (.target .store) target) (iterable : Shaped .expression iter)
      (conditions : ∀ n ∈ ifs, Shaped .expression n) :
      Shaped .generator (.generator info target iter ifs)
  | arguments {info : Info} {posonly args kwonly kwDefaults defaults : List Node}
      {vararg kwarg : Option Node}
      (parameters : ∀ n ∈ posonly ++ args ++ kwonly ++ vararg.toList ++ kwarg.toList,
        Shaped .parameter n)
      (values : ∀ n ∈ defaults ++ kwDefaults, Shaped .expression n) :
      Shaped .arguments (.arguments info posonly args vararg kwonly kwDefaults kwarg defaults)
  | parameter {info : Info} {label : String} {hint : Option Node}
      (inner : ∀ n ∈ hint.toList, Shaped .expression n) (named : IsComponent label) :
      Shaped .parameter (.arg info label hint)
  | imported (info : Info) {label : String} {asName : Option String}
      (importable : IsImportable label) (named : ∀ name ∈ asName, IsComponent name) :
      Shaped .imported (.importAlias info label asName)
  | member (info : Info) {label : String} {asName : Option String}
      (own : IsComponent label) (named : ∀ name ∈ asName, IsComponent name) :
      Shaped .member (.importAlias info label asName)
  -- targets
  | bound (info : Info) {id : String} (context : Context) (named : IsComponent id) :
      Shaped (.target context) (.name info id context)
  | boundAttr {context : Context} {info : Info} {value : Node} {label : String}
      (inner : Shaped .expression value) : Shaped (.target context) (.attr info value label)
  | subscript {context : Context} {info : Info} {parts : List Node}
      (inner : ∀ n ∈ parts, Shaped .expression n) :
      Shaped (.target context) (.plain info .subscript parts)
  | group {context : Context} {info : Info} {kind : Kind} {parts : List Node}
      (inner : ∀ n ∈ parts, Shaped (.target context) n) :
      Shaped (.target context) (.plain info kind parts)
  -- statements and patterns
  | ofExpression {n : Node} (shaped : Shaped .expression n) : Shaped .part n
  | ofTarget {context : Context} {n : Node} (changes : context ≠ .load)
      (shaped : Shaped (.target context) n) : Shaped .part n
  | functionDef {info : Info} {async : Bool} {label : String} {args : Node}
      {body decorators : List Node} {returns : Option Node} (parameters : Shaped .arguments args)
      (statements : ∀ n ∈ body, Shaped .part n)
      (before : ∀ n ∈ decorators, Shaped .expression n)
      (result : ∀ n ∈ returns.toList, Shaped .expression n) (named : IsComponent label) :
      Shaped .part (.functionDef info async label args body decorators returns)
  | classDef {info : Info} {label : String} {bases keywords body decorators : List Node}
      (values : ∀ n ∈ bases, Shaped .expression n)
      (named : ∀ n ∈ keywords, Shaped .keyword n)
      (statements : ∀ n ∈ body, Shaped .part n)
      (before : ∀ n ∈ decorators, Shaped .expression n) (own : IsComponent label) :
      Shaped .part (.classDef info label bases keywords body decorators)
  | assign {info : Info} {targets : List Node} {value : Node}
      (bound : ∀ n ∈ targets, Shaped (.target .store) n) (assigned : Shaped .expression value) :
      Shaped .part (.assign info targets value)
  | annAssign {info : Info} {target hint : Node} {value : Option Node}
      (bound : Shaped (.target .store) target) (hinted : Shaped .expression hint)
      (assigned : ∀ n ∈ value.toList, Shaped .expression n) :
      Shaped .part (.annAssign info target hint value)
  | importModules {info : Info} {names : List Node} (inner : ∀ n ∈ names, Shaped .imported n) :
      Shaped .part (.importModules info names)
  | importFrom {info : Info} {module : Option String} {level : Nat} {names : List Node}
      (inner : ∀ n ∈ names, Shaped .member n) 
      (importable : ∀ m ∈ module, IsImportable m) :
      Shaped .part (.importFrom info module level names)
  | globalNames (info : Info) (names : List String) : Shaped .part (.globalNames info names)
  | nonlocalNames (info : Info) (names : List String) : Shaped .part (.nonlocalNames info names)
  | exceptHandler {info : Info} {type : Option Node} {label : Option String} {body : List Node}
      (caught : ∀ n ∈ type.toList, Shaped .expression n)
      (statements : ∀ n ∈ body, Shaped .part n)
      (named : ∀ name ∈ label, IsComponent name) :
      Shaped .part (.exceptHandler info type label body)
  | matchAs {info : Info} {pattern : Option Node} {label : Option String}
      (inner : ∀ n ∈ pattern.toList, Shaped .part n)
      (named : ∀ name ∈ label, IsComponent name) : Shaped .part (.matchAs info pattern label)
  | matchStar (info : Info) {label : Option String}
      (named : ∀ name ∈ label, IsComponent name) : Shaped .part (.matchStar info label)
  | matchMapping {info : Info} {keys patterns : List Node} {rest : Option String}
      (values : ∀ n ∈ keys, Shaped .expression n) (inner : ∀ n ∈ patterns, Shaped .part n)
      (named : ∀ name ∈ rest, IsComponent name) :
      Shaped .part (.matchMapping info keys patterns rest)
  | block {info : Info} {kind : Kind} {parts : List Node} (inner : ∀ n ∈ parts, Shaped .part n) :
      Shaped .part (.plain info kind parts)

namespace Shaped

/-- Numbering nodes of a category gives nodes of that category. -/
theorem numberList {c : Category} {ns : List Node}
    (each : ∀ n ∈ ns, ∀ k, Shaped c ((Node.number n).run k).1) (k : Nat) :
    ∀ n ∈ ((Node.numberList ns).run k).1, Shaped c n := by
  induction ns generalizing k with
  | nil => exact fun n member => absurd member List.not_mem_nil
  | cons n rest ih =>
    obtain ⟨first, each⟩ := List.forall_mem_cons.mp each
    rw [Node.numberList_cons_run]
    exact List.forall_mem_cons.mpr ⟨first k, ih each _⟩

theorem numberOption {c : Category} {o : Option Node}
    (each : ∀ n ∈ o.toList, ∀ k, Shaped c ((Node.number n).run k).1) (k : Nat) :
    ∀ n ∈ ((Node.numberOption o).run k).1.toList, Shaped c n := by
  cases o with
  | none => exact fun n member => absurd member List.not_mem_nil
  | some n =>
    have first := each n (List.mem_singleton_self n) k
    exact fun m member => (List.mem_singleton.mp member) ▸ first

theorem number {c : Category} {n : Node} (shaped : Shaped c n) (k : Nat) :
    Shaped c ((Node.number n).run k).1 := by
  induction shaped generalizing k with
  | load info named => exact .load _ named
  | attr _ ih => exact .attr (ih _)
  | constant => exact .constant _ _
  | call _ _ _ callee values named =>
    exact .call (callee _) (numberList values _) (numberList named _)
  | binOp _ _ first second => exact .binOp (first _) (second _)
  | lambda _ _ parameters result => exact .lambda (parameters _) (result _)
  | comprehension _ _ values clauses =>
    exact .comprehension (numberList values _) (numberList clauses _)
  | named _ named ih => exact .named (ih _) named
  | compound _ inner => exact .compound (numberList inner _)
  | keyword _ ih => exact .keyword (ih _)
  | generator _ _ _ bound iterable conditions =>
    exact .generator (bound _) (iterable _) (numberList conditions _)
  | arguments _ _ parameters values =>
    simp only [List.forall_mem_append] at parameters values
    obtain ⟨⟨⟨⟨posonly, args⟩, kwonly⟩, vararg⟩, kwarg⟩ := parameters
    refine .arguments ?_ ?_
    · simp only [List.forall_mem_append]
      exact ⟨⟨⟨⟨numberList posonly _, numberList args _⟩, numberList kwonly _⟩,
        numberOption vararg _⟩, numberOption kwarg _⟩
    · exact List.forall_mem_append.mpr ⟨numberList values.1 _, numberList values.2 _⟩
  | parameter _ named inner => exact .parameter (numberOption inner _) named
  | imported _ importable named => exact .imported _ importable named
  | member _ own named => exact .member _ own named
  | bound _ _ named => exact .bound _ _ named
  | boundAttr _ ih => exact .boundAttr (ih _)
  | subscript _ inner => exact .subscript (numberList inner _)
  | group _ inner => exact .group (numberList inner _)
  | ofExpression _ ih => exact .ofExpression (ih k)
  | ofTarget changes _ ih => exact .ofTarget changes (ih k)
  | functionDef _ _ _ _ named parameters statements before result =>
    exact .functionDef (parameters _) (numberList statements _) (numberList before _)
      (numberOption result _) named
  | classDef _ _ _ _ own values named statements before =>
    exact .classDef (numberList values _) (numberList named _) (numberList statements _)
      (numberList before _) own
  | assign _ _ bound assigned => exact .assign (numberList bound _) (assigned _)
  | annAssign _ _ _ bound hinted assigned =>
    exact .annAssign (bound _) (hinted _) (numberOption assigned _)
  | importModules _ inner => exact .importModules (numberList inner _)
  | importFrom _ importable inner => exact .importFrom (numberList inner _) importable
  | globalNames => exact .globalNames _ _
  | nonlocalNames => exact .nonlocalNames _ _
  | exceptHandler _ _ named caught statements =>
    exact .exceptHandler (numberOption caught _) (numberList statements _) named
  | matchAs _ named inner => exact .matchAs (numberOption inner _) named
  | matchStar _ named => exact .matchStar _ named
  | matchMapping _ _ named values inner =>
    exact .matchMapping (numberList values _) (numberList inner _) named
  | block _ inner => exact .block (numberList inner _)

/-! ## Parts -/

/-- The parts of a tree of the language are trees of the language. -/
theorem exists_of_child {c : Category} {n : Node} (shaped : Shaped c n) :
    ∀ k ∈ n.children, ∃ c', Shaped c' k := by
  induction shaped with
  | load | constant | imported | member | bound | globalNames | nonlocalNames | matchStar =>
    simp [Node.children]
  | attr inner _ | keyword inner _ | boundAttr inner _ =>
    exact List.forall_mem_singleton.mpr ⟨_, inner⟩
  | call callee values named =>
    simp only [Node.children, List.cons_append, List.forall_mem_cons, List.forall_mem_append]
    exact ⟨⟨_, callee⟩, fun k member => ⟨_, values k member⟩, fun k member => ⟨_, named k member⟩⟩
  | binOp first second | lambda first second =>
    simp only [Node.children, List.forall_mem_cons]
    exact ⟨⟨_, first⟩, ⟨_, second⟩, by simp⟩
  | comprehension values clauses | matchMapping values clauses =>
    simp only [Node.children, List.forall_mem_append]
    exact ⟨fun k member => ⟨_, values k member⟩, fun k member => ⟨_, clauses k member⟩⟩
  | @named info inner id value assigned named _ =>
    simp only [Node.children, List.forall_mem_cons]
    exact ⟨⟨_, .bound inner .store named⟩, ⟨_, assigned⟩, by simp⟩
  | compound inner | parameter inner | subscript inner | group inner | importModules inner
  | importFrom inner | matchAs inner | block inner =>
    exact fun k member => ⟨_, inner k member⟩
  | generator bound iterable conditions =>
    simp only [Node.children, List.forall_mem_cons]
    exact ⟨⟨_, bound⟩, ⟨_, iterable⟩, fun k member => ⟨_, conditions k member⟩⟩
  | arguments parameters values =>
    simp only [List.forall_mem_append] at parameters values
    obtain ⟨⟨⟨⟨posonly, args⟩, kwonly⟩, vararg⟩, kwarg⟩ := parameters
    simp only [Node.children, List.forall_mem_append]
    exact ⟨⟨⟨⟨⟨⟨fun k member => ⟨_, posonly k member⟩, fun k member => ⟨_, args k member⟩⟩,
      fun k member => ⟨_, vararg k member⟩⟩, fun k member => ⟨_, kwonly k member⟩⟩,
      fun k member => ⟨_, values.2 k member⟩⟩, fun k member => ⟨_, kwarg k member⟩⟩,
      fun k member => ⟨_, values.1 k member⟩⟩
  | ofExpression _ ih | ofTarget _ _ ih => exact ih
  | functionDef parameters statements before result =>
    simp only [Node.children, List.cons_append, List.forall_mem_cons, List.forall_mem_append]
    exact ⟨⟨_, parameters⟩, ⟨fun k member => ⟨_, statements k member⟩,
      fun k member => ⟨_, before k member⟩⟩, fun k member => ⟨_, result k member⟩⟩
  | classDef values named statements before =>
    simp only [Node.children, List.forall_mem_append]
    exact ⟨⟨⟨fun k member => ⟨_, values k member⟩, fun k member => ⟨_, named k member⟩⟩,
      fun k member => ⟨_, statements k member⟩⟩, fun k member => ⟨_, before k member⟩⟩
  | assign bound assigned =>
    simp only [Node.children, List.forall_mem_append]
    exact ⟨fun k member => ⟨_, bound k member⟩, List.forall_mem_singleton.mpr ⟨_, assigned⟩⟩
  | annAssign bound hinted assigned =>
    simp only [Node.children, List.forall_mem_cons]
    exact ⟨⟨_, bound⟩, ⟨_, hinted⟩, fun k member => ⟨_, assigned k member⟩⟩
  | exceptHandler caught statements =>
    simp only [Node.children, List.forall_mem_append]
    exact ⟨fun k member => ⟨_, caught k member⟩, fun k member => ⟨_, statements k member⟩⟩

/-- All nodes of trees of the language are trees of the language. -/
theorem exists_of_mem {ns : List Node} (each : ∀ n ∈ ns, ∃ c, Shaped c n) :
    ∀ k ∈ Node.preorder ns, ∃ c, Shaped c k := by
  match ns with
  | [] => simp [Node.preorder]
  | n :: rest =>
    obtain ⟨⟨c, first⟩, others⟩ := List.forall_mem_cons.mp each
    rw [Node.preorder_cons]
    refine List.forall_mem_cons.mpr ⟨⟨c, first⟩, exists_of_mem ?_⟩
    exact List.forall_mem_append.mpr ⟨first.exists_of_child, others⟩
termination_by Node.totalSize ns
decreasing_by simp [Node.size_eq_totalSize]

theorem isImportable_of_importFrom {c : Category} {info : Info} {module : Option String}
    {level : Nat} {names : List Node} (shaped : Shaped c (.importFrom info module level names)) :
    ∀ m ∈ module, IsImportable m := by
  cases shaped with
  | importFrom _ importable => exact importable
  | ofExpression shaped | ofTarget _ shaped => cases shaped

theorem isComponent_of_importFrom {c : Category} {info inner : Info} {module asName : Option String}
    {level : Nat} {names : List Node} {label : String}
    (shaped : Shaped c (.importFrom info module level names))
    (one : .importAlias inner label asName ∈ names) : IsComponent label := by
  cases shaped with
  | importFrom each _ =>
    cases each _ one with
    | member _ own _ => exact own
  | ofExpression shaped | ofTarget _ shaped => cases shaped

theorem isImportable_of_importModules {c : Category} {info inner : Info} {names : List Node}
    {label : String} {asName : Option String} (shaped : Shaped c (.importModules info names))
    (one : .importAlias inner label asName ∈ names) : IsImportable label := by
  cases shaped with
  | importModules each =>
    cases each _ one with
    | imported _ importable _ => exact importable
  | ofExpression shaped | ofTarget _ shaped => cases shaped

/-! ## Deleted names -/

theorem not_mem_preorder {deleted n : Node} (own : deleted ≠ n)
    (parts : ∀ k ∈ n.children, deleted ∉ Node.preorder [k]) : deleted ∉ Node.preorder [n] := by
  rw [Node.preorder_singleton, List.mem_cons, Node.mem_preorder_iff]
  rintro (same | ⟨k, member, inside⟩)
  · exact own same
  · exact parts k member inside

/-- Names are deleted by statements only. -/
theorem deleted_not_mem {c : Category} {n : Node} (shaped : Shaped c n)
    (keeps : c.deletes = false) (info : Info) (id : String) :
    .name info id .del ∉ Node.preorder [n] := by
  induction shaped with
  | load | constant | imported | member =>
    exact not_mem_preorder (by simp) (by simp [Node.children])
  | attr _ ih | boundAttr _ ih | keyword _ ih =>
    exact not_mem_preorder (by simp) (by simpa [Node.children] using ih rfl)
  | call _ _ _ callee values named =>
    refine not_mem_preorder (by simp) ?_
    simp only [Node.children, List.cons_append, List.forall_mem_cons, List.forall_mem_append]
    exact ⟨callee rfl, fun n member => values n member rfl,
      fun n member => named n member rfl⟩
  | binOp _ _ first second | lambda _ _ first second =>
    refine not_mem_preorder (by simp) ?_
    simp only [Node.children, List.forall_mem_cons]
    exact ⟨first rfl, second rfl, by simp⟩
  | comprehension _ _ values clauses =>
    refine not_mem_preorder (by simp) ?_
    simp only [Node.children, List.forall_mem_append]
    exact ⟨fun n member => values n member rfl,
      fun n member => clauses n member rfl⟩
  | named _ _ ih =>
    refine not_mem_preorder (by simp) ?_
    simp only [Node.children, List.forall_mem_cons]
    exact ⟨not_mem_preorder (by simp) (by simp [Node.children]), ih rfl, by simp⟩
  | compound _ ih | subscript _ ih =>
    exact not_mem_preorder (by simp) fun n member => ih n member rfl
  | generator _ _ _ bound iterable conditions =>
    refine not_mem_preorder (by simp) ?_
    simp only [Node.children, List.forall_mem_cons]
    exact ⟨bound rfl, iterable rfl,
      fun n member => conditions n member rfl⟩
  | arguments _ _ parameters values =>
    refine not_mem_preorder (by simp) ?_
    simp only [List.forall_mem_append] at parameters values
    simp only [Node.children, List.forall_mem_append]
    obtain ⟨⟨⟨⟨posonly, args⟩, kwonly⟩, vararg⟩, kwarg⟩ := parameters
    exact ⟨⟨⟨⟨⟨⟨fun n member => posonly n member rfl,
      fun n member => args n member rfl⟩,
      fun n member => vararg n member rfl⟩,
      fun n member => kwonly n member rfl⟩,
      fun n member => values.2 n member rfl⟩,
      fun n member => kwarg n member rfl⟩,
      fun n member => values.1 n member rfl⟩
  | parameter _ _ ih =>
    exact not_mem_preorder (by simp) fun n member => ih n member rfl
  | bound info' context =>
    refine not_mem_preorder (fun same => ?_) (by simp [Node.children])
    cases same
    cases keeps
  | group _ ih => exact not_mem_preorder (by simp) fun n member => ih n member keeps
  | _ => cases keeps

end Shaped

end Catalog.Syntax
