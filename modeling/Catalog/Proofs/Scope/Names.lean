import Catalog.Proofs.Scope.Exchange
import Catalog.Proofs.Scope.Occurrences
import Catalog.Proofs.Scope.Owners
import Catalog.Proofs.Scope.Parts
import Catalog.Proofs.Scope.Renaming

/-!
# Which nodes bind the names of a module

A step that binds a name or opens a scope is that of a node of the module. So a name that is bound
anywhere is written somewhere, a definition binds the name that it gives, and what a class opens
is a class body. What is assigned to a name is a node of the module as well, and what is imported
is named by one.
-/

namespace Catalog

open Syntax

namespace Syntax.Node

/-- The node is a class. -/
def isClass : Node → Bool
  | classDef .. => true
  | _ => false

/-- The node is one that makes the binding: the name is written there, and a definition is the
node itself. -/
structure Makes (k : Node) (name : String) (b : Binding) : Prop where
  written : name ∈ k.vars ∨ name ∈ k.declared
  defined : b.form.isDeclaration = true → b.owner = k ∧ name ∈ k.declared
  ofClass : b.form = .classDef → k.isClass = true

/-- The node opens a scope of the kind. -/
structure Opens (k : Node) (kind : ScopeKind) (info : Info) : Prop where
  same : k.info = info
  ofClass : k.isClass = true → kind = .classBody

theorem Makes.of_vars {k : Node} {name : String} {b : Binding} (own : name ∈ k.vars)
    (plain : b.form.isDeclaration = false) : k.Makes name b := by
  refine ⟨.inl own, fun declares => ?_, fun form => ?_⟩
  · rw [plain] at declares
    cases declares
  · rw [form] at plain
    cases plain

/-- The node, in a module of the package, imports what has the qualified name. -/
inductive Imports (package : String) : Node → String → Prop
  | module {info aliasInfo : Info} {names : List Node} {label asName : String}
      (one : importAlias aliasInfo label (some asName) ∈ names) :
      Imports package (importModules info names) label
  | package {info aliasInfo : Info} {names : List Node} {label : String}
      (one : importAlias aliasInfo label none ∈ names) :
      Imports package (importModules info names) (Dotted.head label)
  | member {info aliasInfo : Info} {names : List Node} {module : Option String} {level : Nat}
      {m label : String} {asName : Option String}
      (named : ModuleName.absolute? module level package = some m)
      (one : importAlias aliasInfo label asName ∈ names) :
      Imports package (importFrom info module level names) (m ++ "." ++ label)

/-- The node, in a module of the package, imports from the module. -/
inductive ImportsFrom (package : String) : Node → String → Prop
  | intro {info : Info} {names : List Node} {module : Option String} {level : Nat} {m : String}
      (named : ModuleName.absolute? module level package = some m) :
      ImportsFrom package (importFrom info module level names) m

end Syntax.Node

/-- What the binding refers to is one of the nodes, or is named by one. -/
def BindingForm.IsOf (package : String) (all : List Node) : BindingForm → Prop
  | assigned value => value ∈ all
  | imported target => ∃ k ∈ all, k.Imports package target
  | _ => True

/-- If the step binds a name, opens a scope or imports everything, it is that of one of the
nodes. -/
def Step.IsOf (package : String) (all : List Node) : Step → Prop
  | bind _ name b =>
    (∃ k ∈ all, k.Makes name b) ∧ b.form.IsOf package all ∧ ∃ k ∈ all, name ∈ k.boundNames
  | enter kind info _ _ => ∃ k ∈ all, k.Opens kind info
  | star m => ∃ k ∈ all, k.ImportsFrom package m
  | _ => True

namespace Syntax.Node

variable {package : String} {all : List Node} {n : Node}

/-! ## Steps that need no step of a part -/

theorem isOf_declarations (ns : List Node) : ∀ step ∈ declarations ns, step.IsOf package all := by
  intro step member
  have declares := isDeclaration_of_mem step member
  cases step with
  | bind | enter | star => cases declares
  | _ => trivial

theorem isOf_captureStep {owner : Node} {label : Option String} (inside : owner ∈ all)
    (own : owner.vars = label.toList) (binds : owner.boundNames = label.toList) :
    ∀ step ∈ captureStep owner label, step.IsOf package all := by
  intro step member
  cases label with
  | none => cases member
  | some label =>
    cases List.mem_singleton.mp member
    exact ⟨⟨owner, inside, .of_vars (by simp [own]) rfl⟩, trivial, owner, inside, by simp [binds]⟩

theorem isOf_parameterSteps (inside : preorder [n] ⊆ all) :
    ∀ step ∈ parameterSteps n, step.IsOf package all := by
  cases n with
  | arguments info posonly args vararg kwonly kwDefaults kwarg defaults =>
    intro step member
    obtain ⟨p, param, member⟩ := List.mem_flatMap.mp member
    have known : p ∈ all := subset_of_child inside (by
      simp only [children, List.mem_append] at param ⊢
      grind) (mem_preorder_self p)
    cases p with
    | arg info label hint =>
      simp only [parameterStep, List.mem_cons, List.not_mem_nil, or_false] at member
      rcases member with rfl | rfl
      · trivial
      · exact ⟨⟨_, known, .of_vars (by simp [vars]) rfl⟩, trivial, _, known, by simp [boundNames]⟩
    | _ => cases member
  | _ => exact fun step member => by cases member

theorem isOf_clauseTargetSteps {owner target : Node} (inside : preorder [target] ⊆ all) :
    ∀ step ∈ clauseTargetSteps owner target, step.IsOf package all := by
  intro step member
  obtain ⟨k, below, member⟩ := List.mem_flatMap.mp member
  split at member
  · simp only [List.mem_cons, List.not_mem_nil, or_false] at member
    rcases member with rfl | rfl
    · trivial
    · exact ⟨⟨_, inside below, .of_vars (by simp [vars]) rfl⟩, trivial, _, inside below,
        by simp [boundNames]⟩
  · cases List.mem_singleton.mp member
    trivial

theorem isOf_importModules {info : Info} {names : List Node}
    (inside : preorder [importModules info names] ⊆ all) :
    ∀ step ∈ names.flatMap (importStep (importModules info names)), step.IsOf package all := by
  intro step member
  have self : importModules info names ∈ all := inside (mem_preorder_self _)
  obtain ⟨k, one, member⟩ := List.mem_flatMap.mp member
  have binds {name : String} (own : name ∈ k.importedName) :
      ∃ k ∈ all, name ∈ k.boundNames := ⟨_, self, List.mem_flatMap.mpr ⟨k, one, own⟩⟩
  have known : k ∈ all := subset_of_child inside one (mem_preorder_self k)
  cases k with
  | importAlias aliasInfo label asName =>
    cases asName with
    | none =>
      cases List.mem_singleton.mp member
      exact ⟨⟨_, known, .inr (by simp [declared]), by simp [BindingForm.isDeclaration], by simp⟩,
        ⟨_, self, .package one⟩, binds (List.mem_singleton_self _)⟩
    | some asName =>
      cases List.mem_singleton.mp member
      exact ⟨⟨_, known, .of_vars (by simp [vars]) rfl⟩, ⟨_, self, .module one⟩,
        binds (List.mem_singleton_self _)⟩
  | _ => cases member

theorem isOf_importFrom {info : Info} {module : Option String} {level : Nat} {names : List Node}
    (inside : preorder [importFrom info module level names] ⊆ all) :
    ∀ step ∈ names.flatMap (importFromStep (importFrom info module level names)
      (ModuleName.absolute? module level package)), step.IsOf package all := by
  intro step member
  have self : importFrom info module level names ∈ all := inside (mem_preorder_self _)
  obtain ⟨k, one, member⟩ := List.mem_flatMap.mp member
  have known : k ∈ all := subset_of_child inside one (mem_preorder_self k)
  cases k with
  | importAlias aliasInfo label asName =>
    simp only [importFromStep] at member
    split at member
    · obtain ⟨m, named, rfl⟩ := by simpa using member
      exact ⟨_, self, .intro named⟩
    · rename_i single
      cases List.mem_singleton.mp member
      have binds : ∃ k ∈ all, asName.getD label ∈ k.boundNames :=
        ⟨_, self, List.mem_flatMap.mpr ⟨_, one, by simp [importedMember, single]⟩⟩
      have written : asName.getD label ∈ (importAlias aliasInfo label asName).vars ∨
          asName.getD label ∈ (importAlias aliasInfo label asName).declared := by
        cases asName with
        | none => exact .inr (by simp [declared])
        | some asName => exact .inl (by simp [vars])
      cases named : ModuleName.absolute? module level package with
      | none => exact
        ⟨⟨_, known, written, by simp [BindingForm.isDeclaration], by simp⟩, trivial, binds⟩
      | some m => exact
        ⟨⟨_, known, written, by simp [BindingForm.isDeclaration], by simp⟩,
          ⟨_, self, .member named one⟩, binds⟩
  | _ => cases member

/-! ## All nodes -/

/-- The name is bound in this way by an assignment of one of the nodes, if at all. -/
def AssignedIn (package : String) (all : List Node) (how : Option Binding) : Prop :=
  ∀ b ∈ how, b.form.isDeclaration = false ∧ b.form.IsOf package all

theorem assignedIn_none : AssignedIn package all none := by
  rintro b ⟨⟩

/-- Every step of the node is that of one of the given nodes. -/
def StepsOf (package : String) (all : List Node) (n : Node) : Prop :=
  ∀ how : Option Binding, AssignedIn package all how →
    ∀ step ∈ n.steps package how, step.IsOf package all

theorem StepsOf.none (own : n.StepsOf package all) :
    ∀ step ∈ n.steps package Option.none, step.IsOf package all :=
  own Option.none assignedIn_none

/-- Every step of a tree is that of one of its nodes. -/
theorem stepsOf (n : Node) (inside : preorder [n] ⊆ all) : n.StepsOf package all := by
  have self : n ∈ all := inside (mem_preorder_self n)
  have nested {c : Node} (first : c ∈ n.children) : preorder [c] ⊆ all :=
    subset_of_child inside first
  have part : ∀ c ∈ n.children, c.StepsOf package all := fun c first => stepsOf c (nested first)
  have below : ∀ c ∈ n.children, ∀ d ∈ c.children,
      ∀ step ∈ d.steps package none, step.IsOf package all := fun c first d second =>
    (stepsOf d (subset_of_child (nested first) second)).none
  have deep : ∀ c ∈ n.children, ∀ d ∈ c.children, ∀ e ∈ d.children,
      ∀ step ∈ e.steps package none, step.IsOf package all := fun c first d second e third =>
    (stepsOf e (subset_of_child (subset_of_child (nested first) second) third)).none
  have additive := Step.Additive.each fun step => step.IsOf package all
  have list {ns : List Node} (inside : ∀ c ∈ ns, c ∈ n.children) {how : Option Binding}
      (plain : AssignedIn package all how) :
      ∀ step ∈ stepsList package how ns, step.IsOf package all :=
    additive.stepsList fun c member => part c (inside c member) how plain
  have option {o : Option Node} (inside : ∀ c ∈ o.toList, c ∈ n.children) :
      ∀ step ∈ stepsOption package o, step.IsOf package all :=
    additive.stepsOption fun c member => (part c (inside c member)).none
  intro how plain
  cases n with
  | name info id context =>
    have own (binds : id ∈ (name info id context).boundNames) : (Step.bind false id (how.getD
        { form := .other, owner := name info id context })).IsOf package all := by
      cases how with
      | none => exact ⟨⟨_, self, .of_vars (by simp [vars]) rfl⟩, trivial, _, self, binds⟩
      | some b => exact
        ⟨⟨_, self, .of_vars (by simp [vars]) (plain b rfl).1⟩, (plain b rfl).2, _, self, binds⟩
    cases context with
    | load => exact List.forall_mem_singleton.mpr trivial
    | store | del =>
      exact List.forall_mem_cons.mpr
        ⟨trivial, List.forall_mem_singleton.mpr (own (List.mem_singleton_self id))⟩
  | constant => exact List.forall_mem_singleton.mpr trivial
  | arguments | arg | generator | importAlias => exact fun step member => by cases member
  | globalNames | nonlocalNames =>
    exact List.forall_mem_cons.mpr ⟨trivial, List.forall_mem_singleton.mpr trivial⟩
  | attr info value label | keyword info label value =>
    exact List.forall_mem_cons.mpr ⟨trivial, (part value (by simp [children])).none⟩
  | call info func args keywords =>
    simp only [steps, List.cons_append, List.forall_mem_cons, List.forall_mem_append]
    exact ⟨trivial, ⟨(part func (by simp [children])).none,
      list (by simp +contextual [children]) assignedIn_none⟩,
      list (by simp +contextual [children]) assignedIn_none⟩
  | binOp info isAdd left right =>
    simp only [steps, List.cons_append, List.forall_mem_cons, List.forall_mem_append]
    exact ⟨trivial, (part left (by simp [children])).none, (part right (by simp [children])).none⟩
  | lambda info args body =>
    simp only [steps, List.cons_append, List.append_assoc, List.forall_mem_cons,
      List.forall_mem_append]
    exact ⟨trivial, additive.defaultSteps (below args (by simp [children])),
      additive.hintSteps (deep args (by simp [children])), ⟨_, self, rfl, by simp [isClass]⟩,
      isOf_parameterSteps (nested (by simp [children])), (part body (by simp [children])).none,
      trivial, List.forall_mem_nil _⟩
  | comprehension info kind elements generators =>
    have each : ∀ g ∈ generators, ∀ c ∈ g.children,
        ∀ step ∈ c.steps package none, step.IsOf package all := fun g member =>
      below g (by simp [children, member])
    have clauses := additive.clauseSteps true each fun info target iter ifs one => by
      have clause : preorder [generator info target iter ifs] ⊆ all :=
        nested (by simp [children, one])
      exact isOf_clauseTargetSteps (subset_of_child clause (by simp [children]))
    simp only [steps, List.cons_append, List.append_assoc, List.forall_mem_cons,
      List.forall_mem_append]
    exact ⟨trivial, additive.firstIterSteps each, ⟨_, self, rfl, by simp [isClass]⟩,
      clauses, list (by simp +contextual [children]) assignedIn_none,
      trivial, List.forall_mem_nil _⟩
  | functionDef info async label args body decorators returns =>
    simp only [steps, List.cons_append, List.append_assoc, List.forall_mem_cons,
      List.forall_mem_append]
    exact ⟨trivial, list (by simp +contextual [children]) assignedIn_none,
      additive.defaultSteps (below args (by simp [children])),
      additive.hintSteps (deep args (by simp [children])), option (by simp +contextual [children]),
      ⟨⟨_, self, .inr (by simp [declared]), fun _ => ⟨rfl, by simp [declared]⟩, by simp⟩, trivial,
        _, self, List.mem_singleton_self label⟩,
      ⟨_, self, rfl, by simp [isClass]⟩, isOf_parameterSteps (nested (by simp [children])),
      isOf_declarations body, list (by simp +contextual [children]) assignedIn_none, trivial,
      List.forall_mem_nil _⟩
  | classDef info label bases keywords body decorators =>
    have each : ∀ k ∈ keywords, ∀ c ∈ k.children,
        ∀ step ∈ c.steps package none, step.IsOf package all := fun k member =>
      below k (by simp [children, member])
    simp only [steps, List.cons_append, List.append_assoc, List.forall_mem_cons,
      List.forall_mem_append]
    exact ⟨trivial, list (by simp +contextual [children]) assignedIn_none,
      list (by simp +contextual [children]) assignedIn_none, additive.keywordSteps each,
      ⟨⟨_, self, .inr (by simp [declared]), fun _ => ⟨rfl, by simp [declared]⟩, fun _ => rfl⟩,
        trivial, _, self, List.mem_singleton_self label⟩,
      ⟨_, self, rfl, fun _ => rfl⟩, isOf_declarations body,
      list (by simp +contextual [children]) assignedIn_none, trivial, List.forall_mem_nil _⟩
  | assign info targets value =>
    simp only [steps, List.cons_append, List.forall_mem_cons, List.forall_mem_append]
    have known : value ∈ all := nested (by simp [children]) (mem_preorder_self value)
    refine ⟨trivial, (part value (by simp [children])).none,
      list (by simp +contextual [children]) ?_⟩
    rintro b ⟨⟩
    exact ⟨rfl, known⟩
  | annAssign info target hint value =>
    have hint_steps := (part hint (by simp [children])).none
    cases value with
    | none =>
      simp only [steps, List.cons_append, List.forall_mem_cons, List.forall_mem_append]
      exact ⟨trivial, hint_steps, trivial, List.forall_mem_nil _⟩
    | some value =>
      simp only [steps, List.cons_append, List.forall_mem_cons, List.forall_mem_append]
      have known : value ∈ all := nested (by simp [children]) (mem_preorder_self value)
      refine ⟨trivial, ⟨hint_steps, (part value (by simp [children])).none⟩,
        part target (by simp [children]) _ ?_⟩
      rintro b ⟨⟩
      exact ⟨rfl, known⟩
  | importModules info names =>
    exact List.forall_mem_cons.mpr ⟨trivial, isOf_importModules inside⟩
  | importFrom info module level names =>
    exact List.forall_mem_cons.mpr ⟨trivial, isOf_importFrom inside⟩
  | exceptHandler info type label body =>
    simp only [steps, List.cons_append, List.forall_mem_cons, List.forall_mem_append]
    exact ⟨trivial, ⟨option (by simp +contextual [children]), isOf_captureStep self rfl rfl⟩,
      list (by simp +contextual [children]) assignedIn_none⟩
  | matchAs info pattern label =>
    simp only [steps, List.cons_append, List.forall_mem_cons, List.forall_mem_append]
    exact ⟨trivial, option (by simp [children]), isOf_captureStep self rfl rfl⟩
  | matchStar info label =>
    exact List.forall_mem_cons.mpr ⟨trivial, isOf_captureStep self rfl rfl⟩
  | matchMapping info keys patterns rest =>
    simp only [steps, List.cons_append, List.forall_mem_cons, List.forall_mem_append]
    exact ⟨trivial, ⟨list (by simp +contextual [children]) assignedIn_none,
      list (by simp +contextual [children]) assignedIn_none⟩, isOf_captureStep self rfl rfl⟩
  | plain info kind parts =>
    exact List.forall_mem_cons.mpr ⟨trivial, list (by simp [children]) assignedIn_none⟩
termination_by sizeOf n
decreasing_by
  · exact sizeOf_lt_of_mem_children first
  · exact (sizeOf_lt_of_mem_children second).trans (sizeOf_lt_of_mem_children first)
  · exact ((sizeOf_lt_of_mem_children third).trans (sizeOf_lt_of_mem_children second)).trans
      (sizeOf_lt_of_mem_children first)

end Syntax.Node

/-! ## The table -/

/-- The symbol is bound, and all its bindings are made by nodes. -/
def Symbol.IsOf (package : String) (all : List Node) (symbol : Symbol) : Prop :=
  symbol.bindings ≠ [] ∧ ∀ b ∈ symbol.bindings,
    (∃ k ∈ all, k.Makes symbol.name b) ∧ b.form.IsOf package all ∧
      ∃ k ∈ all, symbol.name ∈ k.boundNames

/-- The scope is that of the module or of one of the nodes, and what binds its names are nodes as
well. -/
structure Scope.IsOf (package : String) (all : List Node) (s : Scope) : Prop where
  symbols : ∀ symbol ∈ s.symbols, symbol.IsOf package all
  opened : s.node = Module.id ∨
    ∃ k ∈ all, k.id = s.node ∧ (k.isClass = true → s.kind = .classBody)
  stars : ∀ m ∈ s.stars, ∃ k ∈ all, k.ImportsFrom package m

variable {package : String} {all : List Node}

theorem Scope.IsOf.bind {s : Scope} (known : s.IsOf package all) {name : String} {b : Binding}
    (made : (∃ k ∈ all, k.Makes name b) ∧ b.form.IsOf package all ∧
      ∃ k ∈ all, name ∈ k.boundNames) :
    (s.bind name b).IsOf package all := by
  have added (symbols : List Symbol) (before : ∀ symbol ∈ symbols, symbol.IsOf package all) :
      ∀ symbol ∈ addTo name b symbols, symbol.IsOf package all := by
    induction symbols with
    | nil =>
      refine List.forall_mem_singleton.mpr ⟨List.cons_ne_nil _ _, ?_⟩
      exact List.forall_mem_singleton.mpr made
    | cons symbol rest ih =>
      obtain ⟨first, before⟩ := List.forall_mem_cons.mp before
      rw [addTo]
      split
      · rename_i same
        refine List.forall_mem_cons.mpr ⟨⟨by simp, ?_⟩, before⟩
        refine List.forall_mem_append.mpr ⟨first.2, List.forall_mem_singleton.mpr ?_⟩
        rw [beq_iff_eq.mp same]
        exact made
      · exact List.forall_mem_cons.mpr ⟨first, ih before⟩
  exact ⟨added s.symbols known.symbols, known.opened, known.stars⟩

namespace ScopeBuilder

variable {b : ScopeBuilder}

theorem isOf_change {s : Scope} (known : s.IsOf package all) {step : Step}
    (own : step.IsOf package all) (k : Nat) : (b.change k s step).IsOf package all := by
  cases step with
  | bind fixed name binding =>
    simp only [change]
    split
    · exact known.bind own
    · exact known
  | declareGlobal | declareNonlocal =>
    simp only [change]
    split
    · exact ⟨known.symbols, known.opened, known.stars⟩
    · exact known
  | star m =>
    simp only [change]
    split
    · exact ⟨known.symbols, known.opened,
        List.forall_mem_append.mpr ⟨known.stars, List.forall_mem_singleton.mpr own⟩⟩
    · exact known
  | _ => exact known

theorem isOf_take (known : ∀ k s, b.table.get? k = some s → s.IsOf package all) {step : Step}
    (own : step.IsOf package all) :
    ∀ k s, (b.take step).table.get? k = some s → s.IsOf package all := by
  intro k s found
  rcases of_get?_take found with ⟨before, old, rfl⟩ | ⟨-, opens⟩
  · exact isOf_change (known k before old) own k
  · cases step with
    | enter kind info name body =>
      cases opens
      obtain ⟨node, inside, opens⟩ := own
      exact ⟨nofun, .inr ⟨node, inside, congrArg Info.id opens.same, opens.ofClass⟩, nofun⟩
    | _ => cases opens

theorem isOf_run (known : ∀ k s, b.table.get? k = some s → s.IsOf package all) {steps : List Step}
    (own : ∀ step ∈ steps, step.IsOf package all) :
    ∀ k s, (steps.foldl take b).table.get? k = some s → s.IsOf package all := by
  induction steps generalizing b with
  | nil => exact known
  | cons step rest ih =>
    obtain ⟨first, own⟩ := List.forall_mem_cons.mp own
    exact ih (isOf_take known first) own

end ScopeBuilder

/-- The scopes of a module are made by its nodes. -/
theorem ScopeTable.isOf_ofModule {name package : String} {m : Module} {n : Nat} {s : Scope}
    (found : (ofModule name package m).get? n = some s) :
    s.IsOf package (Node.preorder m.body) := by
  refine ScopeBuilder.isOf_run (fun k s found => ?_) ?_ n s found
  · cases k with
    | zero =>
      cases found
      exact ⟨nofun, .inl rfl, nofun⟩
    | succ k => cases found
  · exact (Step.Additive.each _).stepsList fun k member =>
      (Node.stepsOf k (Node.preorder_subset member)).none

/-- What a tree of the language binds itself is a component. -/
theorem Syntax.Shaped.isComponent_of_mem_boundNames {c : Category} {n : Node} (shaped : Shaped c n)
    {name : String} (binds : name ∈ n.boundNames) : ModuleName.IsComponent name := by
  induction shaped with
  | load | attr | constant | call | binOp | lambda | comprehension | named | compound | keyword
  | generator | arguments | imported | member | boundAttr | subscript | group | assign | annAssign
  | globalNames | nonlocalNames | block => cases binds
  | parameter _ named | functionDef _ _ _ _ named | classDef _ _ _ _ named =>
    cases List.mem_singleton.mp binds
    exact named
  | bound _ context named =>
    cases context with
    | load => cases binds
    | store | del =>
      cases List.mem_singleton.mp binds
      exact named
  | ofExpression _ ih | ofTarget _ _ ih => exact ih binds
  | importModules inner =>
    obtain ⟨k, one, binds⟩ := List.mem_flatMap.mp binds
    cases inner k one with
    | @imported _ label asName importable named =>
      cases asName with
      | none =>
        cases List.mem_singleton.mp binds
        exact importable.head
      | some asName =>
        cases List.mem_singleton.mp binds
        exact named _ rfl
  | importFrom inner =>
    obtain ⟨k, one, binds⟩ := List.mem_flatMap.mp binds
    cases inner k one with
    | @member _ label asName own named =>
      rw [Node.importedMember] at binds
      split at binds
      · cases binds
      · cases List.mem_singleton.mp binds
        cases asName with
        | none => exact own
        | some asName => exact named _ rfl
  | exceptHandler _ _ named | matchAs _ named | matchStar _ named | matchMapping _ _ named =>
    exact named _ (Option.mem_toList.mp binds)

/-! ## Units -/

theorem Symbol.mem_of_definite? {symbol : Symbol} {b : Binding}
    (only : symbol.definite? = some b) : b ∈ symbol.bindings := by
  revert only
  rw [definite?]
  rcases symbol.bindings with _ | ⟨first, _ | ⟨second, rest⟩⟩
  · rintro ⟨⟩
  · rintro ⟨⟩
    exact List.mem_singleton_self _
  · dsimp only
    split
    · split
      · rintro ⟨⟩
        exact List.mem_cons_self
      · rintro ⟨⟩
    · rintro ⟨⟩

namespace SourceUnit

variable {u : SourceUnit}

theorem scopes_of_isRead (read : u.IsRead) :
    u.scopes = ScopeTable.ofModule u.moduleName u.package ⟨u.body⟩ := by
  obtain ⟨_, _, _, _, m, -, rfl⟩ := read
  rfl

theorem isOf_of_get? (read : u.IsRead) {n : Nat} {s : Scope} (found : u.scopes.get? n = some s) :
    s.IsOf u.package (Node.preorder u.body) := by
  rw [scopes_of_isRead read] at found
  exact ScopeTable.isOf_ofModule found

theorem exists_shaped (read : u.IsRead) {n : Node} (inside : n ∈ Node.preorder u.body) :
    ∃ c, Shaped c n := by
  obtain ⟨_, _, _, _, m, parsed, rfl⟩ := read
  have shaped := Module.shaped_of_parse parsed
  exact Shaped.exists_of_mem (fun n known => ⟨_, shaped n known⟩) n inside

/-- The binding that all uses of a symbol see is made by a node of the unit. -/
theorem made_of_definite? (read : u.IsRead) {ref : SymbolRef} {b : Binding}
    (only : (u.scopes.symbol? ref).bind Symbol.definite? = some b) :
    (∃ k ∈ Node.preorder u.body, k.Makes ref.name b) ∧
      b.form.IsOf u.package (Node.preorder u.body) ∧
      ∃ k ∈ Node.preorder u.body, ref.name ∈ k.boundNames := by
  obtain ⟨symbol, has, only⟩ := Option.bind_eq_some_iff.mp only
  obtain ⟨s, scope, has⟩ := Option.bind_eq_some_iff.mp has
  have named : symbol.name = ref.name := by simpa using List.find?_some has
  have made := ((isOf_of_get? read scope).symbols symbol (List.mem_of_find?_eq_some has)).2 b
    (Symbol.mem_of_definite? only)
  rw [named] at made
  exact made

/-- What everything is imported from is named by a node of the unit. -/
theorem exists_importsFrom (read : u.IsRead) {m : String} (star : m ∈ u.topScope.stars) :
    ∃ n ∈ Node.preorder u.body, n.ImportsFrom u.package m := by
  rw [topScope] at star
  cases found : u.scopes.get? ScopeTable.moduleScope with
  | none =>
    rw [found] at star
    cases star
  | some s =>
    rw [found] at star
    exact (isOf_of_get? read found).stars m star

/-- What is bound anywhere in a unit is bound by one of its nodes. -/
theorem exists_mem_boundNames (read : u.IsRead) {ref : SymbolRef} {symbol : Symbol}
    (bound : u.scopes.symbol? ref = some symbol) :
    ∃ n ∈ Node.preorder u.body, ref.name ∈ n.boundNames := by
  obtain ⟨s, found, has⟩ := Option.bind_eq_some_iff.mp bound
  have named : symbol.name = ref.name := by simpa using List.find?_some has
  obtain ⟨some, made⟩ := (isOf_of_get? read found).symbols symbol (List.mem_of_find?_eq_some has)
  obtain ⟨b, inside⟩ := List.exists_mem_of_ne_nil _ some
  exact named ▸ (made b inside).2.2

theorem isComponent_of_symbol? (read : u.IsRead) {ref : SymbolRef} {symbol : Symbol}
    (bound : u.scopes.symbol? ref = some symbol) : ModuleName.IsComponent ref.name := by
  obtain ⟨n, inside, binds⟩ := exists_mem_boundNames read bound
  obtain ⟨c, shape⟩ := exists_shaped read inside
  exact shape.isComponent_of_mem_boundNames binds

end SourceUnit

end Catalog
