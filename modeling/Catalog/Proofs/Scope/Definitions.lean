import Catalog.Proofs.Scope.Balance
import Catalog.Proofs.Scope.Names

/-!
# The definitions that bind a name of a module

A symbol collects the bindings of its name in the order of the steps that make them. For a name of
a module most of these steps may be anywhere, but the functions and classes among its statements
each bind their name at the top. So these definitions are among the bindings in the order in which
they stand, and those that are not among the statements are definitions further inside.
-/

namespace Catalog

open Syntax

/-! ## Recorded bindings -/

/-- The bindings of the symbol, in order. A symbol that does not exist has none. -/
def ScopeTable.bindingsOf (t : ScopeTable) (ref : SymbolRef) : List Binding :=
  (t.symbol? ref).elim [] Symbol.bindings

namespace ScopeBuilder

variable {b : ScopeBuilder} {n : Nat} {name : String}

/-- What a step records for the name in the scope `n`. -/
def recordedAt (n : Nat) (name : String) (b : ScopeBuilder) : Step → List Binding
  | .bind fixed other binding =>
    if other = name ∧ b.target fixed other = n then [binding] else []
  | _ => []

/-- What steps record for the name in the scope `n`, in order. -/
def recorded (n : Nat) (name : String) : ScopeBuilder → List Step → List Binding
  | _, [] => []
  | b, step :: rest => recordedAt n name b step ++ recorded n name (b.take step) rest

theorem recorded_append (b : ScopeBuilder) (l r : List Step) :
    recorded n name b (l ++ r) = recorded n name b l ++ recorded n name (l.foldl take b) r := by
  induction l generalizing b with
  | nil => rfl
  | cons step rest ih =>
    rw [List.cons_append, recorded, ih, recorded, List.append_assoc, List.foldl_cons]

theorem mem_of_recorded {steps : List Step} {binding : Binding}
    (member : binding ∈ recorded n name b steps) : ∃ fixed, .bind fixed name binding ∈ steps := by
  induction steps generalizing b with
  | nil => cases member
  | cons step rest ih =>
    rcases List.mem_append.mp member with own | later
    · cases step with
      | bind fixed other made =>
        rw [recordedAt] at own
        split at own
        · rename_i same
          obtain ⟨rfl, -⟩ := same
          cases List.mem_singleton.mp own
          exact ⟨fixed, List.mem_cons_self⟩
        · cases own
      | _ => cases own
    · obtain ⟨fixed, inside⟩ := ih later
      exact ⟨fixed, List.mem_cons_of_mem step inside⟩

theorem bindingsOf_take {s : Scope} (found : b.table.get? n = some s) (step : Step) :
    (b.take step).table.bindingsOf { scope := n, name } =
      b.table.bindingsOf { scope := n, name } ++ recordedAt n name b step := by
  have before : b.table.bindingsOf { scope := n, name } =
      (s.symbol? name).elim [] Symbol.bindings := by
    rw [ScopeTable.bindingsOf, ScopeTable.symbol?, found]
    rfl
  have after : (b.take step).table.bindingsOf { scope := n, name } =
      ((b.change n s step).symbol? name).elim [] Symbol.bindings := by
    rw [ScopeTable.bindingsOf, ScopeTable.symbol?, get?_take_of_some found]
    rfl
  have unchanged (same : (b.change n s step).symbol? name = s.symbol? name)
      (nothing : recordedAt n name b step = []) :
      (b.take step).table.bindingsOf { scope := n, name } =
        b.table.bindingsOf { scope := n, name } ++ recordedAt n name b step := by
    rw [after, before, same, nothing, List.append_nil]
  cases step with
  | bind fixed other binding =>
    by_cases here : b.target fixed other = n
    · have made : b.change n s (.bind fixed other binding) = s.bind other binding := if_pos here
      by_cases same : other = name
      · subst same
        rw [after, before, made, Scope.symbol?_bind_self]
        simp [recordedAt, here]
      · refine unchanged ?_ (by simp [recordedAt, same])
        rw [made, Scope.symbol?_bind_other s binding (Ne.symm same)]
    · refine unchanged ?_ (by simp [recordedAt, here])
      rw [change, if_neg here]
  | declareGlobal | declareNonlocal | star =>
    refine unchanged ?_ rfl
    rw [change]
    split <;> rfl
  | _ => exact unchanged rfl rfl

/-- After steps a symbol has the bindings that it had, and those that the steps record. -/
theorem bindingsOf_run {s : Scope} (found : b.table.get? n = some s) (steps : List Step) :
    (steps.foldl take b).table.bindingsOf { scope := n, name } =
      b.table.bindingsOf { scope := n, name } ++ recorded n name b steps := by
  induction steps generalizing b s with
  | nil => exact (List.append_nil _).symm
  | cons step rest ih =>
    rw [List.foldl_cons, ih (get?_take_of_some found step), bindingsOf_take found,
      List.append_assoc, recorded]

end ScopeBuilder

/-! ## Definitions -/

/-- If the step binds a name by a definition, that is one of the nodes. -/
def Step.DefinesIn (all : List Node) : Step → Prop
  | bind _ _ b => b.form.isDeclaration = true → b.owner ∈ all
  | _ => True

theorem Step.IsOf.definesIn {package : String} {all : List Node} {step : Step}
    (own : step.IsOf package all) : step.DefinesIn all := by
  cases step with
  | bind fixed name b =>
    obtain ⟨⟨k, member, makes⟩, -⟩ := own
    intro declares
    rw [(makes.defined declares).1]
    exact member
  | _ => trivial

namespace Syntax.Node

variable {package : String} {n : Node} {label : String}

/-- The name of a function or class. -/
def definedName? : Node → Option String
  | functionDef _ _ label .. => some label
  | classDef _ label .. => some label
  | _ => none

/-- The node is a function or class with the name. -/
def defines (name : String) (n : Node) : Bool := n.definedName? == some name

/-- The binding that a function or class makes for its name. -/
def definition (n : Node) : Binding :=
  { form := if n.isClass then .classDef else .function, owner := n }

theorem isDeclaration_definition (n : Node) : n.definition.form.isDeclaration = true := by
  rw [definition]
  split <;> rfl

/-- A node that is no definition makes definitions only for its parts. -/
theorem definesIn_of_definedName?_eq_none (undefined : n.definedName? = none) :
    ∀ step ∈ n.steps package none, step.DefinesIn (preorder n.children) := by
  intro step member
  have own : step.IsOf package (preorder [n]) :=
    stepsOf n (List.Subset.refl _) none assignedIn_none step member
  cases step with
  | bind fixed name b =>
    intro declares
    obtain ⟨⟨k, inside, makes⟩, -⟩ := own
    obtain ⟨same, declared⟩ := makes.defined declares
    rw [preorder_cons, List.append_nil] at inside
    rcases List.mem_cons.mp inside with rfl | inside
    · -- the node itself declares a name, so it is an alias, which has no steps
      cases k with
      | functionDef | classDef => cases undefined
      | importAlias => cases member
      | _ => cases declared
    · exact same ▸ inside
  | _ => trivial

/-- A function or class binds its name in the scope in which it stands. All other definitions that
its steps make are parts of it. -/
theorem exists_steps_of_definedName? (defined : n.definedName? = some label)
    (how : Option Binding) :
    ∃ before after, n.steps package how = before ++ .bind false label n.definition :: after ∧
      Balanced before ∧
      ∀ step ∈ before ++ after, step.DefinesIn (preorder n.children) := by
  have part {c : Node} (below : preorder [c] ⊆ preorder n.children) :
      Balanced (c.steps package none) ∧
        ∀ step ∈ c.steps package none, step.DefinesIn (preorder n.children) :=
    ⟨c.balanced none, fun step member =>
      (stepsOf c below none assignedIn_none step member).definesIn⟩
  have child {c : Node} (first : c ∈ n.children) : preorder [c] ⊆ preorder n.children :=
    preorder_subset first
  have additive := Balanced.additive.and (.each fun step => step.DefinesIn (preorder n.children))
  have list (ns : List Node) (inside : ∀ c ∈ ns, c ∈ n.children) :=
    additive.stepsList fun c member => part (child (inside c member))
  have placed : Balanced [.place n.id] ∧
      ∀ step ∈ [Step.place n.id], step.DefinesIn (preorder n.children) :=
    ⟨.flat rfl, List.forall_mem_singleton.mpr trivial⟩
  have declared (ns : List Node) :
      ∀ step ∈ declarations ns, step.DefinesIn (preorder n.children) := fun step member => by
    have own : step.IsOf package (preorder n.children) := isOf_declarations ns step member
    exact own.definesIn
  cases n with
  | functionDef info async name args body decorators returns =>
    cases defined
    have signature := child (show args ∈ _ by simp [children])
    have before := additive.append (additive.append (additive.append (additive.append placed
      (list decorators (by simp +contextual [children])))
      (additive.defaultSteps fun c member => part (subset_of_child signature member)))
      (additive.hintSteps fun a first c second =>
        part (subset_of_child (subset_of_child signature first) second)))
      (additive.stepsOption fun c (member : c ∈ returns.toList) =>
        part (child (by
          rw [Option.mem_toList] at member
          simp [children, member])))
    have parameters : ∀ step ∈ parameterSteps args, step.IsOf package _ :=
      isOf_parameterSteps signature
    have inner := (list body (by simp +contextual [children])).2
    refine ⟨_, .enter .function info label body :: (parameterSteps args ++ declarations body ++
      stepsList package none body ++ [.leave]), ?_, before.1, ?_⟩
    · simp [steps, definition, isClass, Node.id, Node.info]
    · refine List.forall_mem_append.mpr ⟨before.2, List.forall_mem_cons.mpr ⟨trivial, ?_⟩⟩
      simp only [List.forall_mem_append]
      exact ⟨⟨⟨fun step member => (parameters step member).definesIn, declared body⟩, inner⟩,
        List.forall_mem_singleton.mpr trivial⟩
  | classDef info name bases keywords body decorators =>
    cases defined
    have before := additive.append (additive.append (additive.append placed
      (list decorators (by simp +contextual [children])))
      (list bases (by simp +contextual [children])))
      (additive.keywordSteps fun k (member : k ∈ keywords) c inside =>
        part (subset_of_child (child (by simp [children, member])) inside))
    have inner := (list body (by simp +contextual [children])).2
    refine ⟨_, .enter .classBody info label body :: (declarations body ++
      stepsList package none body ++ [.leave]), ?_, before.1, ?_⟩
    · simp [steps, definition, isClass, Node.id, Node.info]
    · refine List.forall_mem_append.mpr ⟨before.2, List.forall_mem_cons.mpr ⟨trivial, ?_⟩⟩
      simp only [List.forall_mem_append]
      exact ⟨⟨declared body, inner⟩, List.forall_mem_singleton.mpr trivial⟩
  | _ => cases defined

end Syntax.Node

/-! ## The top of a module -/

namespace ScopeBuilder

variable {b : ScopeBuilder} {package name : String} {keep : Binding → Bool}

/-- The builder stands in the scope of the module. -/
structure AtTop (b : ScopeBuilder) : Prop where
  sound : b.Sound
  current : b.current = ScopeTable.moduleScope
  outer : b.outer = []

theorem start_atTop (name : String) (body : List Node) : (start name body).AtTop :=
  ⟨start_sound name body, rfl, rfl⟩

theorem AtTop.run (top : b.AtTop) {l : List Step} (balanced : Balanced l) :
    (l.foldl take b).AtTop := by
  obtain ⟨t, ran⟩ := balanced.run b
  have sound := top.sound.run l
  rw [ran] at sound ⊢
  exact ⟨sound, top.current, top.outer⟩

/-- At the top of a module all names are bound in the module. -/
theorem AtTop.target_eq (top : b.AtTop) (fixed : Bool) :
    b.target fixed name = ScopeTable.moduleScope := by
  have inside := top.sound.target_mem fixed name
  rwa [top.current, top.outer, List.mem_singleton] at inside

/-- Bindings that are not kept leave nothing. -/
theorem filter_recorded_eq_nil {n : Nat} {l : List Step} {all : List Node}
    (made : ∀ step ∈ l, step.DefinesIn all)
    (inner : ∀ d : Binding, d.owner ∈ all → keep d = false)
    (only : ∀ d, keep d = true → d.form.isDeclaration = true) :
    (recorded n name b l).filter keep = [] := by
  refine List.filter_eq_nil_iff.mpr fun d member kept => ?_
  obtain ⟨fixed, inside⟩ := mem_of_recorded member
  rw [inner d (made _ inside (only d kept))] at kept
  cases kept

/-- Of the bindings of a name, those that are kept are those of the definitions among the statements
of a module, if no definition further inside is kept. -/
theorem AtTop.filter_recorded (top : b.AtTop) {ns : List Node}
    (own : ∀ n ∈ ns, keep n.definition = true)
    (inner : ∀ n ∈ ns, ∀ d : Binding, d.owner ∈ Node.preorder n.children → keep d = false)
    (only : ∀ d, keep d = true → d.form.isDeclaration = true) :
    (recorded ScopeTable.moduleScope name b (Node.stepsList package none ns)).filter keep =
      (ns.filter (Node.defines name)).map Node.definition := by
  induction ns generalizing b with
  | nil => rfl
  | cons n rest ih =>
    obtain ⟨ownFirst, own⟩ := List.forall_mem_cons.mp own
    obtain ⟨innerFirst, inner⟩ := List.forall_mem_cons.mp inner
    have first : Balanced (n.steps package none) := n.balanced none
    have later := ih (top.run first) own inner
    rw [Node.stepsList, recorded_append, List.filter_append, later]
    cases defined : n.definedName? with
    | none =>
      have nothing : (recorded ScopeTable.moduleScope name b
          (n.steps package none)).filter keep = [] :=
        filter_recorded_eq_nil (Node.definesIn_of_definedName?_eq_none defined) innerFirst only
      rw [nothing, List.nil_append, List.filter_cons_of_neg (by simp [Node.defines, defined])]
    | some label =>
      obtain ⟨before, after, split, balanced, made⟩ :=
        @Node.exists_steps_of_definedName? package _ _ defined none
      obtain ⟨madeBefore, madeAfter⟩ := List.forall_mem_append.mp made
      rw [split, recorded_append, List.filter_append,
        filter_recorded_eq_nil madeBefore innerFirst only, List.nil_append, recorded,
        List.filter_append, filter_recorded_eq_nil madeAfter innerFirst only, List.append_nil,
        recordedAt, (top.run balanced).target_eq]
      by_cases same : label = name
      · have named : Node.defines name n = true := by simp [Node.defines, defined, same]
        rw [if_pos ⟨same, rfl⟩, List.filter_cons_of_pos ownFirst, List.filter_cons_of_pos named]
        rfl
      · have named : ¬ Node.defines name n = true := by simp [Node.defines, defined, same]
        rw [if_neg fun both => same both.1, List.filter_cons_of_neg named]
        rfl

end ScopeBuilder

/-- If the nodes of trees have different numbers, so have the trees, and no tree is a part of
another. -/
theorem Syntax.Node.nodup_ids {ns : List Node} (different : ((preorder ns).map Node.id).Nodup) :
    (ns.map Node.id).Nodup ∧ ∀ n ∈ ns, ∀ k ∈ preorder n.children, k.id ∉ ns.map Node.id := by
  have whole : ((nodes ns).map Node.id).Nodup := by
    rw [nodes, Multiset.map_coe]
    exact Multiset.coe_nodup.mpr different
  rw [nodes_flatMap_children, Multiset.map_add, Multiset.map_coe, Multiset.nodup_add] at whole
  obtain ⟨own, -, apart⟩ := whole
  refine ⟨Multiset.coe_nodup.mp own, fun n member k part inside => ?_⟩
  have below : k ∈ nodes (ns.flatMap children) := by
    obtain ⟨c, child, deeper⟩ := mem_preorder_iff.mp part
    refine Multiset.mem_coe.mpr (mem_preorder_iff.mpr ⟨c, ?_, deeper⟩)
    exact List.mem_flatMap.mpr ⟨n, member, child⟩
  exact Multiset.disjoint_left.mp apart (Multiset.mem_coe.mpr inside)
    (Multiset.mem_map_of_mem Node.id below)

namespace SourceUnit

variable {u : SourceUnit}

theorem nodup_ids_of_isRead (read : u.IsRead) : ((Node.preorder u.body).map Node.id).Nodup := by
  obtain ⟨origin, path, identity, source, m, parsed, rfl⟩ := read
  exact (List.nodup_cons.mp (Module.nodup_ids_of_parse parsed)).2

/-- The binding is that of a definition among the statements of the unit. -/
def definesAtTop (u : SourceUnit) (d : Binding) : Bool :=
  d.form.isDeclaration && (u.body.map Node.id).contains d.owner.id

/-- The definitions among the statements of a module that was read are bindings of their names in
the module, in the order in which they stand. -/
theorem filter_bindingsOf (read : u.IsRead) (name : String) :
    (u.scopes.bindingsOf { scope := ScopeTable.moduleScope, name }).filter u.definesAtTop =
      (u.body.filter (Node.defines name)).map Node.definition := by
  obtain ⟨-, apart⟩ := Node.nodup_ids (nodup_ids_of_isRead read)
  obtain ⟨origin, path, identity, source, m, parsed, rfl⟩ := read
  have top := ScopeBuilder.start_atTop identity.name m.body
  have recorded : (ofModule origin path identity m).scopes.bindingsOf
      { scope := ScopeTable.moduleScope, name } = ScopeBuilder.recorded ScopeTable.moduleScope name
        (.start identity.name m.body) (Node.stepsList identity.package none m.body) :=
    (ScopeBuilder.bindingsOf_run (n := ScopeTable.moduleScope)
      (b := .start identity.name m.body) rfl _).trans (List.nil_append _)
  rw [recorded]
  refine top.filter_recorded (fun n member => ?_) (fun n member d part => ?_) fun d kept => ?_
  · rw [definesAtTop, Node.isDeclaration_definition, Bool.true_and, List.contains_iff_mem]
    exact List.mem_map_of_mem member
  · rw [definesAtTop, Bool.and_eq_false_iff]
    refine .inr (Bool.eq_false_iff.mpr fun inside => ?_)
    exact apart n member d.owner part (List.contains_iff_mem.mp inside)
  · exact (Bool.and_eq_true_iff.mp kept).1

end SourceUnit

end Catalog
