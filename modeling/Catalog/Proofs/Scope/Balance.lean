import Catalog.Proofs.Scope.Owners
import Catalog.Proofs.Scope.Parts
import Catalog.Proofs.Scope.Renaming
import Catalog.Proofs.Scope.Table

/-!
# Scopes are closed where they were opened

The steps of a node open scopes and close them again, and each scope is opened by a node that was
placed before. So taking the steps of whole nodes comes back to the scope in which they began, and
in a module whose nodes have different numbers no two scopes are opened by the same node. Nothing
of this depends on the form of the nodes.
-/

namespace Catalog

open Syntax

/-! ## Balanced steps -/

/-- The step neither opens nor closes a scope. -/
def Step.isFlat : Step → Bool
  | enter .. => false
  | leave => false
  | _ => true

/-- The steps close the scopes that they open, and each of these is opened by a node that they
place. -/
inductive Balanced : List Step → Prop
  | nil : Balanced []
  | append {l r : List Step} (first : Balanced l) (second : Balanced r) : Balanced (l ++ r)
  | flat {step : Step} (flat : step.isFlat = true) : Balanced [step]
  | scope (kind : ScopeKind) (info : Info) (name : String) (body : List Node) {l r : List Step}
      (before : Balanced l) (inside : Balanced r) :
      Balanced (.place info.id :: (l ++ .enter kind info name body :: (r ++ [.leave])))

namespace Balanced

variable {l : List Step}

theorem additive : Step.Additive Balanced := ⟨.nil, .append⟩

theorem cons {step : Step} (flat : step.isFlat = true) (more : Balanced l) :
    Balanced (step :: l) :=
  (Balanced.flat flat).append more

theorem of_flat (flat : ∀ step ∈ l, step.isFlat = true) : Balanced l := by
  induction l with
  | nil => exact .nil
  | cons step rest ih =>
    obtain ⟨first, flat⟩ := List.forall_mem_cons.mp flat
    exact .cons first (ih flat)

end Balanced

namespace Syntax.Node

variable {package : String}

theorem isFlat_declarations (ns : List Node) : ∀ step ∈ declarations ns, step.isFlat = true := by
  intro step member
  have declares := isDeclaration_of_mem step member
  cases step with
  | declareGlobal | declareNonlocal => rfl
  | _ => cases declares

theorem isFlat_parameterSteps (n : Node) : ∀ step ∈ parameterSteps n, step.isFlat = true := by
  cases n with
  | arguments info posonly args vararg kwonly kwDefaults kwarg defaults =>
    intro step member
    obtain ⟨p, -, member⟩ := List.mem_flatMap.mp member
    cases p with
    | arg info label hint =>
      simp only [parameterStep, List.mem_cons, List.not_mem_nil, or_false] at member
      rcases member with rfl | rfl <;> rfl
    | _ => cases member
  | _ => exact fun step member => by cases member

theorem isFlat_clauseTargetSteps (owner target : Node) :
    ∀ step ∈ clauseTargetSteps owner target, step.isFlat = true := by
  intro step member
  obtain ⟨k, -, member⟩ := List.mem_flatMap.mp member
  split at member
  · simp only [List.mem_cons, List.not_mem_nil, or_false] at member
    rcases member with rfl | rfl <;> rfl
  · cases List.mem_singleton.mp member
    rfl

theorem isFlat_captureStep (owner : Node) (label : Option String) :
    ∀ step ∈ captureStep owner label, step.isFlat = true := by
  cases label with
  | none => exact List.forall_mem_nil _
  | some label => exact List.forall_mem_singleton.mpr rfl

theorem isFlat_importSteps (owner : Node) (names : List Node) :
    ∀ step ∈ names.flatMap (importStep owner), step.isFlat = true := by
  intro step member
  obtain ⟨k, -, member⟩ := List.mem_flatMap.mp member
  unfold importStep at member
  split at member
  · cases List.mem_singleton.mp member
    rfl
  · cases List.mem_singleton.mp member
    rfl
  · cases member

theorem isFlat_importFromSteps (owner : Node) (module : Option String) (names : List Node) :
    ∀ step ∈ names.flatMap (importFromStep owner module), step.isFlat = true := by
  intro step member
  obtain ⟨k, -, member⟩ := List.mem_flatMap.mp member
  unfold importFromStep at member
  split at member
  · split at member
    · obtain ⟨m, -, rfl⟩ := by simpa using member
      rfl
    · cases List.mem_singleton.mp member
      rfl
  · cases member

/-- The steps of a node are balanced, whatever its form. -/
theorem balanced (n : Node) (how : Option Binding) : Balanced (n.steps package how) := by
  have part : ∀ c ∈ n.children, ∀ how, Balanced (c.steps package how) :=
    fun c first how => balanced c how
  have below : ∀ c ∈ n.children, ∀ d ∈ c.children, Balanced (d.steps package none) :=
    fun c first d second => balanced d none
  have deep : ∀ c ∈ n.children, ∀ d ∈ c.children, ∀ e ∈ d.children,
      Balanced (e.steps package none) := fun c first d second e third => balanced e none
  have list (ns : List Node) (inside : ∀ c ∈ ns, c ∈ n.children) (how : Option Binding) :
      Balanced (stepsList package how ns) :=
    Balanced.additive.stepsList fun c member => part c (inside c member) how
  have option (o : Option Node) (inside : ∀ c ∈ o.toList, c ∈ n.children) :
      Balanced (stepsOption package o) :=
    Balanced.additive.stepsOption fun c member => part c (inside c member) none
  cases n with
  | name info id context =>
    cases context with
    | load => exact .flat rfl
    | store | del => exact .cons rfl (.flat rfl)
  | constant => exact .flat rfl
  | arguments | arg | generator | importAlias => exact .nil
  | globalNames | nonlocalNames => exact .cons rfl (.flat rfl)
  | attr info value label | keyword info label value =>
    exact .cons rfl (part value (by simp [children]) none)
  | call info func args keywords =>
    exact .append (.append (.cons rfl (part func (by simp [children]) none))
      (list _ (by simp +contextual [children]) none)) (list _ (by simp +contextual [children]) none)
  | binOp info isAdd left right =>
    exact .append (.cons rfl (part left (by simp [children]) none))
      (part right (by simp [children]) none)
  | lambda info args body =>
    have scope := Balanced.scope .function info "<lambda>" [body]
      (.append (Balanced.additive.defaultSteps (below args (by simp [children])))
        (Balanced.additive.hintSteps (deep args (by simp [children]))))
      (.append (.of_flat (isFlat_parameterSteps args)) (part body (by simp [children]) none))
    simpa only [steps, List.cons_append, List.append_assoc] using scope
  | comprehension info kind elements generators =>
    have each : ∀ g ∈ generators, ∀ c ∈ g.children, Balanced (c.steps package none) :=
      fun g member => below g (by simp [children, member])
    have scope := Balanced.scope .comprehension info "<comprehension>" []
      (Balanced.additive.firstIterSteps each)
      (.append (Balanced.additive.clauseSteps true each fun _ _ _ _ _ =>
        .of_flat (isFlat_clauseTargetSteps _ _))
        (list elements (by simp +contextual [children]) none))
    simpa only [steps, List.cons_append, List.append_assoc] using scope
  | functionDef info async label args body decorators returns =>
    have bound : Balanced [.bind false label
        { form := .function
          owner := functionDef info async label args body decorators returns }] := .flat rfl
    have scope := Balanced.scope .function info label body
      (.append (.append (.append (.append (list decorators
        (by simp +contextual [children]) none)
        (Balanced.additive.defaultSteps (below args (by simp [children]))))
        (Balanced.additive.hintSteps (deep args (by simp [children]))))
        (option returns (by simp +contextual [children]))) bound)
      (.append (.append (.of_flat (isFlat_parameterSteps args))
        (.of_flat (isFlat_declarations body))) (list body
          (by simp +contextual [children]) none))
    simpa only [steps, List.cons_append, List.append_assoc, List.nil_append] using scope
  | classDef info label bases keywords body decorators =>
    have each : ∀ k ∈ keywords, ∀ c ∈ k.children, Balanced (c.steps package none) :=
      fun k member => below k (by simp [children, member])
    have bound : Balanced [.bind false label
        { form := .classDef, owner := classDef info label bases keywords body decorators }] :=
      .flat rfl
    have scope := Balanced.scope .classBody info label body
      (.append (.append (.append (list decorators (by simp +contextual [children]) none)
        (list bases (by simp +contextual [children]) none))
        (Balanced.additive.keywordSteps each)) bound)
      (.append (.of_flat (isFlat_declarations body)) (list body
        (by simp +contextual [children]) none))
    simpa only [steps, List.cons_append, List.append_assoc, List.nil_append] using scope
  | assign info targets value =>
    exact .append (.cons rfl (part value (by simp [children]) none))
      (list _ (by simp +contextual [children]) _)
  | annAssign info target hint value =>
    have hinted := part hint (by simp [children]) none
    cases value with
    | none => exact .append (.cons rfl hinted) (.flat rfl)
    | some value =>
      exact .append (.append (.cons rfl hinted) (part value (by simp [children]) none))
        (part target (by simp [children]) _)
  | importModules info names => exact .cons rfl (.of_flat (isFlat_importSteps _ names))
  | importFrom info module level names =>
    exact .cons rfl (.of_flat (isFlat_importFromSteps _ _ names))
  | exceptHandler info type label body =>
    exact .append (.append (.cons rfl (option _ (by simp +contextual [children])))
      (.of_flat (isFlat_captureStep _ label))) (list _ (by simp +contextual [children]) none)
  | matchAs info pattern label =>
    exact .append (.cons rfl (option _ (by simp [children])))
      (.of_flat (isFlat_captureStep _ label))
  | matchStar info label => exact .cons rfl (.of_flat (isFlat_captureStep _ label))
  | matchMapping info keys patterns rest =>
    exact .append (.append (.cons rfl (list _ (by simp +contextual [children]) none))
      (list _ (by simp +contextual [children]) none)) (.of_flat (isFlat_captureStep _ rest))
  | plain info kind parts => exact .cons rfl (list _ (by simp [children]) none)
termination_by sizeOf n
decreasing_by
  · exact sizeOf_lt_of_mem_children first
  · exact (sizeOf_lt_of_mem_children second).trans (sizeOf_lt_of_mem_children first)
  · exact ((sizeOf_lt_of_mem_children third).trans (sizeOf_lt_of_mem_children second)).trans
      (sizeOf_lt_of_mem_children first)

theorem balanced_stepsList (ns : List Node) (how : Option Binding) :
    Balanced (stepsList package how ns) :=
  Balanced.additive.stepsList fun n _ => n.balanced how

end Syntax.Node

/-! ## What balanced steps leave -/

/-- The node that opens a scope at the step. -/
def Step.entered : Step → List Nat
  | enter _ info _ _ => [info.id]
  | _ => []

/-- The nodes that open the scopes, in order. -/
def enteredNodes (steps : List Step) : List Nat := steps.flatMap Step.entered

namespace Balanced

variable {l : List Step}

/-- Each scope is opened by a node of its own among those that are placed. -/
theorem enteredNodes_le (balanced : Balanced l) :
    (enteredNodes l : Multiset Nat) ≤ placedNodes l := by
  induction balanced with
  | nil => exact le_rfl
  | append _ _ first second =>
    rw [placedNodes_append, enteredNodes, List.flatMap_append, ← Multiset.coe_add,
      ← Multiset.coe_add]
    exact add_le_add first second
  | @flat step flat =>
    cases step with
    | enter => cases flat
    | _ => exact Multiset.zero_le _
  | @scope kind info name body l r _ _ before inside =>
    have entered : enteredNodes (.place info.id :: (l ++ .enter kind info name body ::
        (r ++ [.leave]))) = enteredNodes l ++ info.id :: enteredNodes r := by
      simp [enteredNodes, Step.entered]
    rw [entered, Multiset.coe_eq_coe.mpr List.perm_middle, placedNodes_cons, placedNodes_append,
      placedNodes_cons, placedNodes_append]
    simp only [Step.placed, placedNodes_cons, placedNodes_nil, List.nil_append, List.append_nil,
      List.singleton_append]
    rw [← Multiset.cons_coe, ← Multiset.cons_coe, ← Multiset.coe_add, ← Multiset.coe_add]
    exact Multiset.cons_le_cons info.id (add_le_add before inside)

open ScopeBuilder in
/-- Balanced steps come back to the scope in which they began. -/
theorem run (balanced : Balanced l) (b : ScopeBuilder) :
    ∃ t, l.foldl take b = { b with table := t } := by
  induction balanced generalizing b with
  | nil => exact ⟨b.table, rfl⟩
  | append _ _ first second =>
    obtain ⟨t, ran⟩ := first b
    obtain ⟨t', ran'⟩ := second { b with table := t }
    exact ⟨t', by rw [List.foldl_append, ran, ran']⟩
  | @flat step flat =>
    cases step with
    | enter | leave => cases flat
    | _ => exact ⟨_, rfl⟩
  | scope kind info name body _ _ before inside =>
    obtain ⟨t, ran⟩ := before (b.take (.place info.id))
    obtain ⟨t', ran'⟩ :=
      inside (ScopeBuilder.take { b with table := t } (.enter kind info name body))
    refine ⟨t', ?_⟩
    rw [List.foldl_cons, List.foldl_append, ran, List.foldl_cons, List.foldl_append]
    exact congrArg (ScopeBuilder.take · .leave) ran'

end Balanced

namespace ScopeBuilder

variable {b : ScopeBuilder} {stack : List Nat}

theorem nodes_run (b : ScopeBuilder) (steps : List Step) :
    (steps.foldl take b).table.scopes.toList.map Scope.node =
      b.table.scopes.toList.map Scope.node ++ enteredNodes steps := by
  induction steps generalizing b with
  | nil => exact (List.append_nil _).symm
  | cons step rest ih =>
    have one : (b.take step).table.scopes.toList.map Scope.node =
        b.table.scopes.toList.map Scope.node ++ step.entered := by
      cases step with
      | enter kind info name body => simp [take, Step.entered]
      | leave =>
        rw [take]
        split <;> exact (List.append_nil _).symm
      | place => exact (List.append_nil _).symm
      | bind | declareGlobal | declareNonlocal | star =>
        refine (frames_modify (g := Scope.node) ?_ _ _).trans (List.append_nil _).symm
        exact fun _ => rfl
    rw [List.foldl_cons, ih, one, List.append_assoc]
    rfl

/-- Scopes are nested: around each scope of the table are other scopes of it, each in the next. -/
def Nested (b : ScopeBuilder) : Prop :=
  ∀ k s, b.table.get? k = some s → ∃ hs, b.table.Around (k :: s.outer) hs

theorem start_nested (name : String) (body : List Node) : (start name body).Nested := by
  intro k s found
  have first : k = ScopeTable.moduleScope := by
    have := (Array.getElem?_eq_some_iff.mp found).1
    simpa [start, ScopeTable.moduleScope] using this
  subst first
  cases found
  exact ⟨_, start_within name body⟩

theorem Nested.take (nested : b.Nested) (within : b.Within stack) (step : Step) :
    (b.take step).Nested := by
  intro k s' found
  rcases of_get?_take found with ⟨s, known, rfl⟩ | ⟨rfl, opens⟩
  · obtain ⟨hs, around⟩ := nested k s known
    rw [(frame_change b k s step).2]
    exact ⟨hs, around.mono (keeps_take b step)⟩
  · cases step with
    | enter kind info name body =>
      cases opens
      exact ⟨_, within.take (.enter kind info name body)⟩
    | _ => cases opens

theorem Nested.run (nested : b.Nested) (within : b.Within stack) (steps : List Step) :
    (steps.foldl ScopeBuilder.take b).Nested := by
  induction steps generalizing b stack with
  | nil => exact nested
  | cons step rest ih => exact ih (nested.take within step) (within.take step)

end ScopeBuilder

/-! ## Modules -/

namespace ScopeTable

variable {t : ScopeTable} {k n : Nat} {s : Scope}

/-- A scope is found by its node, if no two scopes are opened by the same node. -/
theorem openedBy?_of_nodup (different : (t.scopes.toList.map Scope.node).Nodup)
    (found : t.get? k = some s) : t.openedBy? s.node = some k := by
  obtain ⟨known, same⟩ := Array.getElem?_eq_some_iff.mp found
  refine Array.findIdx?_eq_some_iff_getElem.mpr ⟨known, by simp [same], fun j before also => ?_⟩
  have apart := List.pairwise_iff_getElem.mp different j k (by simpa using before.trans known)
    (by simpa using known) before
  refine apart ?_
  rw [List.getElem_map, List.getElem_map, Array.getElem_toList, Array.getElem_toList, same]
  exact beq_iff_eq.mp also

/-- The path of a scope is that of the scope around it, and its own name. -/
theorem path_of_around {hs : List Nat} (found : t.get? k = some s)
    (around : t.Around (k :: s.outer) hs) (stands : s.outer.head? = some n) :
    t.path k = t.path n ++ [s.name] ∧ t.path n ≠ [] := by
  obtain ⟨rest, outer⟩ := List.head?_eq_some_iff.mp stands
  rw [outer] at around
  cases around with
  | cons _ _ next =>
    obtain ⟨s', found', outer'⟩ := next.exists_scope
    rw [path, path, found, found']
    simp [outer, outer', found']

end ScopeTable

/-- In a module whose nodes have different numbers, no two scopes are opened by the same node. -/
theorem ScopeTable.nodup_nodes (name package : String) {m : Module}
    (shaped : ∀ n ∈ m.body, Shaped .part n)
    (different : (Module.id :: (Node.preorder m.body).map Node.id).Nodup) :
    ((ofModule name package m).scopes.toList.map Scope.node).Nodup := by
  have balanced : Balanced (Node.stepsList package none m.body) :=
    Node.balanced_stepsList m.body none
  have fewer := balanced.enteredNodes_le.trans (Node.reads_module shaped).placed_le
  rw [Node.nodes, Multiset.map_coe] at fewer
  have nodes : (ofModule name package m).scopes.toList.map Scope.node =
      Module.id :: enteredNodes (Node.stepsList package none m.body) :=
    ScopeBuilder.nodes_run (.start name m.body) _
  rw [nodes]
  exact Multiset.coe_nodup.mp (Multiset.nodup_of_le (Multiset.cons_le_cons Module.id fewer)
    (Multiset.coe_nodup.mpr different))

namespace SourceUnit

variable {u : SourceUnit}

theorem nodup_nodes (read : u.IsRead) : (u.scopes.scopes.toList.map Scope.node).Nodup := by
  obtain ⟨origin, path, identity, source, m, parsed, rfl⟩ := read
  exact ScopeTable.nodup_nodes identity.name identity.package (Module.shaped_of_parse parsed)
    (Module.nodup_ids_of_parse parsed)

/-- Around each scope of a module that was read are other scopes of it, each in the next. -/
theorem exists_around (read : u.IsRead) {k : Nat} {s : Scope} (found : u.scopes.get? k = some s) :
    ∃ hs, u.scopes.Around (k :: s.outer) hs := by
  obtain ⟨origin, path, identity, source, m, parsed, rfl⟩ := read
  exact (ScopeBuilder.start_nested identity.name m.body).run
    (ScopeBuilder.start_within identity.name m.body) _ k s found

end SourceUnit

end Catalog
