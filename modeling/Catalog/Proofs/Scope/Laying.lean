import Catalog.Proofs.Scope.Occurrences
import Catalog.Proofs.Scope.Statements

/-!
# How reading a module follows its layout

`Lays` describes steps by the nodes that they are about: in the scope of which node each of them is
read, and where names are bound. The rules are those of a single node: it is placed, then come
the parts outside of it, the names that it binds, and at last the scope that it opens, between its
opening and its end.

The steps of a tree of the language lay it out as `layout` says, and bind a name at each place that
`occurrences` lists. This needs two things of the trees beyond their shape: an annotation without a
value has a name as its target, and a clause of a comprehension assigns to names only, possibly in
groups.
-/

namespace Catalog

open Syntax

/-- The node is passed over when the nodes around it are read. -/
def Syntax.Node.isPassedOver : Node → Bool
  | .arguments .. | .generator .. | .importAlias .. | .keyword .. => true
  | _ => false

/-- The steps bind the names for the node, wherever the declarations say. -/
inductive Captures (n : Node) : List String → List Step → Prop
  | nil : Captures n [] []
  | bind {names : List String} {steps : List Step} (name : String) (form : BindingForm)
      (more : Captures n names steps) :
      Captures n (name :: names) (.bind false name { form, owner := n } :: steps)
  /-- Everything that a module binds is imported. -/
  | star {names : List String} {steps : List Step} (module : String)
      (more : Captures n names steps) : Captures n names (.star module :: steps)

/-- The steps, taken in the scope of the node with the number `home`, place these nodes in these
scopes, and bind these names for nodes. -/
inductive Lays : Nat → Multiset (Node × Nat) → Multiset (Node × String) → List Step → Prop
  | nil (home : Nat) : Lays home 0 0 []
  | append {home : Nat} {ps qs : Multiset (Node × Nat)} {os os' : Multiset (Node × String)}
      {l r : List Step} (first : Lays home ps os l) (second : Lays home qs os' r) :
      Lays home (ps + qs) (os + os') (l ++ r)
  | skip (home : Nat) {n : Node} (passed : n.isPassedOver = true) : Lays home {(n, home)} 0 []
  | declare (home : Nat) {step : Step} (declares : step.isDeclaration = true) :
      Lays home 0 0 [step]
  /-- A name or a parameter. -/
  | bind (home : Nat) {n : Node} (fixed : Bool) (name : String) {b : Binding} (own : n.BoundBy b)
      (closed : n.scopeKind? = none) :
      Lays home {(n, home)} {(n, name)} [.place n.id, .bind fixed name b]
  | node {home : Nat} {n : Node} {ps qs : Multiset (Node × Nat)}
      {os os' : Multiset (Node × String)} {names : List String} {before caught after : List Step}
      (closed : n.scopeKind? = none) (first : Lays home ps os before)
      (captures : Captures n names caught) (second : Lays home qs os' after) :
      Lays home ({(n, home)} + ps + qs) ((names.map (n, ·) : Multiset (Node × String)) + os + os')
        (.place n.id :: before ++ caught ++ after)
  /-- A node that opens a scope. -/
  | enter {home : Nat} {n : Node} {kind : ScopeKind} {ps qs : Multiset (Node × Nat)}
      {os os' : Multiset (Node × String)} {names : List String} {before caught inner : List Step}
      (opens : n.scopeKind? = some kind) (name : String) (body : List Node)
      (first : Lays home ps os before) (captures : Captures n names caught)
      (second : Lays n.id qs os' inner) :
      Lays home ({(n, home)} + ps + qs) ((names.map (n, ·) : Multiset (Node × String)) + os + os')
        (.place n.id :: before ++ caught ++ .enter kind n.info name body :: inner ++ [.leave])

namespace Lays

variable {home : Nat} {ps : Multiset (Node × Nat)} {os : Multiset (Node × String)} {l : List Step}

theorem of_eq {qs : Multiset (Node × Nat)} {os' : Multiset (Node × String)} {r : List Step}
    (lays : Lays home ps os l) (nodes : ps = qs) (names : os = os') (steps : l = r) :
    Lays home qs os' r := by
  subst nodes names steps
  exact lays

theorem declareAll (home : Nat) {steps : List Step}
    (declare : ∀ step ∈ steps, step.isDeclaration = true) : Lays home 0 0 steps := by
  induction steps with
  | nil => exact .nil home
  | cons step rest ih =>
    obtain ⟨first, declare⟩ := List.forall_mem_cons.mp declare
    exact ((Lays.declare home first).append (ih declare)).of_eq (zero_add 0) (zero_add 0) rfl

theorem skipAll (home : Nat) {ns : List Node} (passed : ∀ n ∈ ns, n.isPassedOver = true) :
    Lays home ((ns : Multiset Node).map (·, home)) 0 [] := by
  induction ns with
  | nil => exact .nil home
  | cons n rest ih =>
    obtain ⟨first, passed⟩ := List.forall_mem_cons.mp passed
    exact ((skip home first).append (ih passed)).of_eq rfl (zero_add 0) rfl

end Lays

namespace Syntax.Node

variable {package : String} {home : Nat} {n : Node} {ns ms : List Node} {l r : List Step}

/-- The steps lay the trees out, in the scope of the node with the number `home`. -/
def LaidOut (home : Nat) (ns : List Node) (l : List Step) : Prop :=
  Lays home (layout home ns) (bound ns) l

theorem LaidOut.nil (home : Nat) : LaidOut home [] [] :=
  (Lays.nil home).of_eq (layout_nil home).symm bound_nil.symm rfl

theorem LaidOut.append (first : LaidOut home ns l) (second : LaidOut home ms r) :
    LaidOut home (ns ++ ms) (l ++ r) :=
  (Lays.append first second).of_eq (layout_append home ns ms).symm (bound_append ns ms).symm rfl

theorem LaidOut.stepsList {how : Option Binding}
    (each : ∀ n ∈ ns, LaidOut home [n] (n.steps package how)) :
    LaidOut home ns (Node.stepsList package how ns) := by
  induction ns with
  | nil =>
    rw [Node.stepsList]
    exact .nil home
  | cons n rest ih =>
    obtain ⟨first, each⟩ := List.forall_mem_cons.mp each
    rw [Node.stepsList]
    exact first.append (ih each)

theorem LaidOut.stepsOption {o : Option Node}
    (each : ∀ n ∈ o.toList, LaidOut home [n] (n.steps package none)) :
    LaidOut home o.toList (Node.stepsOption package o) := by
  cases o with
  | none =>
    rw [Node.stepsOption]
    exact .nil home
  | some n => exact each n (List.mem_singleton_self n)

theorem layout_of_closed (closed : n.scopeKind? = none) (home : Nat) :
    layout home [n] = {(n, home)} + layout home n.children := by
  rw [layout_singleton]
  cases n with
  | lambda | functionDef | classDef | comprehension => cases closed
  | _ => simp [holders, outside, ownParameters, inside]

/-- A node that opens no scope is placed before its parts. The names that it binds may come between
them. -/
theorem LaidOut.node {before caught after : List Step} (closed : n.scopeKind? = none)
    (first : LaidOut home ns before) (captures : Captures n n.boundNames caught)
    (second : LaidOut home ms after) (children : n.children = ns ++ ms)
    (parts : n.bindingParts = n.children) :
    LaidOut home [n] (.place n.id :: before ++ caught ++ after) := by
  refine (Lays.node closed first captures second).of_eq ?_ ?_ rfl
  · rw [layout_of_closed closed, children, layout_append, add_assoc]
  · rw [bound_singleton, parts, children, bound_append, ← add_assoc, ownOccurrences,
      List.flatMap_singleton]

theorem LaidOut.caught {before caught : List Step} (closed : n.scopeKind? = none)
    (whole : n.bindingParts = n.children) (parts : LaidOut home n.children before)
    (captures : Captures n n.boundNames caught) :
    LaidOut home [n] (.place n.id :: before ++ caught) := by
  have laid := LaidOut.node closed parts captures (.nil home) (List.append_nil _).symm whole
  rwa [List.append_nil] at laid

/-- A node that opens and binds nothing is placed, and then its parts are laid out. -/
theorem LaidOut.plain (closed : n.scopeKind? = none) (binds : n.boundNames = [])
    (whole : n.bindingParts = n.children) (parts : LaidOut home n.children l) :
    LaidOut home [n] (.place n.id :: l) := by
  have captures : Captures n n.boundNames [] := by
    rw [binds]
    exact .nil
  have laid := LaidOut.caught closed whole parts captures
  rwa [List.append_nil] at laid

theorem LaidOut.skip (passed : n.isPassedOver = true) (binds : n.boundNames = [])
    (children : n.children = []) : LaidOut home [n] [] := by
  have closed : n.scopeKind? = none := by
    cases n with
    | arguments | generator | importAlias | keyword => rfl
    | _ => cases passed
  have parts : n.bindingParts = [] := by
    cases n with
    | arguments | generator | importAlias | keyword => exact children
    | _ => cases passed
  refine (Lays.skip home passed).of_eq ?_ ?_ rfl
  · rw [layout_of_closed closed, children, layout_nil, add_zero]
  · rw [bound_singleton, parts, ownOccurrences, List.flatMap_singleton, binds, bound_nil]
    rfl

/-- A node that opens a scope is placed, then come the parts outside and the names that it binds,
and then what is inside. -/
theorem LaidOut.opener (home : Nat) {kind : ScopeKind} {before caught inner : List Step}
    {os : Multiset (Node × String)} (opens : n.scopeKind? = some kind) (name : String)
    (body : List Node) (first : LaidOut home n.outside before)
    (captures : Captures n n.boundNames caught)
    (held : ∀ k ∈ n.holders, k.isPassedOver = true)
    (second : Lays n.id ((n.ownParameters : Multiset Node).map (·, n.id) + layout n.id n.inside) os
      inner)
    (split : bound n.children = bound n.outside + os) :
    LaidOut home [n]
      (.place n.id :: before ++ caught ++ .enter kind n.info name body :: inner ++ [.leave]) := by
  have parts : n.bindingParts = n.children := by
    cases n with
    | annAssign => cases opens
    | _ => rfl
  have outer : Lays home _ _ before :=
    ((Lays.skipAll home held).append first).of_eq rfl (zero_add _) (List.nil_append _)
  refine (Lays.enter opens name body outer captures second).of_eq ?_ ?_ rfl
  · rw [layout_singleton]
    abel
  · rw [bound_singleton, parts, split, ← add_assoc, ownOccurrences, List.flatMap_singleton]

/-! ## Conditions on targets -/

/-- The node is a name, or groups other targets. -/
def isNameOrGroup : Node → Bool
  | name .. => true
  | plain _ .starred _ | plain _ .tuple _ | plain _ .list _ => true
  | _ => false

/-- The target of an annotation without a value is a name, and a clause of a comprehension assigns
to names only. -/
structure PlainTargets (ns : List Node) : Prop where
  declared : ∀ info target hint, annAssign info target hint none ∈ preorder ns →
    ∃ inner id context, target = name inner id context
  clauses : ∀ info target iter ifs, generator info target iter ifs ∈ preorder ns →
    ∀ k ∈ preorder [target], k.isNameOrGroup = true

theorem PlainTargets.child {c : Node} (plain : PlainTargets [n]) (part : c ∈ n.children) :
    PlainTargets [c] := by
  have fewer : preorder [c] ⊆ preorder [n] :=
    fun k member => preorder_children_subset n (preorder_subset part member)
  exact ⟨fun info target hint member => plain.declared info target hint (fewer member),
    fun info target iter ifs member => plain.clauses info target iter ifs (fewer member)⟩

/-! ## The forms of nodes -/

/-- How the steps of a node of each category lay it out. -/
def Laid (package : String) : Category → Node → Prop
  | .expression, n => ∀ home how, LaidOut home [n] (n.steps package how)
  | .target context, n =>
    context ≠ .load → ∀ home how, (∀ b ∈ how, n ∈ b.owner.assignedParts) →
      LaidOut home [n] (n.steps package how)
  | .keyword, n =>
    ∀ home, LaidOut home [n] (n.steps package none) ∧ LaidOut home [n] (keywordStep package n)
  | .generator, n =>
    (∃ info target iter ifs, n = generator info target iter ifs) ∧
      (∀ home, LaidOut home (firstIter [n]) (iterStep package n)) ∧
      ∀ home first, LaidOut home (clauseInside first n) (clauseStep package first n)
  | .arguments, n =>
    n.isPassedOver = true ∧
      (∀ home, LaidOut home n.signatureOutside (defaultSteps package n ++ hintSteps package n)) ∧
      (∀ home, Lays home ((n.parameters : Multiset Node).map (·, home))
        (ownOccurrences n.parameters) (parameterSteps n)) ∧
      bound [n] = ownOccurrences n.parameters + bound n.signatureOutside
  | .parameter, n =>
    ∃ info label hint, n = arg info label hint ∧
      ∀ home, LaidOut home n.children (hintStep package n)
  | .imported, n | .member, n => n.isPassedOver = true ∧ n.boundNames = [] ∧ n.children = []
  | .part, n => ∀ home, LaidOut home [n] (n.steps package none)

theorem laid_call {info : Info} {func : Node} {args keywords : List Node}
    (callee : Laid package .expression func) (values : ∀ n ∈ args, Laid package .expression n)
    (named : ∀ n ∈ keywords, Laid package .keyword n) :
    Laid package .expression (call info func args keywords) := by
  intro home how
  have first := callee home none
  have second := LaidOut.stepsList fun n member => values n member home none
  have third := LaidOut.stepsList fun n member => (named n member home).1
  exact LaidOut.plain rfl rfl rfl ((first.append second).append third)

theorem laid_lambda {info : Info} {args body : Node} (parameters : Laid package .arguments args)
    (result : Laid package .expression body) :
    Laid package .expression (lambda info args body) := by
  intro home how
  obtain ⟨held, outer, params, split⟩ := parameters
  have inner := (params info.id).append (result info.id none)
  have laid := LaidOut.opener home (n := lambda info args body) rfl "<lambda>" [body]
    (outer home) .nil (by simpa [holders] using held) inner (by
      rw [children, bound_cons args [body], split, outside]
      abel)
  rw [steps]
  simpa [Node.id, Node.info] using laid

theorem laid_functionDef {info : Info} {async : Bool} {label : String} {args : Node}
    {body decorators : List Node} {returns : Option Node}
    (parameters : Laid package .arguments args)
    (statements : ∀ n ∈ body, Laid package .part n)
    (before : ∀ n ∈ decorators, Laid package .expression n)
    (result : ∀ n ∈ returns.toList, Laid package .expression n) :
    Laid package .part (functionDef info async label args body decorators returns) := by
  intro home
  obtain ⟨held, outer, params, split⟩ := parameters
  have decorators_laid := LaidOut.stepsList fun n member => before n member home none
  have returns_laid := LaidOut.stepsOption fun n member => result n member home none
  have body_laid := LaidOut.stepsList fun n member => statements n member info.id
  have declared : Lays info.id 0 0 (declarations body) :=
    Lays.declareAll info.id isDeclaration_of_mem
  have inner := ((params info.id).append declared).append body_laid
  have laid := LaidOut.opener home (n := functionDef info async label args body decorators returns)
    rfl label body ((decorators_laid.append (outer home)).append returns_laid)
    (.bind label .function .nil) (by simpa [holders] using held)
    (inner.of_eq (by rw [add_zero]; rfl) rfl rfl) (by
      simp only [children, outside, List.cons_append, bound_append]
      rw [bound_cons args (_ ++ _), split]
      simp only [bound_append]
      abel)
  rw [steps]
  simpa [Node.id, Node.info] using laid

theorem laid_keyword {info : Info} {label : Option String} {value : Node}
    (inner : Laid package .expression value) :
    Laid package .keyword (keyword info label value) := by
  intro home
  refine ⟨LaidOut.plain rfl rfl rfl (inner home none), ?_⟩
  have laid := (Lays.skip home (n := keyword info label value) rfl).append (inner home none)
  refine laid.of_eq (layout_of_closed rfl home).symm ?_ rfl
  rw [zero_add, bound_of_boundNames_eq_nil (n := keyword info label value) rfl rfl, children]

theorem laid_keywordSteps {keywords : List Node} (named : ∀ n ∈ keywords, Laid package .keyword n) :
    LaidOut home keywords (keywordSteps package keywords) := by
  induction keywords with
  | nil =>
    rw [keywordSteps]
    exact .nil home
  | cons n rest ih =>
    obtain ⟨first, named⟩ := List.forall_mem_cons.mp named
    rw [keywordSteps]
    exact (first home).2.append (ih named)

theorem laid_classDef {info : Info} {label : String} {bases keywords body decorators : List Node}
    (values : ∀ n ∈ bases, Laid package .expression n)
    (named : ∀ n ∈ keywords, Laid package .keyword n)
    (statements : ∀ n ∈ body, Laid package .part n)
    (before : ∀ n ∈ decorators, Laid package .expression n) :
    Laid package .part (classDef info label bases keywords body decorators) := by
  intro home
  have decorators_laid := LaidOut.stepsList fun n member => before n member home none
  have bases_laid := LaidOut.stepsList fun n member => values n member home none
  have body_laid := LaidOut.stepsList fun n member => statements n member info.id
  have declared : Lays info.id 0 0 (declarations body) :=
    Lays.declareAll info.id isDeclaration_of_mem
  have laid := LaidOut.opener home (n := classDef info label bases keywords body decorators)
    rfl label body ((decorators_laid.append bases_laid).append (laid_keywordSteps named))
    (.bind label .classDef .nil) (by simp [holders])
    ((declared.append body_laid).of_eq rfl (zero_add _) rfl) (by
      simp only [children, outside, bound_append]
      abel)
  rw [steps]
  simpa [Node.id, Node.info] using laid

/-! ### Comprehensions -/

/-- All nodes of a tree without scopes are laid out where the tree stands. -/
theorem layout_of_allClosed (home : Nat) {ns : List Node}
    (closed : ∀ n ∈ preorder ns, n.scopeKind? = none) :
    layout home ns = (nodes ns).map (·, home) := by
  match ns with
  | [] => simp
  | n :: rest =>
    rw [preorder_cons] at closed
    obtain ⟨first, others⟩ := List.forall_mem_cons.mp closed
    have smaller := layout_of_allClosed home others
    rw [layout_append, nodes_append, Multiset.map_add] at smaller
    rw [layout_cons, layout_of_closed first, add_assoc, smaller, nodes_cons, nodes_singleton,
      Multiset.map_add, Multiset.map_add, Multiset.map_singleton, add_assoc]
termination_by totalSize ns
decreasing_by simp [size_eq_totalSize]

/-- The names in the target of a clause are bound in the comprehension. -/
theorem lays_clauseTargetSteps {owner : Node} {ns : List Node}
    (closed : ∀ n ∈ ns, n.isNameOrGroup = true) (kept : ∀ info id, name info id .del ∉ ns)
    (owned : ∀ n ∈ ns, n ∈ preorder owner.assignedParts) :
    Lays home ((ns : Multiset Node).map (·, home)) (ownOccurrences ns)
      (ns.flatMap fun n =>
        match n with
        | name info id .store => [.place info.id, .bind true id { form := .other, owner }]
        | n => [.place n.id]) := by
  induction ns with
  | nil => exact .nil home
  | cons n rest ih =>
    obtain ⟨group, closed⟩ := List.forall_mem_cons.mp closed
    obtain ⟨own, owned⟩ := List.forall_mem_cons.mp owned
    have more := ih closed (fun info id member => kept info id (List.mem_cons_of_mem n member))
      owned
    rw [List.flatMap_cons, ← Multiset.cons_coe, ← Multiset.singleton_add, Multiset.map_add,
      Multiset.map_singleton, ownOccurrences_cons]
    refine Lays.append ?_ more
    have placed {k : Node} (free : k.scopeKind? = none) (unbound : k.boundNames = []) :
        Lays home {(k, home)} (ownOccurrences [k]) [.place k.id] := by
      refine (Lays.node free (.nil home) .nil (.nil home)).of_eq ?_ ?_ rfl
      · rw [add_zero, add_zero]
      · rw [ownOccurrences, List.flatMap_singleton, unbound]
        rfl
    cases n with
    | name info id context =>
      cases context with
      | load => exact placed rfl rfl
      | store => exact .bind home true id (.inr own) rfl
      | del => exact absurd List.mem_cons_self (kept info id)
    | plain info kind parts => exact placed rfl rfl
    | _ => cases group

theorem bound_of_isNameOrGroup {ns : List Node}
    (closed : ∀ n ∈ preorder ns, n.isNameOrGroup = true) :
    bound ns = ownOccurrences (preorder ns) := by
  match ns with
  | [] => simp [preorder]
  | n :: rest =>
    rw [preorder_cons] at closed ⊢
    obtain ⟨first, others⟩ := List.forall_mem_cons.mp closed
    have parts : n.bindingParts = n.children := by
      cases n with
      | annAssign => cases first
      | _ => rfl
    have smaller := bound_of_isNameOrGroup others
    rw [bound_append] at smaller
    rw [bound_cons, bound_singleton, parts, ownOccurrences_cons n (preorder _), ← smaller,
      add_assoc]
termination_by totalSize ns
decreasing_by simp [size_eq_totalSize]

theorem laid_generator {info : Info} {target iter : Node} {ifs : List Node}
    (bound : Shaped (.target .store) target)
    (plain : ∀ k ∈ preorder [target], k.isNameOrGroup = true)
    (iterable : Laid package .expression iter)
    (conditions : ∀ n ∈ ifs, Laid package .expression n) :
    Laid package .generator (generator info target iter ifs) := by
  have targets (home : Nat) : LaidOut home [target]
      (clauseTargetSteps (generator info target iter ifs) target) := by
    have owned : ∀ n ∈ preorder [target],
        n ∈ preorder (generator info target iter ifs).assignedParts := fun n member => member
    refine (lays_clauseTargetSteps plain (bound.deleted_not_mem rfl) owned).of_eq ?_
      (bound_of_isNameOrGroup plain).symm rfl
    refine (layout_of_allClosed home fun k member => ?_).symm
    have group := plain k member
    cases k with
    | name | plain => rfl
    | _ => cases group
  have conditions (home : Nat) := LaidOut.stepsList fun n member => conditions n member home none
  refine ⟨⟨info, target, iter, ifs, rfl⟩, fun home => iterable home none, fun home first => ?_⟩
  cases first with
  | true => exact (targets home).append (conditions home)
  | false =>
    have clause := (iterable home none).append ((targets home).append (conditions home))
    rw [clauseStep]
    refine Lays.of_eq clause ?_ ?_ (by simp)
    · simp only [clauseInside, Bool.false_eq_true, if_false, List.cons_append, List.nil_append]
      rw [layout_cons home iter (target :: ifs), layout_cons home target ifs,
        layout_cons home target (iter :: ifs), layout_cons home iter ifs]
      abel
    · simp only [clauseInside, Bool.false_eq_true, if_false, List.cons_append, List.nil_append]
      rw [bound_cons iter (target :: ifs), bound_cons target ifs, bound_cons target (iter :: ifs),
        bound_cons iter ifs]
      abel

theorem laid_clauseSteps (first : Bool) {generators : List Node}
    (clauses : ∀ n ∈ generators, Laid package .generator n) :
    LaidOut home (clausesInside first generators) (clauseSteps package first generators) := by
  induction generators generalizing first with
  | nil =>
    rw [clauseSteps, clausesInside]
    exact .nil home
  | cons n rest ih =>
    obtain ⟨⟨-, -, clause⟩, clauses⟩ := List.forall_mem_cons.mp clauses
    rw [clauseSteps, clausesInside]
    exact (clause home first).append (ih false clauses)

theorem laid_firstIterSteps {generators : List Node}
    (clauses : ∀ n ∈ generators, Laid package .generator n) :
    LaidOut home (firstIter generators) (firstIterSteps package generators) := by
  cases generators with
  | nil =>
    rw [firstIterSteps]
    exact .nil home
  | cons n rest =>
    obtain ⟨⟨⟨info, target, iter, ifs, rfl⟩, iterable, -⟩, -⟩ := List.forall_mem_cons.mp clauses
    exact iterable home

theorem laid_comprehension {info : Info} {kind : ComprehensionKind}
    {elements generators : List Node} (values : ∀ n ∈ elements, Laid package .expression n)
    (clauses : ∀ n ∈ generators, Laid package .generator n) :
    Laid package .expression (comprehension info kind elements generators) := by
  intro home how
  have forms : ∀ n ∈ generators, ∃ info target iter ifs, n = generator info target iter ifs :=
    fun n member => (clauses n member).1
  have elements_laid := LaidOut.stepsList fun n member => values n member info.id none
  have inner : Lays info.id _ _ _ := LaidOut.append (laid_clauseSteps true clauses)
    elements_laid
  have laid := LaidOut.opener home (n := comprehension info kind elements generators) rfl
    "<comprehension>" [] (laid_firstIterSteps clauses) .nil
    (fun k member => by
      obtain ⟨_, _, _, _, rfl⟩ := forms k member
      rfl)
    (inner.of_eq (by
      simp only [ownParameters, inside, layout_append, Multiset.coe_nil, Multiset.map_zero,
        zero_add]
      rw [add_comm]
      rfl) rfl rfl) (by
      rw [children, bound_append, bound_clausesInside true forms, outside, bound_append,
        if_pos rfl]
      abel)
  rw [steps]
  simpa [Node.id, Node.info] using laid

/-! ### Signatures -/

theorem laid_parameter {info : Info} {label : String} {hint : Option Node}
    (inner : ∀ n ∈ hint.toList, Laid package .expression n) :
    Laid package .parameter (arg info label hint) := by
  refine ⟨info, label, hint, rfl, fun home => ?_⟩
  rw [hintStep]
  exact LaidOut.stepsOption fun n member => inner n member home none

theorem laid_hintList {params : List Node} (each : ∀ n ∈ params, Laid package .parameter n) :
    LaidOut home (params.flatMap children) (hintList package params) := by
  induction params with
  | nil =>
    rw [hintList]
    exact .nil home
  | cons n rest ih =>
    obtain ⟨⟨info, label, hint, rfl, first⟩, others⟩ := List.forall_mem_cons.mp each
    rw [hintList, List.flatMap_cons]
    exact (first home).append (ih others)

theorem lays_parameterSteps {params : List Node}
    (each : ∀ n ∈ params, ∃ info label hint, n = arg info label hint) :
    Lays home ((params : Multiset Node).map (·, home)) (ownOccurrences params)
      (params.flatMap parameterStep) := by
  induction params with
  | nil => exact .nil home
  | cons n rest ih =>
    obtain ⟨⟨info, label, hint, rfl⟩, others⟩ := List.forall_mem_cons.mp each
    have first : Lays home {(arg info label hint, home)} {(arg info label hint, label)}
        (parameterStep (arg info label hint)) :=
      .bind home true label (.inl rfl) rfl
    rw [ownOccurrences_cons]
    exact first.append (ih others)

theorem laid_arguments {info : Info} {posonly args kwonly kwDefaults defaults : List Node}
    {vararg kwarg : Option Node}
    (parameters : ∀ n ∈ posonly ++ args ++ kwonly ++ vararg.toList ++ kwarg.toList,
      Laid package .parameter n)
    (values : ∀ n ∈ defaults ++ kwDefaults, Laid package .expression n) :
    Laid package .arguments
      (arguments info posonly args vararg kwonly kwDefaults kwarg defaults) := by
  have forms : ∀ n ∈ posonly ++ args ++ kwonly ++ vararg.toList ++ kwarg.toList,
      ∃ info label hint, n = arg info label hint := by
    intro n member
    obtain ⟨info, label, hint, same, -⟩ := parameters n member
    exact ⟨info, label, hint, same⟩
  refine ⟨rfl, fun home => ?_, fun home => lays_parameterSteps forms, ?_⟩
  · have defaults_laid := LaidOut.stepsList fun n member => values n member home none
    rw [defaultSteps, ← stepsList_append, hintSteps, hintOption_eq, hintOption_eq,
      ← hintList_append, ← hintList_append, ← hintList_append, ← hintList_append]
    exact defaults_laid.append (laid_hintList parameters)
  · have split := bound_parameters forms
    rw [bound_of_boundNames_eq_nil rfl rfl, signatureOutside, bound_append, Node.parameters,
      add_left_comm, ← split]
    simp only [children, bound_append]
    abel

/-! ### Targets and statements -/

theorem laid_bound (info : Info) (id : String) (context : Context) :
    Laid package (.target context) (name info id context) := by
  intro changes home how assigned
  have own : (name info id context).BoundBy
      (how.getD { form := .other, owner := name info id context }) := by
    cases how with
    | none => exact .inl rfl
    | some b => exact .inr (preorder_subset (assigned b rfl) (mem_preorder_self _))
  cases context with
  | load => exact absurd rfl changes
  | store | del =>
    refine (Lays.bind home false id own rfl).of_eq ?_ ?_ rfl
    · rw [layout_of_closed rfl, children, layout_nil, add_zero]
    · rw [bound_singleton, bindingParts, children, bound_nil, add_zero]
      · rfl
      · rintro _ _ _ ⟨⟩

theorem laid_annAssign {info : Info} {target hint : Node} {value : Option Node}
    (plain : value = none → ∃ inner id context, target = name inner id context)
    (bound : Laid package (.target .store) target) (hinted : Laid package .expression hint)
    (assigned : ∀ n ∈ value.toList, Laid package .expression n) :
    Laid package .part (annAssign info target hint value) := by
  intro home
  have hint_laid := hinted home none
  cases value with
  | none =>
    obtain ⟨inner, id, context, rfl⟩ := plain rfl
    have target_laid : Lays home {(name inner id context, home)} 0 [.place inner.id] := by
      refine (Lays.node (n := name inner id context) rfl (.nil home) .nil (.nil home)).of_eq ?_ ?_
        rfl
      · rw [add_zero, add_zero]
      · rfl
    refine (Lays.node (n := annAssign info (name inner id context) hint none) rfl hint_laid .nil
      target_laid).of_eq ?_ ?_ ?_
    · rw [layout_of_closed (n := annAssign info (name inner id context) hint none) rfl, children,
        Option.toList_none, layout_cons home _ [hint],
        layout_of_closed (n := name inner id context) rfl]
      simp only [children, layout_nil]
      abel
    · rw [bound_singleton (annAssign info (name inner id context) hint none), add_zero]
      rfl
    · rw [steps]
      simp [Node.id, Node.info]
  | some value =>
    have value_laid := assigned value (by simp) home none
    have target_laid := bound (by simp) home
      (some { form := .assigned value, owner := annAssign info target hint (some value) })
      (by simp [assignedParts])
    have parts := (hint_laid.append value_laid).append target_laid
    refine LaidOut.plain rfl rfl rfl (Lays.of_eq parts ?_ ?_ rfl)
    · simp only [children, Option.toList_some]
      rw [layout_append, layout_append, layout_cons home target [hint, value],
        layout_cons home hint [value]]
      abel
    · simp only [children, Option.toList_some]
      rw [bound_append, bound_append, bound_cons target [hint, value], bound_cons hint [value]]
      abel

theorem laid_assign {info : Info} {targets : List Node} {value : Node}
    (bound : ∀ n ∈ targets, Laid package (.target .store) n)
    (assigned : Laid package .expression value) :
    Laid package .part (assign info targets value) := by
  intro home
  have targets_laid := LaidOut.stepsList fun n member => bound n member (by simp) home
    (some { form := .assigned value, owner := assign info targets value })
    (by simpa [assignedParts] using member)
  have parts := (assigned home none).append targets_laid
  refine LaidOut.plain rfl rfl rfl (Lays.of_eq parts ?_ ?_ rfl)
  · rw [children, layout_append, layout_append, add_comm]
  · rw [children, bound_append, bound_append, add_comm]

theorem captures_captureStep (n : Node) (label : Option String) :
    Captures n label.toList (captureStep n label) := by
  cases label with
  | none => exact .nil
  | some label => exact .bind label .other .nil

theorem captures_importStep (owner : Node) {names : List Node} :
    Captures owner (names.flatMap importedName) (names.flatMap (importStep owner)) := by
  induction names with
  | nil => exact .nil
  | cons n rest ih =>
    rw [List.flatMap_cons, List.flatMap_cons]
    cases n with
    | importAlias info label asName =>
      cases asName with
      | none => exact .bind _ _ ih
      | some asName => exact .bind _ _ ih
    | _ => exact ih

theorem captures_importFromStep (owner : Node) (module : Option String) {names : List Node} :
    Captures owner (names.flatMap importedMember)
      (names.flatMap (importFromStep owner module)) := by
  induction names with
  | nil => exact .nil
  | cons n rest ih =>
    rw [List.flatMap_cons, List.flatMap_cons]
    cases n with
    | importAlias info label asName =>
      by_cases all : (label == "*") = true
      · simp only [importedMember, importFromStep, all, if_true]
        cases module with
        | none => exact ih
        | some m => exact .star m ih
      · simp only [importedMember, importFromStep, all]
        exact .bind _ _ ih
    | _ => exact ih

/-- Imports bind names for the whole statement. -/
theorem laid_imports {names : List Node} {caught : List Step} (closed : n.scopeKind? = none)
    (named : ∀ n ∈ names, Laid package .imported n) (children : n.children = names)
    (parts : n.bindingParts = n.children) (captures : Captures n n.boundNames caught)
    (steps_eq : n.steps package none = .place n.id :: caught) : Laid package .part n := by
  intro home
  have skipped : LaidOut home names [] := by
    have each : ∀ k ∈ names, LaidOut home [k] [] := by
      intro k member
      obtain ⟨passed, binds, free⟩ := named k member
      exact LaidOut.skip passed binds free
    clear named children
    induction names with
    | nil => exact .nil home
    | cons k rest ih =>
      obtain ⟨first, each⟩ := List.forall_mem_cons.mp each
      exact first.append (ih each)
  have laid := LaidOut.node closed (.nil home) captures skipped children parts
  rw [steps_eq]
  simpa using laid

/-! ### All forms -/

/-- The steps of a tree of the language lay it out. -/
theorem laid_of_shaped {c : Category} {n : Node} (shaped : Shaped c n) (plain : PlainTargets [n]) :
    Laid package c n := by
  induction shaped with
  | load => exact fun home how => LaidOut.plain rfl rfl rfl (.nil home)
  | attr _ ih =>
    have inner := ih (plain.child (by simp [children]))
    exact fun home how => LaidOut.plain rfl rfl rfl (inner home none)
  | constant => exact fun home how => LaidOut.plain rfl rfl rfl (.nil home)
  | call _ _ _ callee values named =>
    exact laid_call (callee (plain.child (by simp [children])))
      (fun n member => values n member (plain.child (by simp [children, member])))
      (fun n member => named n member (plain.child (by simp [children, member])))
  | binOp _ _ first second =>
    have first := first (plain.child (by simp [children]))
    have second := second (plain.child (by simp [children]))
    intro home how
    exact LaidOut.plain rfl rfl rfl ((first home none).append (second home none))
  | lambda _ _ parameters result =>
    exact laid_lambda (parameters (plain.child (by simp [children])))
      (result (plain.child (by simp [children])))
  | comprehension _ _ values clauses =>
    exact laid_comprehension
      (fun n member => values n member (plain.child (by simp [children, member])))
      (fun n member => clauses n member (plain.child (by simp [children, member])))
  | @named info inner id value _ _ ih =>
    have value_laid := ih (plain.child (by simp [children]))
    have target_laid : Laid package (.target .store) (name inner id .store) :=
      laid_bound inner id .store
    intro home how
    refine LaidOut.plain rfl rfl rfl (LaidOut.stepsList ?_)
    exact List.forall_mem_cons.mpr ⟨target_laid (by simp) home none (by simp),
      List.forall_mem_singleton.mpr (value_laid home none)⟩
  | compound _ ih =>
    intro home how
    exact LaidOut.plain rfl rfl rfl (LaidOut.stepsList fun n member =>
      ih n member (plain.child member) home none)
  | keyword _ ih => exact laid_keyword (ih (plain.child (by simp [children])))
  | @generator info target iter ifs bound _ _ _ iterable conditions =>
    exact laid_generator bound (plain.clauses info target iter ifs (mem_preorder_self _))
      (iterable (plain.child (by simp [children])))
      (fun n member => conditions n member (plain.child (by simp [children, member])))
  | arguments _ _ parameters values =>
    refine laid_arguments (fun n member => parameters n member (plain.child ?_))
      (fun n member => values n member (plain.child ?_))
    · simp only [children, List.mem_append] at member ⊢
      grind
    · simp only [children, List.mem_append] at member ⊢
      grind
  | parameter _ _ ih => exact laid_parameter fun n member => ih n member (plain.child member)
  | imported | member => exact ⟨rfl, rfl, rfl⟩
  | bound info context => exact laid_bound info _ context
  | boundAttr _ ih =>
    have inner := ih (plain.child (by simp [children]))
    exact fun _ home how _ => LaidOut.plain rfl rfl rfl (inner home none)
  | subscript _ ih =>
    intro _ home how _
    exact LaidOut.plain rfl rfl rfl (LaidOut.stepsList fun n member =>
      ih n member (plain.child member) home none)
  | group _ ih =>
    intro changes home how _
    exact LaidOut.plain rfl rfl rfl (LaidOut.stepsList fun n member =>
      ih n member (plain.child member) changes home none (by simp))
  | ofExpression _ ih => exact fun home => ih plain home none
  | ofTarget changes _ ih => exact fun home => ih plain changes home none (by simp)
  | functionDef _ _ _ _ _ parameters statements before result =>
    exact laid_functionDef (parameters (plain.child (by simp [children])))
      (fun n member => statements n member (plain.child (by simp [children, member])))
      (fun n member => before n member (plain.child (by simp [children, member])))
      (fun n member => result n member
        (plain.child (by simp only [children, List.mem_append, member, or_true])))
  | classDef _ _ _ _ _ values named statements before =>
    exact laid_classDef
      (fun n member => values n member (plain.child (by simp [children, member])))
      (fun n member => named n member (plain.child (by simp [children, member])))
      (fun n member => statements n member (plain.child (by simp [children, member])))
      (fun n member => before n member (plain.child (by simp [children, member])))
  | assign _ _ bound assigned =>
    exact laid_assign (fun n member => bound n member (plain.child (by simp [children, member])))
      (assigned (plain.child (by simp [children])))
  | @annAssign info target hint value _ _ _ bound hinted assigned =>
    refine laid_annAssign ?_ (bound (plain.child (by simp [children])))
      (hinted (plain.child (by simp [children])))
      (fun n member => assigned n member
        (plain.child (by simp only [children, List.mem_cons, member, or_true])))
    rintro rfl
    exact plain.declared info target hint (mem_preorder_self _)
  | importModules _ ih =>
    exact laid_imports rfl (fun n member => ih n member (plain.child member)) rfl rfl
      (captures_importStep _) rfl
  | importFrom _ _ ih =>
    exact laid_imports rfl (fun n member => ih n member (plain.child member)) rfl rfl
      (captures_importFromStep _ _) rfl
  | globalNames info names =>
    intro home
    have declared := Lays.declare home (rfl : (Step.declareGlobal names).isDeclaration = true)
    exact LaidOut.plain rfl rfl rfl (declared.of_eq (layout_nil home).symm bound_nil.symm rfl)
  | nonlocalNames info names =>
    intro home
    have declared := Lays.declare home (rfl : (Step.declareNonlocal names).isDeclaration = true)
    exact LaidOut.plain rfl rfl rfl (declared.of_eq (layout_nil home).symm bound_nil.symm rfl)
  | exceptHandler _ _ _ caught statements =>
    intro home
    have type_laid := LaidOut.stepsOption fun n member => caught n member
      (plain.child (by simp only [children, List.mem_append, member, true_or])) home none
    have body_laid := LaidOut.stepsList fun n member =>
      statements n member (plain.child (by simp [children, member])) home
    exact LaidOut.node rfl type_laid (captures_captureStep _ _) body_laid rfl rfl
  | matchAs _ _ ih =>
    intro home
    have pattern_laid := LaidOut.stepsOption fun n member => ih n member (plain.child member) home
    exact LaidOut.caught rfl rfl pattern_laid (captures_captureStep _ _)
  | @matchStar info label =>
    intro home
    exact LaidOut.caught (n := .matchStar info label) rfl rfl (.nil home)
      (captures_captureStep _ _)
  | matchMapping _ _ _ values patterns =>
    intro home
    have keys_laid := LaidOut.stepsList fun n member =>
      values n member (plain.child (by simp [children, member])) home none
    have patterns_laid := LaidOut.stepsList fun n member =>
      patterns n member (plain.child (by simp [children, member])) home
    exact LaidOut.caught rfl rfl (keys_laid.append patterns_laid) (captures_captureStep _ _)
  | block _ ih =>
    intro home
    exact LaidOut.plain rfl rfl rfl (LaidOut.stepsList fun n member =>
      ih n member (plain.child member) home)

/-- The steps of the statements of a module lay them out. -/
theorem laidOut_module {body : List Node} (shaped : ∀ n ∈ body, Shaped .part n)
    (plain : PlainTargets body) :
    LaidOut Module.id body (Node.stepsList package none body) := by
  refine LaidOut.stepsList fun n member => ?_
  have fewer := preorder_subset member
  have own : PlainTargets [n] :=
    ⟨fun info target hint member => plain.declared info target hint (fewer member),
      fun info target iter ifs member => plain.clauses info target iter ifs (fewer member)⟩
  exact laid_of_shaped (shaped n member) own Module.id

end Syntax.Node

end Catalog
