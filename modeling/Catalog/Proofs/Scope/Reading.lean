import Catalog.Proofs.Syntax.Shape
import Catalog.Scope.Steps
import Mathlib.Algebra.Order.Group.Multiset
import Mathlib.Tactic.Abel

/-!
# How a module is read for its names

`Reads` describes the steps of a tree of the language without its forms: which nodes are placed in
which scope, which of them are bound there, and that the steps of an inner scope stand between its
opening and its end. Inside of a scope that has declarations these come first, so that all other
steps of the scope find them.

The description leaves two things open, and both are those of the whole module: what an assignment
without a value leaves out, and which definitions there are.
-/

namespace Catalog

open Syntax

namespace Syntax.Node

/-- The node is a name that is stored or deleted. -/
def IsBound (n : Node) : Prop :=
  ∃ info id context, n = .name info id context ∧ context ≠ .load

/-- The node is an assignment inside an expression. -/
def IsNamed (n : Node) : Prop :=
  ∃ info parts, n = .plain info .namedExpr parts

/-- The node is a function or a class. -/
def isDefinition : Node → Bool
  | functionDef .. => true
  | classDef .. => true
  | _ => false

/-- The node stands in the target of an assignment without a value. -/
def Bare (all : List Node) (n : Node) : Prop :=
  ∃ info target hint, annAssign info target hint none ∈ all ∧ n ∈ preorder [target]

/-- No assignment stands in an expression inside of a comprehension. -/
def Tame (all : List Node) : Prop :=
  ∀ info kind elements generators, comprehension info kind elements generators ∈ all →
    ∀ n ∈ preorder [comprehension info kind elements generators], ¬ n.IsNamed

end Syntax.Node

/-- A definition that binds is one of the given nodes. -/
def Binding.Owned (all : List Node) (b : Binding) : Prop :=
  b.form.isDeclaration = true → b.owner ∈ all ∧ b.owner.isDefinition = true

/-- The step declares names. -/
def Step.isDeclaration : Step → Bool
  | declareGlobal _ => true
  | declareNonlocal _ => true
  | _ => false

/-- A scope under reading: its kind, and the declarations that hold in it. In a module they hold
from where they stand. -/
structure Frame where
  kind : ScopeKind
  declared : List Step := []

/-- The steps read the nodes in a scope. -/
inductive Reads (all : List Node) : Frame → Multiset Node → List Step → Prop
  | nil (f : Frame) : Reads all f 0 []
  | append {f : Frame} {ns ms : Multiset Node} {l r : List Step} (first : Reads all f ns l)
      (second : Reads all f ms r) : Reads all f (ns + ms) (l ++ r)
  /-- A node that is passed over. -/
  | skip (f : Frame) (n : Node) (unbound : n.IsBound → n.Bare all) : Reads all f {n} []
  | place (f : Frame) (n : Node) (unbound : n.IsBound → n.Bare all) :
      Reads all f {n} [.place n.id]
  | bind {f : Frame} (info : Info) (id : String) (context : Context) {b : Binding}
      (loose : Node.Tame all → f.kind ≠ .comprehension) (owned : b.Owned all) :
      Reads all f {.name info id context} [.place info.id, .bind false id b]
  /-- A name in the target of a comprehension's clause. -/
  | clause {f : Frame} (info : Info) (id : String) (context : Context) {b : Binding}
      (inside : f.kind = .comprehension) (free : f.declared = []) (owned : b.Owned all) :
      Reads all f {.name info id context} [.place info.id, .bind true id b]
  /-- A name that is bound without a node of its own. -/
  | capture {f : Frame} (label : String) {b : Binding} (loose : f.kind ≠ .comprehension)
      (owned : b.Owned all) : Reads all f 0 [.bind false label b]
  | declare {f : Frame} {step : Step} (declares : step.isDeclaration = true)
      (known : f.kind = .module ∨ step ∈ f.declared) : Reads all f 0 [step]
  | star (f : Frame) (module : String) : Reads all f 0 [.star module]
  | enter {f inner : Frame} {ns : Multiset Node} {l : List Step} (info : Info) (name : String)
      (body params : List Node) (nested : inner.kind ≠ .module)
      (declares : ∀ step ∈ inner.declared, step.isDeclaration = true)
      (parameters : ∀ n ∈ params, ∃ info label hint, n = .arg info label hint)
      (read : Reads all inner ns l) :
      Reads all f (params + ns) (.enter inner.kind info name body ::
        params.flatMap Node.parameterStep ++ inner.declared ++ l ++ [.leave])

namespace Syntax.Node

/-! ## Declarations -/

/-- What a node itself declares. -/
def ownDeclarations : Node → List Step
  | globalNames _ names => [.declareGlobal names]
  | nonlocalNames _ names => [.declareNonlocal names]
  | _ => []

theorem declarations_cons (n : Node) (rest : List Node) :
    declarations (n :: rest) = n.ownDeclarations ++ declarations (n.ownParts ++ rest) := by
  rw [declarations.eq_def]
  cases n <;> rfl

theorem declarations_append (a b : List Node) :
    declarations (a ++ b) = declarations a ++ declarations b := by
  match a with
  | [] => simp [declarations]
  | n :: rest =>
    rw [List.cons_append, declarations_cons, declarations_cons, ← List.append_assoc,
      declarations_append (n.ownParts ++ rest) b, List.append_assoc]
termination_by totalSize a
decreasing_by
  have := totalSize_ownParts n
  simp
  omega

theorem declarations_subset {n : Node} {ns : List Node} (member : n ∈ ns) :
    declarations [n] ⊆ declarations ns := by
  obtain ⟨before, after, rfl⟩ := List.append_of_mem member
  rw [declarations_append, show n :: after = [n] ++ after from rfl, declarations_append]
  exact List.subset_append_of_subset_right _ (List.subset_append_left _ _)

theorem declarations_ownParts (n : Node) : declarations n.ownParts ⊆ declarations [n] := by
  rw [declarations_cons, List.append_nil]
  exact List.subset_append_right _ _

theorem isDeclaration_of_mem {ns : List Node} :
    ∀ step ∈ declarations ns, step.isDeclaration = true := by
  match ns with
  | [] => simp [declarations]
  | n :: rest =>
    rw [declarations_cons]
    refine List.forall_mem_append.mpr ⟨?_, isDeclaration_of_mem⟩
    cases n <;> simp [ownDeclarations, Step.isDeclaration]
termination_by totalSize ns
decreasing_by
  have := totalSize_ownParts n
  simp
  omega

end Syntax.Node

/-! ## The steps of a tree -/

namespace Reads

variable {package : String} {all : List Node} {f : Frame}

/-- The nodes may be named in another way. -/
theorem of_eq {ns ms : Multiset Node} {l : List Step} (read : Reads all f ns l) (same : ns = ms) :
    Reads all f ms l :=
  same ▸ read

theorem stepsList {how : Option Binding} {ns : List Node}
    (each : ∀ n ∈ ns, Reads all f (Node.nodes [n]) (n.steps package how)) :
    Reads all f (Node.nodes ns) (Node.stepsList package how ns) := by
  induction ns with
  | nil =>
    rw [Node.stepsList, Node.nodes_nil]
    exact .nil f
  | cons n rest ih =>
    obtain ⟨first, each⟩ := List.forall_mem_cons.mp each
    rw [Node.stepsList, Node.nodes_cons]
    exact first.append (ih each)

theorem stepsOption {o : Option Node}
    (each : ∀ n ∈ o.toList, Reads all f (Node.nodes [n]) (n.steps package none)) :
    Reads all f (Node.nodes o.toList) (Node.stepsOption package o) := by
  cases o with
  | none =>
    rw [Node.stepsOption, Option.toList_none, Node.nodes_nil]
    exact .nil f
  | some n => exact each n (List.mem_singleton_self n)

/-- A node that is placed, and then its parts are read. -/
theorem node {n : Node} {l : List Step} (free : ¬ n.IsBound)
    (parts : Reads all f (Node.nodes n.children) l) :
    Reads all f (Node.nodes [n]) (.place n.id :: l) := by
  rw [Node.nodes_singleton]
  exact (place f n fun bound => absurd bound free).append parts

end Reads

namespace Syntax.Node

/-- Nothing is assigned inside of the expression if it stands in a comprehension. -/
def Quiet (all : List Node) (f : Frame) (n : Node) : Prop :=
  Tame all → f.kind = .comprehension → ∀ k ∈ preorder [n], ¬ k.IsNamed

/-- All declarations of the statement are known. -/
def Covered (f : Frame) (n : Node) : Prop :=
  f.kind = .module ∨ declarations [n] ⊆ f.declared

/-- How the steps of a node of each category read its nodes. A clause is read in two scopes: its
iterable may belong to the scope around. So are the parameters of a function: their defaults and
hints belong to the scope around. -/
def Readable (package : String) (all : List Node) : Category → Node → Prop
  | .expression, n =>
    ∀ f how, n.Quiet all f → Reads all f (nodes [n]) (n.steps package how)
  | .target context, n =>
    context ≠ .load → ∀ f how, f.kind ≠ .comprehension →
      (∀ b ∈ how, b.form.isDeclaration = false) → Reads all f (nodes [n]) (n.steps package how)
  | .keyword, n =>
    ∀ f, n.Quiet all f →
      Reads all f (nodes [n]) (n.steps package none) ∧
      Reads all f (nodes [n]) (keywordStep package n)
  | .generator, n =>
    ∃ own iter, nodes [n] = own + iter ∧
      (∀ f, n.Quiet all f → Reads all f iter (iterStep package n)) ∧
      ∀ f, f.kind = .comprehension → f.declared = [] → n.Quiet all f →
        Reads all f own (clauseStep package true n) ∧
        Reads all f (own + iter) (clauseStep package false n)
  | .arguments, n =>
    ∃ (params : List Node) (outside : Multiset Node), nodes [n] = params + outside ∧
      (∀ p ∈ params, ∃ info label hint, p = .arg info label hint) ∧
      parameterSteps n = params.flatMap parameterStep ∧
      ∀ f, n.Quiet all f → Reads all f outside (defaultSteps package n ++ hintSteps package n)
  | .parameter, n =>
    ∃ info label hint, n = .arg info label hint ∧
      ∀ f, n.Quiet all f → Reads all f (nodes hint.toList) (hintStep package n)
  | .imported, n | .member, n => nodes [n] = {n} ∧ ¬ n.IsBound
  | .part, n =>
    ∀ f, f.kind ≠ .comprehension → n.Covered f → Reads all f (nodes [n]) (n.steps package none)

variable {package : String} {all : List Node} {f : Frame} {n k : Node}

theorem Quiet.child (quiet : n.Quiet all f) (part : k ∈ n.children) : k.Quiet all f :=
  fun tame inside j member =>
    quiet tame inside j (preorder_children_subset n (preorder_subset part member))

theorem subset_of_child (inside : preorder [n] ⊆ all) (part : k ∈ n.children) :
    preorder [k] ⊆ all :=
  fun _ member => inside (preorder_children_subset n (preorder_subset part member))

theorem Covered.child (covered : n.Covered f) (part : k ∈ n.ownParts) : k.Covered f :=
  covered.imp_right fun known _ member =>
    known (declarations_ownParts n (declarations_subset part member))

theorem not_isBound_load (info : Info) (id : String) : ¬ (name info id .load).IsBound := by
  rintro ⟨_, _, _, same, changes⟩
  cases same
  exact changes rfl

/-! ## Expressions -/

theorem readable_call {info : Info} {func : Node} {args keywords : List Node}
    (callee : Readable package all .expression func)
    (values : ∀ n ∈ args, Readable package all .expression n)
    (named : ∀ n ∈ keywords, Readable package all .keyword n) :
    Readable package all .expression (call info func args keywords) := by
  intro f how quiet
  have first := callee f none (quiet.child (by simp [children]))
  have second := Reads.stepsList fun n member =>
    values n member f none (quiet.child (by simp [children, member]))
  have third := Reads.stepsList fun n member =>
    (named n member f (quiet.child (by simp [children, member]))).1
  refine Reads.node (by rintro ⟨_, _, _, ⟨⟩, _⟩) (((first.append second).append third).of_eq ?_)
  rw [children, List.cons_append, nodes_cons func (args ++ keywords), nodes_append, add_assoc]

theorem readable_binOp {info : Info} {isAdd : Bool} {left right : Node}
    (first : Readable package all .expression left)
    (second : Readable package all .expression right) :
    Readable package all .expression (binOp info isAdd left right) := by
  intro f how quiet
  have first := first f none (quiet.child (by simp [children]))
  have second := second f none (quiet.child (by simp [children]))
  refine Reads.node (by rintro ⟨_, _, _, ⟨⟩, _⟩) ((first.append second).of_eq ?_)
  rw [children, nodes_cons left [right]]

theorem readable_named {info inner : Info} {id : String} {value : Node}
    (assigned : Readable package all .expression value) :
    Readable package all .expression (plain info .namedExpr [name inner id .store, value]) := by
  intro f how quiet
  have assigned := assigned f none (quiet.child (by simp [children]))
  have loose : Tame all → f.kind ≠ .comprehension := fun tame inside =>
    quiet tame inside _ (mem_preorder_self _) ⟨info, _, rfl⟩
  have target : Reads all f (nodes [name inner id .store])
      ((name inner id .store).steps package none) := by
    rw [nodes_singleton, children, nodes_nil, add_zero]
    exact .bind inner id .store loose (by rintro ⟨⟩)
  refine Reads.node (by rintro ⟨_, _, _, ⟨⟩, _⟩) (Reads.stepsList ?_)
  exact List.forall_mem_cons.mpr ⟨target, List.forall_mem_singleton.mpr assigned⟩

theorem readable_compound {info : Info} {kind : Kind} {parts : List Node}
    (inner : ∀ n ∈ parts, Readable package all .expression n) :
    Readable package all .expression (plain info kind parts) := by
  intro f how quiet
  refine Reads.node (by rintro ⟨_, _, _, ⟨⟩, _⟩) (Reads.stepsList fun n member => ?_)
  exact inner n member f none (quiet.child member)

theorem readable_lambda {info : Info} {args body : Node}
    (parameters : Readable package all .arguments args)
    (result : Readable package all .expression body) :
    Readable package all .expression (lambda info args body) := by
  intro f how quiet
  obtain ⟨params, outside, split, areArgs, steps_eq, outer⟩ := parameters
  have outer := outer f (quiet.child (by simp [children]))
  have body_read := result { kind := .function } none (by rintro _ ⟨⟩)
  have inner : Reads all f _ _ :=
    .enter info "<lambda>" [body] params (by simp) (by simp) areArgs body_read
  rw [steps, steps_eq]
  have whole := Reads.node (n := lambda info args body) (by rintro ⟨_, _, _, ⟨⟩, _⟩)
    ((outer.append inner).of_eq (by
      rw [children, nodes_cons args [body], split]
      abel))
  simpa [Node.id, Node.info] using whole

theorem readable_keyword {info : Info} {label : Option String} {value : Node}
    (inner : Readable package all .expression value) :
    Readable package all .keyword (keyword info label value) := by
  intro f quiet
  have value_read := inner f none (quiet.child (by simp [children]))
  refine ⟨?_, ?_⟩
  · exact Reads.node (by rintro ⟨_, _, _, ⟨⟩, _⟩) value_read
  · rw [keywordStep, nodes_singleton]
    exact (Reads.skip f _ (by rintro ⟨_, _, _, ⟨⟩, _⟩)).append value_read

theorem reads_keywordSteps {keywords : List Node}
    (each : ∀ n ∈ keywords, Reads all f (nodes [n]) (keywordStep package n)) :
    Reads all f (nodes keywords) (keywordSteps package keywords) := by
  induction keywords with
  | nil =>
    rw [keywordSteps, nodes_nil]
    exact .nil f
  | cons n rest ih =>
    obtain ⟨first, each⟩ := List.forall_mem_cons.mp each
    rw [keywordSteps, nodes_cons]
    exact first.append (ih each)

/-! ## Comprehensions -/

/-- The names of a clause's target are bound in the comprehension. -/
theorem reads_clauseTargetSteps {owner : Node} {ns : List Node} (inside : f.kind = .comprehension)
    (free : f.declared = []) (kept : ∀ info id, name info id .del ∉ ns) :
    Reads all f ns (ns.flatMap fun n =>
      match n with
      | name info id .store => [.place info.id, .bind true id { form := .other, owner }]
      | n => [.place n.id]) := by
  induction ns with
  | nil => exact .nil f
  | cons n rest ih =>
    have more := ih fun info id member => kept info id (List.mem_cons_of_mem n member)
    rw [List.flatMap_cons, ← Multiset.cons_coe, ← Multiset.singleton_add]
    refine Reads.append ?_ more
    split
    · exact .clause _ _ _ inside free (by rintro ⟨⟩)
    · rename_i unstored
      refine .place f n ?_
      rintro ⟨info, id, context, rfl, changes⟩
      cases context with
      | load => exact absurd rfl changes
      | store => exact absurd rfl (unstored info id)
      | del => exact absurd List.mem_cons_self (kept info id)

theorem readable_generator {info : Info} {target iter : Node} {ifs : List Node}
    (bound : Shaped (.target .store) target) (iterable : Readable package all .expression iter)
    (conditions : ∀ n ∈ ifs, Readable package all .expression n) :
    Readable package all .generator (generator info target iter ifs) := by
  refine ⟨{generator info target iter ifs} + nodes [target] + nodes ifs, nodes [iter], ?_, ?_, ?_⟩
  · rw [nodes_singleton, children, nodes_cons target (iter :: ifs), nodes_cons iter ifs]
    abel
  · intro f quiet
    exact iterable f none (quiet.child (by simp [children]))
  · intro f inside free quiet
    have own : Reads all f {generator info target iter ifs} [] :=
      .skip f _ (by rintro ⟨_, _, _, ⟨⟩, _⟩)
    have targets : Reads all f (nodes [target])
        (clauseTargetSteps (generator info target iter ifs) target) :=
      reads_clauseTargetSteps inside free (bound.deleted_not_mem rfl)
    have conditions := Reads.stepsList fun n member =>
      conditions n member f none (quiet.child (by simp [children, member]))
    have iterable := iterable f none (quiet.child (by simp [children]))
    have clause := (own.append targets).append conditions
    refine ⟨clause, ?_⟩
    rw [clauseStep, add_comm, List.append_assoc]
    exact iterable.append clause

theorem reads_laterClauses {generators : List Node} (inside : f.kind = .comprehension)
    (free : f.declared = []) (clauses : ∀ n ∈ generators, Readable package all .generator n)
    (quiet : ∀ n ∈ generators, n.Quiet all f) :
    Reads all f (nodes generators) (clauseSteps package false generators) := by
  induction generators with
  | nil =>
    rw [clauseSteps, nodes_nil]
    exact .nil f
  | cons n rest ih =>
    obtain ⟨⟨own, iter, split, _, clause⟩, clauses⟩ := List.forall_mem_cons.mp clauses
    obtain ⟨first, quiet⟩ := List.forall_mem_cons.mp quiet
    rw [clauseSteps, nodes_cons, split]
    exact (clause f inside free first).2.append (ih clauses quiet)

/-- The clauses of a comprehension: the iterable of the first one is read outside. -/
theorem reads_clauses {generators : List Node} {inner : Frame}
    (inside : inner.kind = .comprehension) (free : inner.declared = [])
    (clauses : ∀ n ∈ generators, Readable package all .generator n)
    (outer : ∀ n ∈ generators, n.Quiet all f) (quiet : ∀ n ∈ generators, n.Quiet all inner) :
    ∃ own iter, nodes generators = own + iter ∧
      Reads all f iter (firstIterSteps package generators) ∧
      Reads all inner own (clauseSteps package true generators) := by
  cases generators with
  | nil =>
    refine ⟨0, 0, by simp, ?_, ?_⟩
    · rw [firstIterSteps]
      exact .nil f
    · rw [clauseSteps]
      exact .nil inner
  | cons n rest =>
    obtain ⟨own, iter, split, iterable, clause⟩ := clauses n List.mem_cons_self
    have later := reads_laterClauses inside free (List.forall_mem_cons.mp clauses).2
      (List.forall_mem_cons.mp quiet).2
    refine ⟨own + nodes rest, iter, ?_, ?_, ?_⟩
    · rw [nodes_cons, split]
      abel
    · exact iterable f (outer n List.mem_cons_self)
    · rw [clauseSteps]
      exact (clause inner inside free (quiet n List.mem_cons_self)).1.append later

theorem readable_comprehension {info : Info} {kind : ComprehensionKind}
    {elements generators : List Node}
    (inside : preorder [comprehension info kind elements generators] ⊆ all)
    (values : ∀ n ∈ elements, Readable package all .expression n)
    (clauses : ∀ n ∈ generators, Readable package all .generator n) :
    Readable package all .expression (comprehension info kind elements generators) := by
  intro f how quiet
  have silent : (comprehension info kind elements generators).Quiet all
      { kind := .comprehension } :=
    fun tame _ => tame info kind elements generators (inside (mem_preorder_self _))
  obtain ⟨own, iter, split, outer, inner⟩ := reads_clauses (f := f) rfl rfl clauses
    (fun n member => quiet.child (by simp [children, member]))
    (fun n member => silent.child (by simp [children, member]))
  have elements_read := Reads.stepsList fun n member =>
    values n member _ none (silent.child (by simp [children, member]))
  have scope : Reads all f _ _ := .enter info "<comprehension>" [] [] (by simp) (by simp)
    (by simp) (inner.append elements_read)
  have whole := Reads.node (n := comprehension info kind elements generators)
    (by rintro ⟨_, _, _, ⟨⟩, _⟩) ((outer.append scope).of_eq (by
      rw [children, nodes_append, split, Multiset.coe_nil]
      abel))
  rw [steps]
  simpa [Node.id, Node.info] using whole

/-! ## Parameters -/

theorem readable_parameter {info : Info} {label : String} {hint : Option Node}
    (inner : ∀ n ∈ hint.toList, Readable package all .expression n) :
    Readable package all .parameter (arg info label hint) := by
  refine ⟨info, label, hint, rfl, fun f quiet => ?_⟩
  rw [hintStep]
  exact Reads.stepsOption fun n member => inner n member f none (quiet.child member)

theorem stepsList_append (how : Option Binding) (a b : List Node) :
    stepsList package how (a ++ b) = stepsList package how a ++ stepsList package how b := by
  induction a with
  | nil => simp [stepsList]
  | cons n rest ih => simp [stepsList, ih]

theorem hintList_append (a b : List Node) :
    hintList package (a ++ b) = hintList package a ++ hintList package b := by
  induction a with
  | nil => simp [hintList]
  | cons n rest ih => simp [hintList, ih]

theorem hintOption_eq (o : Option Node) : hintOption package o = hintList package o.toList := by
  cases o <;> simp [hintOption, hintList]

/-- The nodes of parameters are the parameters and their hints. -/
theorem reads_hintList {params : List Node}
    (each : ∀ n ∈ params, Readable package all .parameter n) :
    ∃ hints : Multiset Node, nodes params = params + hints ∧
      ∀ f, (∀ n ∈ params, n.Quiet all f) → Reads all f hints (hintList package params) := by
  induction params with
  | nil =>
    refine ⟨0, by simp, fun f _ => ?_⟩
    rw [hintList]
    exact .nil f
  | cons n rest ih =>
    obtain ⟨first, each⟩ := List.forall_mem_cons.mp each
    obtain ⟨hints, split, more⟩ := ih each
    obtain ⟨info, label, hint, rfl, first⟩ := first
    refine ⟨nodes hint.toList + hints, ?_, fun f quiet => ?_⟩
    · rw [nodes_cons, nodes_singleton, children, split, ← Multiset.cons_coe,
        ← Multiset.singleton_add]
      abel
    · obtain ⟨own, quiet⟩ := List.forall_mem_cons.mp quiet
      rw [hintList]
      exact (first f own).append (more f quiet)

theorem readable_arguments {info : Info} {posonly args kwonly kwDefaults defaults : List Node}
    {vararg kwarg : Option Node}
    (parameters : ∀ n ∈ posonly ++ args ++ kwonly ++ vararg.toList ++ kwarg.toList,
      Readable package all .parameter n)
    (values : ∀ n ∈ defaults ++ kwDefaults, Readable package all .expression n) :
    Readable package all .arguments
      (arguments info posonly args vararg kwonly kwDefaults kwarg defaults) := by
  obtain ⟨hints, split, hinted⟩ := reads_hintList parameters
  refine ⟨posonly ++ args ++ kwonly ++ vararg.toList ++ kwarg.toList,
    nodes (defaults ++ kwDefaults) +
      ({arguments info posonly args vararg kwonly kwDefaults kwarg defaults} + hints),
    ?_, ?_, rfl, ?_⟩
  · have rest : nodes (children (arguments info posonly args vararg kwonly kwDefaults kwarg
        defaults)) = nodes (posonly ++ args ++ kwonly ++ vararg.toList ++ kwarg.toList) +
          nodes (defaults ++ kwDefaults) := by
      simp only [children, nodes_append]
      abel
    rw [nodes_singleton, rest, split]
    abel
  · intro p member
    obtain ⟨info, label, hint, same, _⟩ := parameters p member
    exact ⟨info, label, hint, same⟩
  · intro f quiet
    have defaults_read : Reads all f _ (stepsList package none (defaults ++ kwDefaults)) :=
      Reads.stepsList fun n member => values n member f none (quiet.child (by
        simp only [children, List.mem_append] at member ⊢
        grind))
    have own : Reads all f {arguments info posonly args vararg kwonly kwDefaults kwarg defaults}
        [] := .skip f _ (by rintro ⟨_, _, _, ⟨⟩, _⟩)
    have hints_read := hinted f fun n member => quiet.child (by
      simp only [children, List.mem_append] at member ⊢
      grind)
    rw [defaultSteps, ← stepsList_append, hintSteps, hintOption_eq, hintOption_eq,
      ← hintList_append, ← hintList_append, ← hintList_append, ← hintList_append]
    exact defaults_read.append (own.append hints_read)

end Syntax.Node

end Catalog
