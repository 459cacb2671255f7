import Catalog.Proofs.Syntax.Nodes
import Catalog.Scope.Basic
import Mathlib.Algebra.BigOperators.Group.Multiset.Basic
import Mathlib.Tactic.Abel

/-!
# Where the nodes of a module stand

Functions, classes, lambdas and comprehensions open scopes. What is inside of such a scope is a
part of the node: the body, or all of a comprehension but its first iterable. Decorators, defaults,
hints and bases are parts of the node as well, but they stand where the node stands. A node so
belongs to the innermost of the nodes around it that have it inside.

`layout` gives each node the number of the node to whose scope it belongs. It follows the tree, so
what reading a module does can be compared with it node by node. Signatures and clauses, which only
hold other nodes together, are laid out with the node that they are a part of, and parameters with
the scope that they belong to.
-/

namespace Catalog.Syntax.Node

/-! ## Inside and outside -/

/-- The kind of scope that a node opens. -/
def scopeKind? : Node → Option ScopeKind
  | lambda .. | functionDef .. => some .function
  | classDef .. => some .classBody
  | comprehension .. => some .comprehension
  | _ => none

/-- The parts of a clause that are inside of its comprehension: all but the first one's
iterable. -/
def clauseInside (first : Bool) : Node → List Node
  | generator _ target iter ifs => target :: (if first then [] else [iter]) ++ ifs
  | n => n.children

/-- The parts of clauses that are inside of their comprehension. -/
def clausesInside (first : Bool) : List Node → List Node
  | [] => []
  | n :: rest => clauseInside first n ++ clausesInside false rest

/-- The iterable of the first clause. -/
def firstIter : List Node → List Node
  | generator _ _ iter _ :: _ => [iter]
  | _ => []

/-- The parts of a node that are inside of the scope that it opens. -/
def inside : Node → List Node
  | lambda _ _ body => [body]
  | functionDef _ _ _ _ body _ _ => body
  | classDef _ _ _ _ body _ => body
  | comprehension _ _ elements generators => elements ++ clausesInside true generators
  | _ => []

/-- The parameters of a signature. -/
def parameters : Node → List Node
  | arguments _ posonly args vararg kwonly _ kwarg _ =>
    posonly ++ args ++ kwonly ++ vararg.toList ++ kwarg.toList
  | _ => []

/-- The parts of a signature that stand outside: defaults, and the hints of parameters. -/
def signatureOutside : Node → List Node
  | arguments info posonly args vararg kwonly kwDefaults kwarg defaults =>
    defaults ++ kwDefaults ++
      (arguments info posonly args vararg kwonly kwDefaults kwarg defaults).parameters.flatMap
        children
  | n => n.children

/-- The parts of a node that stand where the node stands. -/
def outside : Node → List Node
  | lambda _ args _ => args.signatureOutside
  | functionDef _ _ _ args _ decorators returns =>
    decorators ++ args.signatureOutside ++ returns.toList
  | classDef _ _ bases keywords _ decorators => decorators ++ bases ++ keywords
  | comprehension _ _ _ generators => firstIter generators
  | n => n.children

/-- The parts of a node that only hold other nodes together. -/
def holders : Node → List Node
  | lambda _ args _ => [args]
  | functionDef _ _ _ args _ _ _ => [args]
  | comprehension _ _ _ generators => generators
  | _ => []

/-- The parameters of the scope that a node opens. -/
def ownParameters : Node → List Node
  | lambda _ args _ => args.parameters
  | functionDef _ _ _ args _ _ _ => args.parameters
  | _ => []

/-- The node `e` has the node `k` inside of its scope. -/
def Encloses (e k : Node) : Prop := k ∈ preorder e.inside

/-- The node `e` is the innermost node of the trees that has `k` inside of its scope. -/
structure Innermost (ns : List Node) (e k : Node) : Prop where
  known : e ∈ preorder ns
  encloses : e.Encloses k
  innermost : ∀ e' ∈ preorder e.inside, ¬ e'.Encloses k

/-! ## All parts of a node -/

theorem nodes_flatMap_children (ns : List Node) :
    nodes ns = (ns : Multiset Node) + nodes (ns.flatMap children) := by
  induction ns with
  | nil => simp
  | cons n rest ih =>
    rw [nodes_cons, nodes_singleton, ih, List.flatMap_cons, nodes_append, ← Multiset.cons_coe,
      ← Multiset.singleton_add]
    abel

theorem nodes_signature (n : Node) :
    nodes n.children = (n.parameters : Multiset Node) + nodes n.signatureOutside := by
  cases n with
  | arguments info posonly args vararg kwonly kwDefaults kwarg defaults =>
    rw [signatureOutside, nodes_append, ← add_assoc, add_comm _ (nodes (defaults ++ kwDefaults)),
      add_assoc, ← nodes_flatMap_children]
    simp only [children, parameters, nodes_append]
    abel
  | _ => simp [parameters, signatureOutside]

theorem nodes_clausesInside (first : Bool) (n : Node) (rest : List Node) :
    nodes (n :: rest) = (↑(n :: rest) : Multiset Node) +
      nodes (if first then firstIter (n :: rest) else []) +
        nodes (clausesInside first (n :: rest)) := by
  have later (ns : List Node) :
      nodes ns = (ns : Multiset Node) + nodes (clausesInside false ns) := by
    induction ns with
    | nil => simp [clausesInside]
    | cons n rest ih =>
      have own : nodes n.children = nodes (clauseInside false n) := by
        cases n <;> rfl
      rw [nodes_cons, nodes_singleton, own, ih, clausesInside, nodes_append, ← Multiset.cons_coe,
        ← Multiset.singleton_add]
      abel
  have own : nodes n.children =
      nodes (if first then firstIter (n :: rest) else []) + nodes (clauseInside first n) := by
    cases first with
    | false => cases n <;> simp [clauseInside, children]
    | true =>
      cases n with
      | generator info target iter ifs =>
        simp only [children, clauseInside, firstIter, if_true, List.cons_append, List.nil_append]
        rw [nodes_cons target (iter :: ifs), nodes_cons iter ifs, nodes_cons target ifs]
        abel
      | _ => simp [clauseInside, firstIter]
  rw [nodes_cons, nodes_singleton, own, later rest, clausesInside, nodes_append,
    ← Multiset.cons_coe, ← Multiset.singleton_add]
  abel

/-- Each part of a node is inside or outside of its scope, a parameter, or holds other parts. -/
theorem nodes_children (n : Node) :
    nodes n.children = (n.holders : Multiset Node) + nodes n.outside +
      (n.ownParameters : Multiset Node) + nodes n.inside := by
  cases n with
  | lambda info args body =>
    rw [children, nodes_cons args [body], nodes_singleton args, nodes_signature]
    simp only [holders, outside, ownParameters, inside, Multiset.coe_singleton]
    abel
  | functionDef info async label args body decorators returns =>
    simp only [children, holders, outside, ownParameters, inside, Multiset.coe_singleton,
      List.cons_append]
    rw [nodes_cons args (_ ++ _), nodes_singleton args, nodes_signature]
    simp only [nodes_append]
    abel
  | classDef info label bases keywords body decorators =>
    simp only [children, holders, outside, ownParameters, inside, nodes_append, Multiset.coe_nil]
    abel
  | comprehension info kind elements generators =>
    simp only [children, holders, outside, ownParameters, inside, nodes_append, Multiset.coe_nil]
    cases generators with
    | nil => simp [firstIter, clausesInside]
    | cons n rest =>
      rw [nodes_clausesInside true n rest, if_pos rfl]
      abel
  | _ => simp [holders, outside, ownParameters, inside]

theorem length_preorder (ns : List Node) : (preorder ns).length = totalSize ns := by
  match ns with
  | [] => simp [preorder]
  | n :: rest =>
    rw [preorder_cons, List.length_cons, length_preorder (n.children ++ rest), totalSize_append,
      totalSize_cons, size_eq_totalSize]
    omega
termination_by totalSize ns
decreasing_by simp [size_eq_totalSize]

theorem card_nodes (ns : List Node) : (nodes ns).card = totalSize ns :=
  length_preorder ns

theorem totalSize_parts (n : Node) : totalSize n.outside + totalSize n.inside < n.size := by
  have counted := congrArg Multiset.card (nodes_children n)
  simp only [Multiset.card_add, card_nodes] at counted
  rw [size_eq_totalSize]
  omega

/-! ## The layout -/

/-- The nodes of the trees, each with the number of the node to whose scope it belongs, if the trees
stand in the scope of the node `home`. -/
def layout (home : Nat) : List Node → Multiset (Node × Nat)
  | [] => 0
  | n :: rest =>
    {(n, home)} + (n.holders : Multiset Node).map (·, home) + layout home n.outside +
      (n.ownParameters : Multiset Node).map (·, n.id) + layout n.id n.inside + layout home rest
termination_by ns => totalSize ns
decreasing_by
  all_goals
    have := totalSize_parts n
    simp only [totalSize_cons]
    omega

variable {home : Nat} {n e k : Node} {ns : List Node}

@[simp] theorem layout_nil (home : Nat) : layout home [] = 0 := by
  rw [layout]

theorem layout_parts (home : Nat) (n : Node) (rest : List Node) :
    layout home (n :: rest) = {(n, home)} + (n.holders : Multiset Node).map (·, home) +
      layout home n.outside + (n.ownParameters : Multiset Node).map (·, n.id) +
        layout n.id n.inside + layout home rest := by
  rw [layout]

theorem layout_singleton (home : Nat) (n : Node) :
    layout home [n] = {(n, home)} + (n.holders : Multiset Node).map (·, home) +
      layout home n.outside + (n.ownParameters : Multiset Node).map (·, n.id) +
        layout n.id n.inside := by
  rw [layout_parts, layout_nil, add_zero]

theorem layout_cons (home : Nat) (n : Node) (rest : List Node) :
    layout home (n :: rest) = layout home [n] + layout home rest := by
  rw [layout_parts, layout_singleton]

@[simp] theorem layout_append (home : Nat) (a b : List Node) :
    layout home (a ++ b) = layout home a + layout home b := by
  induction a with
  | nil => simp
  | cons n rest ih =>
    rw [List.cons_append, layout_cons, layout_cons home n rest, ih, add_assoc]

theorem nodes_cons_parts (n : Node) (rest : List Node) :
    nodes (n :: rest) = {n} + (n.holders : Multiset Node) + nodes n.outside +
      (n.ownParameters : Multiset Node) + nodes n.inside + nodes rest := by
  rw [nodes_cons, nodes_singleton, nodes_children]
  abel

/-! ## Enclosing nodes -/

/-- The node is a parameter, or only holds other nodes together. -/
def isLoose : Node → Bool
  | arguments .. | arg .. | generator .. => true
  | _ => false

/-- In the trees, signatures, parameters and clauses have these forms. -/
def Formed (ns : List Node) : Prop :=
  ∀ n ∈ preorder ns, ∀ k ∈ n.holders ++ n.ownParameters, k.isLoose = true

theorem inside_of_isLoose (loose : n.isLoose = true) : n.inside = [] := by
  cases n with
  | arguments | arg | generator => rfl
  | _ => cases loose

theorem mem_preorder_cons_iff {k n : Node} {rest : List Node} :
    k ∈ preorder (n :: rest) ↔ k = n ∨ k ∈ n.holders ++ n.ownParameters ∨
      k ∈ preorder n.outside ∨ k ∈ preorder n.inside ∨ k ∈ preorder rest := by
  rw [← Multiset.mem_coe, ← nodes, nodes_cons_parts, List.mem_append]
  simp only [nodes, Multiset.mem_add, Multiset.mem_singleton, Multiset.mem_coe]
  grind

theorem Formed.of_subset {ms : List Node} (formed : Formed ns) (fewer : preorder ms ⊆ preorder ns) :
    Formed ms :=
  fun n member => formed n (fewer member)

theorem preorder_outside_subset (n : Node) (rest : List Node) :
    preorder n.outside ⊆ preorder (n :: rest) :=
  fun _ member => mem_preorder_cons_iff.mpr (.inr (.inr (.inl member)))

theorem preorder_inside_subset (n : Node) (rest : List Node) :
    preorder n.inside ⊆ preorder (n :: rest) :=
  fun _ member => mem_preorder_cons_iff.mpr (.inr (.inr (.inr (.inl member))))

theorem preorder_rest_subset (n : Node) (rest : List Node) :
    preorder rest ⊆ preorder (n :: rest) :=
  fun _ member => mem_preorder_cons_iff.mpr (.inr (.inr (.inr (.inr member))))

theorem mem_layout_cons_iff {p : Node × Nat} {rest : List Node} :
    p ∈ layout home (n :: rest) ↔ p = (n, home) ∨ (p.1 ∈ n.holders ∧ p.2 = home) ∨
      p ∈ layout home n.outside ∨ (p.1 ∈ n.ownParameters ∧ p.2 = n.id) ∨
        p ∈ layout n.id n.inside ∨ p ∈ layout home rest := by
  have paired (number : Nat) (ms : List Node) :
      p ∈ (ms : Multiset Node).map (·, number) ↔ p.1 ∈ ms ∧ p.2 = number := by
    obtain ⟨k, number'⟩ := p
    simp [eq_comm]
  rw [layout_parts]
  simp only [Multiset.mem_add, Multiset.mem_singleton, paired]
  grind

theorem mem_layout_of_outside {p : Node × Nat} (member : p ∈ layout home n.outside)
    (rest : List Node) : p ∈ layout home (n :: rest) :=
  mem_layout_cons_iff.mpr (.inr (.inr (.inl member)))

theorem mem_layout_of_inside {p : Node × Nat} (member : p ∈ layout n.id n.inside)
    (rest : List Node) : p ∈ layout home (n :: rest) :=
  mem_layout_cons_iff.mpr (.inr (.inr (.inr (.inr (.inl member)))))

theorem mem_layout_of_rest {p : Node × Nat} {rest : List Node} (member : p ∈ layout home rest)
    (n : Node) : p ∈ layout home (n :: rest) :=
  mem_layout_cons_iff.mpr (.inr (.inr (.inr (.inr (.inr member)))))

/-- A node that no node of the trees encloses stands where the trees stand. -/
theorem mem_layout_of_free (formed : Formed ns) (known : k ∈ preorder ns)
    (own : k.isLoose = false) (free : ∀ e ∈ preorder ns, ¬ e.Encloses k) :
    (k, home) ∈ layout home ns := by
  induction home, ns using layout.induct with
  | case1 home => simp [preorder] at known
  | case2 home n rest outer inner others =>
    have self : n ∈ preorder (n :: rest) := mem_preorder_cons_iff.mpr (.inl rfl)
    rcases mem_preorder_cons_iff.mp known with rfl | loose | known | known | known
    · exact mem_layout_cons_iff.mpr (.inl rfl)
    · rw [formed n self k loose] at own
      cases own
    · have fewer := preorder_outside_subset n rest
      apply mem_layout_of_outside
      exact outer (formed.of_subset fewer) known fun e member => free e (fewer member)
    · exact absurd known (free n self)
    · have fewer := preorder_rest_subset n rest
      apply mem_layout_of_rest
      exact others (formed.of_subset fewer) known fun e member => free e (fewer member)

/-- What is outside of a node stands where the node stands, and what is inside of it stands in its
scope. -/
theorem exists_home (home : Nat) (formed : Formed ns) (known : e ∈ preorder ns)
    (own : e.isLoose = false) :
    ∃ home', (e, home') ∈ layout home ns ∧ (∀ p ∈ layout home' e.outside, p ∈ layout home ns) ∧
      ∀ p ∈ layout e.id e.inside, p ∈ layout home ns := by
  induction home, ns using layout.induct with
  | case1 home => simp [preorder] at known
  | case2 home n rest outer inner others =>
    rcases mem_preorder_cons_iff.mp known with rfl | loose | known | known | known
    · refine ⟨home, mem_layout_cons_iff.mpr (.inl rfl), ?_, ?_⟩
      · intro p member
        exact mem_layout_of_outside member rest
      · intro p member
        exact mem_layout_of_inside member rest
    · rw [formed n (mem_preorder_cons_iff.mpr (.inl rfl)) e loose] at own
      cases own
    · obtain ⟨home', here, beside, within⟩ :=
        outer (formed.of_subset (preorder_outside_subset n rest)) known
      exact ⟨home', mem_layout_of_outside here rest,
        fun p member => mem_layout_of_outside (beside p member) rest,
        fun p member => mem_layout_of_outside (within p member) rest⟩
    · obtain ⟨home', here, beside, within⟩ :=
        inner (formed.of_subset (preorder_inside_subset n rest)) known
      exact ⟨home', mem_layout_of_inside here rest,
        fun p member => mem_layout_of_inside (beside p member) rest,
        fun p member => mem_layout_of_inside (within p member) rest⟩
    · obtain ⟨home', here, beside, within⟩ :=
        others (formed.of_subset (preorder_rest_subset n rest)) known
      exact ⟨home', mem_layout_of_rest here n,
        fun p member => mem_layout_of_rest (beside p member) n,
        fun p member => mem_layout_of_rest (within p member) n⟩

theorem Encloses.isLoose_eq (encloses : e.Encloses k) : e.isLoose = false := by
  cases loose : e.isLoose with
  | false => rfl
  | true =>
    rw [Encloses, inside_of_isLoose loose, preorder] at encloses
    cases encloses

/-- A node is laid out in the scope of the innermost node around it. -/
theorem Innermost.mem_layout (innermost : Innermost ns e k) (formed : Formed ns)
    (own : k.isLoose = false) : (k, e.id) ∈ layout home ns := by
  obtain ⟨home', -, -, within⟩ :=
    exists_home home formed innermost.known innermost.encloses.isLoose_eq
  apply within
  refine mem_layout_of_free ?_ innermost.encloses own innermost.innermost
  refine formed.of_subset fun j member => ?_
  exact preorder_subset_of_mem innermost.known (preorder_inside_subset e [] member)

theorem size_le_of_mem {ns : List Node} (known : k ∈ preorder ns) : k.size ≤ totalSize ns := by
  match ns with
  | [] => simp [preorder] at known
  | n :: rest =>
    have size := size_eq_totalSize n
    rw [preorder_cons] at known
    rcases List.mem_cons.mp known with rfl | below
    · exact Nat.le_add_right _ _
    · have smaller := size_le_of_mem below
      rw [totalSize_append] at smaller
      rw [totalSize_cons]
      omega
termination_by totalSize ns
decreasing_by simp [size_eq_totalSize]

/-- A node that is enclosed has an innermost node around it. -/
theorem exists_innermost (known : e ∈ preorder ns) (encloses : e.Encloses k) :
    ∃ e', Innermost ns e' k := by
  induction size : e.size using Nat.strong_induction_on generalizing e with
  | _ bound ih =>
    by_cases last : ∀ e' ∈ preorder e.inside, ¬ e'.Encloses k
    · exact ⟨e, known, encloses, last⟩
    · have further : ∃ e' ∈ preorder e.inside, e'.Encloses k := by
        simpa using last
      obtain ⟨e', inner, encloses'⟩ := further
      have smaller : e'.size < bound := by
        have := size_le_of_mem inner
        have := totalSize_parts e
        omega
      refine ih e'.size smaller ?_ encloses' rfl
      exact preorder_subset_of_mem known (preorder_inside_subset e [] inner)

end Catalog.Syntax.Node
