import Catalog.Proofs.Scope.Layout
import Catalog.Scope.Steps
import Catalog.ModuleName

/-!
# Where names are bound

A name is bound where it is stored or deleted, by a parameter, a definition, an import, a handler
of exceptions or a pattern. `occurrences` lists these places, each with the name that is bound
there; an import stands for all names that it binds. An annotation without a value declares its
target and binds nothing.
-/

namespace Catalog.Syntax.Node

/-- The name that an import of a module binds: its own, or the first segment of the module's. -/
def importedName : Node → List String
  | importAlias _ label none => [Dotted.head label]
  | importAlias _ _ (some asName) => [asName]
  | _ => []

/-- The name that an import from a module binds; importing everything binds no name. -/
def importedMember : Node → List String
  | importAlias _ label asName => if label == "*" then [] else [asName.getD label]
  | _ => []

/-- The names that a node binds. -/
def boundNames : Node → List String
  | name _ _ .load => []
  | name _ id _ => [id]
  | arg _ label _ => [label]
  | functionDef _ _ label .. => [label]
  | classDef _ label .. => [label]
  | importModules _ names => names.flatMap importedName
  | importFrom _ _ _ names => names.flatMap importedMember
  | exceptHandler _ _ label _ => label.toList
  | matchAs _ _ label => label.toList
  | matchStar _ label => label.toList
  | matchMapping _ _ _ rest => rest.toList
  | _ => []

/-- The parts of a node in which names are bound. -/
def bindingParts : Node → List Node
  | annAssign _ _ hint none => [hint]
  | n => n.children

theorem totalSize_bindingParts (n : Node) : totalSize n.bindingParts < n.size := by
  rw [size_eq_totalSize]
  unfold bindingParts
  split
  · simp only [children, totalSize_cons, totalSize_nil, Option.toList_none]
    omega
  · omega

/-- The places in the trees where names are bound, each with the name. -/
def occurrences : List Node → List (Node × String)
  | [] => []
  | n :: rest => n.boundNames.map (n, ·) ++ occurrences (n.bindingParts ++ rest)
termination_by ns => totalSize ns
decreasing_by
  have := totalSize_bindingParts n
  simp
  omega

/-- The nodes to which a node assigns. -/
def assignedParts : Node → List Node
  | assign _ targets _ => targets
  | annAssign _ target _ _ => [target]
  | generator _ target _ _ => [target]
  | _ => []

/-- The binding is that of the node: the node makes it itself, or is assigned to by the node that
does. -/
def BoundBy (n : Node) (b : Binding) : Prop :=
  b.owner = n ∨ n ∈ preorder b.owner.assignedParts

/-! ## Sums -/

theorem occurrences_append (a b : List Node) :
    occurrences (a ++ b) = occurrences a ++ occurrences b := by
  match a with
  | [] => simp [occurrences]
  | n :: rest =>
    rw [List.cons_append, occurrences, occurrences, ← List.append_assoc,
      occurrences_append (n.bindingParts ++ rest) b, List.append_assoc]
termination_by totalSize a
decreasing_by
  have := totalSize_bindingParts n
  simp
  omega

/-- What nodes bind themselves. -/
def ownOccurrences (ns : List Node) : Multiset (Node × String) :=
  ↑(ns.flatMap fun n => n.boundNames.map (n, ·))

/-- The places where names are bound, whatever their order. -/
def bound (ns : List Node) : Multiset (Node × String) := occurrences ns

@[simp] theorem bound_nil : bound [] = 0 := by
  simp [bound, occurrences]

@[simp] theorem bound_append (a b : List Node) : bound (a ++ b) = bound a + bound b := by
  rw [bound, occurrences_append, ← Multiset.coe_add, bound, bound]

theorem bound_cons (n : Node) (rest : List Node) : bound (n :: rest) = bound [n] + bound rest :=
  bound_append [n] rest

theorem bound_singleton (n : Node) :
    bound [n] = ownOccurrences [n] + bound n.bindingParts := by
  rw [bound, occurrences, List.append_nil, ← Multiset.coe_add, bound, ownOccurrences,
    List.flatMap_singleton]

@[simp] theorem ownOccurrences_nil : ownOccurrences [] = 0 := rfl

theorem ownOccurrences_cons (n : Node) (rest : List Node) :
    ownOccurrences (n :: rest) = ownOccurrences [n] + ownOccurrences rest := by
  simp [ownOccurrences, ← Multiset.coe_add]

/-! ## Parts of scopes -/

/-- A node that binds nothing is as its parts. -/
theorem bound_of_boundNames_eq_nil {n : Node} (none : n.boundNames = [])
    (parts : n.bindingParts = n.children) : bound [n] = bound n.children := by
  rw [bound_singleton, parts, ownOccurrences, List.flatMap_singleton, none]
  exact zero_add _

/-- Parameters, and what is bound in their hints. -/
theorem bound_parameters {ns : List Node}
    (each : ∀ n ∈ ns, ∃ info label hint, n = arg info label hint) :
    bound ns = ownOccurrences ns + bound (ns.flatMap children) := by
  induction ns with
  | nil => simp
  | cons n rest ih =>
    obtain ⟨first, each⟩ := List.forall_mem_cons.mp each
    have parts : n.bindingParts = n.children := by
      obtain ⟨info, label, hint, rfl⟩ := first
      rfl
    rw [bound_cons, bound_singleton, parts, ih each, ownOccurrences_cons n rest, List.flatMap_cons,
      bound_append]
    abel

theorem bound_clausesInside (first : Bool) {ns : List Node}
    (each : ∀ n ∈ ns, ∃ info target iter ifs, n = generator info target iter ifs) :
    bound ns = bound (if first then firstIter ns else []) + bound (clausesInside first ns) := by
  induction ns generalizing first with
  | nil => cases first <;> simp [firstIter, clausesInside]
  | cons n rest ih =>
    obtain ⟨⟨info, target, iter, ifs, rfl⟩, others⟩ := List.forall_mem_cons.mp each
    rw [bound_cons, ih false others, bound_of_boundNames_eq_nil rfl rfl, children,
      clausesInside, bound_append, clauseInside, firstIter]
    cases first with
    | false =>
      simp only [Bool.false_eq_true, if_false, List.cons_append, List.nil_append]
      abel
    | true =>
      simp only [Bool.false_eq_true, if_true, if_false, List.cons_append, List.nil_append]
      rw [bound_cons target (iter :: ifs), bound_cons iter ifs, bound_cons target ifs]
      simp only [bound_nil]
      abel

end Catalog.Syntax.Node
