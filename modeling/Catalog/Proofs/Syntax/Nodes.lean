import Catalog.Syntax.Numbering
import Catalog.Syntax.Traversal
import Mathlib.Data.Multiset.AddSub

/-!
# All nodes of a tree

The walk in preorder goes through one tree after the other, so its nodes are those of the first
tree and those of the rest. Where the order does not matter the nodes are a multiset, `nodes`.

Numbering gives the nodes consecutive numbers in the order of this walk. It follows from one view
of numbering: a node gets the next number, and then its parts are numbered in their order.
-/

namespace Catalog.Syntax.Node

/-! ## The walk -/

theorem preorder_cons (n : Node) (rest : List Node) :
    preorder (n :: rest) = n :: preorder (n.children ++ rest) := by
  rw [preorder]

theorem preorder_append (a b : List Node) : preorder (a ++ b) = preorder a ++ preorder b := by
  match a with
  | [] => simp [preorder]
  | n :: rest =>
    rw [List.cons_append, preorder_cons, preorder_cons, ← List.append_assoc,
      preorder_append (n.children ++ rest) b, List.cons_append]
termination_by totalSize a
decreasing_by
  have := size_eq_totalSize n
  simp
  omega

theorem preorder_singleton (n : Node) : preorder [n] = n :: preorder n.children := by
  rw [preorder_cons, List.append_nil]

theorem preorder_cons_append (n : Node) (rest : List Node) :
    preorder (n :: rest) = preorder [n] ++ preorder rest :=
  preorder_append [n] rest

theorem mem_preorder_self (n : Node) : n ∈ preorder [n] := by
  rw [preorder_singleton]
  exact List.mem_cons_self

theorem mem_preorder_iff {k : Node} {ns : List Node} :
    k ∈ preorder ns ↔ ∃ n ∈ ns, k ∈ preorder [n] := by
  induction ns with
  | nil => simp [preorder]
  | cons n rest ih => rw [preorder_cons_append, List.mem_append, ih, List.exists_mem_cons_iff]

theorem preorder_subset {n : Node} {ns : List Node} (member : n ∈ ns) :
    preorder [n] ⊆ preorder ns :=
  fun _ inside => mem_preorder_iff.mpr ⟨n, member, inside⟩

theorem preorder_children_subset (n : Node) : preorder n.children ⊆ preorder [n] := by
  rw [preorder_singleton]
  exact List.subset_cons_self n (preorder n.children)

/-- With a node the trees hold everything inside of it. -/
theorem preorder_subset_of_mem {k : Node} {ns : List Node} (inside : k ∈ preorder ns) :
    preorder [k] ⊆ preorder ns := by
  match ns with
  | [] => simp [preorder] at inside
  | n :: rest =>
    rw [preorder_cons] at inside
    rcases List.mem_cons.mp inside with rfl | below
    · exact preorder_subset List.mem_cons_self
    · rw [preorder_cons n rest]
      exact List.subset_cons_of_subset n (preorder_subset_of_mem below)
termination_by totalSize ns
decreasing_by simp [size_eq_totalSize]

theorem mem_preorder_of_child {n c : Node} {ns : List Node} (inside : n ∈ preorder ns)
    (part : c ∈ n.children) : c ∈ preorder ns :=
  preorder_subset_of_mem inside
    (preorder_children_subset n (preorder_subset part (mem_preorder_self c)))

/-- The nodes of trees, whatever their order. -/
def nodes (ns : List Node) : Multiset Node := preorder ns

@[simp] theorem nodes_nil : nodes [] = 0 := by
  simp [nodes, preorder]

@[simp] theorem nodes_append (a b : List Node) : nodes (a ++ b) = nodes a + nodes b := by
  rw [nodes, preorder_append, ← Multiset.coe_add, nodes, nodes]

theorem nodes_cons (n : Node) (rest : List Node) : nodes (n :: rest) = nodes [n] + nodes rest :=
  nodes_append [n] rest

theorem nodes_singleton (n : Node) : nodes [n] = {n} + nodes n.children := by
  rw [nodes, preorder_singleton, ← Multiset.cons_coe, ← Multiset.singleton_add, nodes]

/-! ## Numbering -/

theorem numberList_append (a b : List Node) :
    numberList (a ++ b) = do
      let first ← numberList a
      let second ← numberList b
      return first ++ second := by
  induction a with
  | nil => simp [numberList]
  | cons n rest ih => simp [numberList, ih]

theorem numberOption_toList (o : Option Node) :
    numberList o.toList = do
      let numbered ← numberOption o
      return numbered.toList := by
  cases o <;> simp [numberList, numberOption]

/-- What a node with number `k` is numbered to: it keeps its form, and its parts are numbered from
the next number on. -/
theorem number_eq (n : Node) (k : Nat) :
    ((number n).run k).1.id = k ∧
      (numberList n.children).run (k + 1) =
        (((number n).run k).1.children, ((number n).run k).2) := by
  refine ⟨?_, ?_⟩
  · cases n <;> rfl
  · cases n <;>
      simp only [children, List.cons_append, numberList, numberList_append,
        numberOption_toList] <;> rfl

theorem numberList_cons_run (n : Node) (rest : List Node) (k : Nat) :
    (numberList (n :: rest)).run k =
      (((number n).run k).1 :: ((numberList rest).run ((number n).run k).2).1,
        ((numberList rest).run ((number n).run k).2).2) :=
  rfl

theorem ids_numberList (ns : List Node) (k : Nat) :
    (preorder ((numberList ns).run k).1).map Node.id = List.range' k (totalSize ns) ∧
      ((numberList ns).run k).2 = k + totalSize ns := by
  match ns with
  | [] =>
    have ran : (numberList []).run k = ([], k) := rfl
    simp [ran, preorder]
  | n :: rest =>
    obtain ⟨own, parts⟩ := number_eq n k
    obtain ⟨partIds, partNext⟩ := ids_numberList n.children (k + 1)
    rw [parts] at partIds partNext
    obtain ⟨restIds, restNext⟩ := ids_numberList rest ((number n).run k).2
    have size := size_eq_totalSize n
    rw [numberList_cons_run]
    refine ⟨?_, ?_⟩
    · rw [preorder_cons_append, preorder_singleton, List.map_append, List.map_cons, own, partIds,
        restIds, partNext, ← List.range'_succ, totalSize_cons, size, Nat.add_comm 1,
        show k + 1 + totalSize n.children = k + (totalSize n.children + 1) by omega]
      exact List.range'_append_1
    · rw [restNext, partNext, totalSize_cons]
      omega
termination_by totalSize ns
decreasing_by
  all_goals
    have := size_eq_totalSize n
    simp only [totalSize_cons]
    omega

end Catalog.Syntax.Node

namespace Catalog.Syntax

/-- The nodes of a numbered module have the numbers from one on. -/
theorem Module.ids_numbered (m : Module) :
    (Node.preorder m.numbered.body).map Node.id = List.range' 1 (Node.totalSize m.body) :=
  (Node.ids_numberList m.body 1).1

end Catalog.Syntax
