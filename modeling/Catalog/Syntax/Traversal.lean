import Catalog.Syntax.Node

/-!
# Walks through syntax trees

Two walks visit nodes from a list that is worked off from the front. `preorder` visits every node,
each before its parts. `executed` visits what runs when statements run: the body of a function
waits for a call, so of a function only the decorators and the defaults of its parameters are
visited, and of a lambda only the defaults.
-/

namespace Catalog.Syntax

namespace Node

/-- The number of nodes of a tree. -/
def size (n : Node) : Nat :=
  1 + n.children.attach.foldr (fun c total => c.1.size + total) 0
termination_by sizeOf n
decreasing_by exact sizeOf_lt_of_mem_children c.2

/-- The number of nodes of several trees. -/
def totalSize (nodes : List Node) : Nat :=
  nodes.foldr (fun n total => n.size + total) 0

@[simp] theorem totalSize_nil : totalSize [] = 0 := rfl

@[simp] theorem totalSize_cons (n : Node) (rest : List Node) :
    totalSize (n :: rest) = n.size + totalSize rest := rfl

@[simp] theorem totalSize_append (a b : List Node) :
    totalSize (a ++ b) = totalSize a + totalSize b := by
  induction a with
  | nil => simp
  | cons n rest ih => simp only [List.cons_append, totalSize_cons, ih]; omega

theorem size_eq_totalSize (n : Node) : n.size = 1 + totalSize n.children := by
  rw [size, totalSize]
  exact congrArg (1 + ·) (List.foldr_attach (f := fun (c : Node) total => c.size + total))

/-- The depth of a tree: a node without parts has depth one. -/
def depth (n : Node) : Nat :=
  1 + (n.children.attach.map fun ⟨c, _⟩ => c.depth).foldl max 0
termination_by sizeOf n
decreasing_by exact sizeOf_lt_of_mem_children ‹_›

/-- The defaults of parameters, those of positional ones first. -/
def argumentDefaults : Node → List Node
  | arguments _ _ _ _ _ kwDefaults _ defaults => defaults ++ kwDefaults
  | _ => []

/-- The parts of a node that run when the node runs. -/
def executedParts : Node → List Node
  | functionDef _ _ _ args _ decorators _ => decorators ++ args.argumentDefaults
  | lambda _ args _ => args.argumentDefaults
  | n => n.children

theorem totalSize_argumentDefaults (n : Node) : totalSize n.argumentDefaults < n.size := by
  rw [size_eq_totalSize]
  cases n with
  | arguments => simp only [argumentDefaults, children, totalSize_append]; omega
  | _ => simp only [argumentDefaults, totalSize_nil]; omega

theorem totalSize_executedParts (n : Node) : totalSize n.executedParts < n.size := by
  cases n with
  | functionDef info async label args body decorators returns =>
    have := totalSize_argumentDefaults args
    rw [size_eq_totalSize]
    simp only [executedParts, children, totalSize_append, totalSize_cons, List.cons_append]
    omega
  | lambda info args body =>
    have := totalSize_argumentDefaults args
    rw [size_eq_totalSize]
    simp only [executedParts, children, totalSize_cons]
    omega
  | _ => rw [size_eq_totalSize]; simp only [executedParts]; omega

/-- The nodes in the order of their beginnings, each before its parts. -/
def preorder : List Node → List Node
  | [] => []
  | n :: rest => n :: preorder (n.children ++ rest)
termination_by stack => totalSize stack
decreasing_by simp [size_eq_totalSize]

/-- The nodes that run when the given nodes run, each before its parts. -/
def executed : List Node → List Node
  | [] => []
  | n :: rest => n :: executed (n.executedParts ++ rest)
termination_by stack => totalSize stack
decreasing_by
  have := totalSize_executedParts n
  simp; omega

end Node

end Catalog.Syntax
