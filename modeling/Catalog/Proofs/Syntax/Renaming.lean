import Catalog.Proofs.Syntax.Nodes

/-!
# Renaming variables

A renaming replaces names at the positions where a variable stands: in names, parameters, imports
under another name, handlers, patterns and declarations. What is defined, imported under its own
name, or written after a dot keeps its name. A renaming keeps the shape of a tree, so every walk
through the renamed tree is the renamed walk.
-/

namespace Catalog.Syntax.Node

variable (ρ : String → String)

mutual

/-- The node with its variables renamed. -/
def rename : Node → Node
  | name info id context => name info (ρ id) context
  | attr info value label => attr info (rename value) label
  | constant info text => constant info text
  | call info func args keywords =>
    call info (rename func) (renameList args) (renameList keywords)
  | keyword info label value => keyword info label (rename value)
  | binOp info isAdd left right => binOp info isAdd (rename left) (rename right)
  | lambda info args body => lambda info (rename args) (rename body)
  | comprehension info kind elements generators =>
    comprehension info kind (renameList elements) (renameList generators)
  | generator info target iter ifs =>
    generator info (rename target) (rename iter) (renameList ifs)
  | functionDef info async label args body decorators returns =>
    functionDef info async label (rename args) (renameList body) (renameList decorators)
      (renameOption returns)
  | classDef info label bases keywords body decorators =>
    classDef info label (renameList bases) (renameList keywords) (renameList body)
      (renameList decorators)
  | arguments info posonly args vararg kwonly kwDefaults kwarg defaults =>
    arguments info (renameList posonly) (renameList args) (renameOption vararg)
      (renameList kwonly) (renameList kwDefaults) (renameOption kwarg) (renameList defaults)
  | arg info label hint => arg info (ρ label) (renameOption hint)
  | assign info targets value => assign info (renameList targets) (rename value)
  | annAssign info target hint value =>
    annAssign info (rename target) (rename hint) (renameOption value)
  | importModules info names => importModules info (renameList names)
  | importFrom info module level names => importFrom info module level (renameList names)
  | importAlias info label asName => importAlias info label (asName.map ρ)
  | globalNames info names => globalNames info (names.map ρ)
  | nonlocalNames info names => nonlocalNames info (names.map ρ)
  | exceptHandler info type label body =>
    exceptHandler info (renameOption type) (label.map ρ) (renameList body)
  | matchAs info pattern label => matchAs info (renameOption pattern) (label.map ρ)
  | matchStar info label => matchStar info (label.map ρ)
  | matchMapping info keys patterns rest =>
    matchMapping info (renameList keys) (renameList patterns) (rest.map ρ)
  | plain info kind parts => plain info kind (renameList parts)

/-- The nodes with their variables renamed. -/
def renameList : List Node → List Node
  | [] => []
  | n :: rest => rename n :: renameList rest

/-- A node that may be missing, with its variables renamed. -/
def renameOption : Option Node → Option Node
  | none => none
  | some n => some (rename n)

end

/-- The names at the variable positions of a node itself. -/
def vars : Node → List String
  | name _ id _ => [id]
  | arg _ label _ => [label]
  | importAlias _ _ asName => asName.toList
  | globalNames _ names => names
  | nonlocalNames _ names => names
  | exceptHandler _ _ label _ => label.toList
  | matchAs _ _ label => label.toList
  | matchStar _ label => label.toList
  | matchMapping _ _ _ rest => rest.toList
  | _ => []

variable {ρ}

@[simp] theorem renameList_eq_map (ns : List Node) : renameList ρ ns = ns.map (rename ρ) := by
  induction ns with
  | nil => rfl
  | cons n rest ih => rw [renameList, ih, List.map_cons]

@[simp] theorem renameOption_eq_map (o : Option Node) : renameOption ρ o = o.map (rename ρ) := by
  cases o <;> rfl

@[simp] theorem info_rename (n : Node) : (rename ρ n).info = n.info := by
  cases n <;> rfl

@[simp] theorem id_rename (n : Node) : (rename ρ n).id = n.id :=
  congrArg Info.id (info_rename n)

@[simp] theorem line_rename (n : Node) : (rename ρ n).line = n.line :=
  congrArg Info.line (info_rename n)

theorem toList_map_rename (o : Option Node) :
    (o.map (rename ρ)).toList = o.toList.map (rename ρ) := by
  cases o <;> rfl

/-! ## Walks -/

@[simp] theorem children_rename (n : Node) :
    (rename ρ n).children = n.children.map (rename ρ) := by
  cases n <;> simp [rename, children, toList_map_rename]

@[simp] theorem argumentDefaults_rename (n : Node) :
    (rename ρ n).argumentDefaults = n.argumentDefaults.map (rename ρ) := by
  cases n <;> simp [rename, argumentDefaults]

theorem executedParts_rename (n : Node) :
    (rename ρ n).executedParts = n.executedParts.map (rename ρ) := by
  cases n <;> simp [rename, executedParts, children, toList_map_rename]

theorem preorder_rename (ns : List Node) :
    preorder (ns.map (rename ρ)) = (preorder ns).map (rename ρ) := by
  match ns with
  | [] => simp [preorder]
  | n :: rest =>
    rw [List.map_cons, preorder_cons, preorder_cons, List.map_cons, children_rename,
      ← List.map_append, preorder_rename (n.children ++ rest)]
termination_by totalSize ns
decreasing_by
  have := size_eq_totalSize n
  simp
  omega

theorem executed_rename (ns : List Node) :
    executed (ns.map (rename ρ)) = (executed ns).map (rename ρ) := by
  match ns with
  | [] => simp [executed]
  | n :: rest =>
    rw [List.map_cons, executed, executed, List.map_cons, executedParts_rename, ← List.map_append,
      executed_rename (n.executedParts ++ rest)]
termination_by totalSize ns
decreasing_by
  have := totalSize_executedParts n
  simp
  omega

/-! ## Renamings that agree -/

mutual

/-- A renaming that changes no name changes nothing. -/
@[simp] theorem rename_self (n : Node) : rename (fun v => v) n = n := by
  cases n <;>
    simp only [rename, rename_self, renameList_self, renameOption_self, Option.map_id',
      List.map_id']

theorem renameList_self (ns : List Node) : renameList (fun v => v) ns = ns := by
  cases ns with
  | nil => rfl
  | cons n rest => rw [renameList, rename_self n, renameList_self rest]

theorem renameOption_self (o : Option Node) : renameOption (fun v => v) o = o := by
  cases o with
  | none => rfl
  | some n => rw [renameOption, rename_self n]

end

/-- Renamings that agree on the variables of a tree give the same tree. -/
theorem rename_congr {σ : String → String} (n : Node)
    (agree : ∀ k ∈ preorder [n], ∀ v ∈ k.vars, ρ v = σ v) : rename ρ n = rename σ n := by
  have own : ∀ v ∈ n.vars, ρ v = σ v := agree n (mem_preorder_self n)
  have part : ∀ c ∈ n.children, rename ρ c = rename σ c := fun c part =>
    rename_congr c fun k inside => agree k
      (preorder_children_subset n (preorder_subset part inside))
  have parts (ns : List Node) (inside : ∀ c ∈ ns, c ∈ n.children) :
      renameList ρ ns = renameList σ ns := by
    rw [renameList_eq_map, renameList_eq_map]
    exact List.map_congr_left fun c member => part c (inside c member)
  have option (o : Option Node) (inside : ∀ c ∈ o.toList, c ∈ n.children) :
      renameOption ρ o = renameOption σ o := by
    rw [renameOption_eq_map, renameOption_eq_map]
    exact Option.map_congr fun c member => part c (inside c (Option.mem_toList.mpr member))
  have label (o : Option String) (inside : n.vars = o.toList) : o.map ρ = o.map σ :=
    Option.map_congr fun v member => own v (inside ▸ Option.mem_toList.mpr member)
  cases n with
  | name info id context => rw [rename, rename, own id (List.mem_singleton_self id)]
  | constant => rfl
  | attr _ value _ | keyword _ _ value => rw [rename, rename, part value (by simp [children])]
  | binOp _ _ left right | lambda _ left right =>
    rw [rename, rename, part left (by simp [children]), part right (by simp [children])]
  | call _ func args keywords =>
    rw [rename, rename, part func (by simp [children]),
      parts args (by simp +contextual [children]), parts keywords (by simp +contextual [children])]
  | comprehension _ _ first second =>
    rw [rename, rename, parts first (by simp +contextual [children]),
      parts second (by simp +contextual [children])]
  | generator _ target iter ifs =>
    rw [rename, rename, part target (by simp [children]), part iter (by simp [children]),
      parts ifs (by simp +contextual [children])]
  | functionDef _ _ _ args body decorators returns =>
    rw [rename, rename, part args (by simp [children]),
      parts body (by simp +contextual [children]),
      parts decorators (by simp +contextual [children]),
      option returns (by simp +contextual [children])]
  | classDef _ _ bases keywords body decorators =>
    rw [rename, rename, parts bases (by simp +contextual [children]),
      parts keywords (by simp +contextual [children]),
      parts body (by simp +contextual [children]),
      parts decorators (by simp +contextual [children])]
  | arguments _ posonly args vararg kwonly kwDefaults kwarg defaults =>
    rw [rename, rename, parts posonly (by simp +contextual [children]),
      parts args (by simp +contextual [children]), option vararg (by simp +contextual [children]),
      parts kwonly (by simp +contextual [children]),
      parts kwDefaults (by simp +contextual [children]),
      option kwarg (by simp +contextual [children]),
      parts defaults (by simp +contextual [children])]
  | arg _ id hint =>
    rw [rename, rename, own id (List.mem_singleton_self id),
      option hint (by simp +contextual [children])]
  | assign _ targets value =>
    rw [rename, rename, part value (by simp [children]),
      parts targets (by simp +contextual [children])]
  | annAssign _ target hint value =>
    rw [rename, rename, part target (by simp [children]), part hint (by simp [children]),
      option value (by simp +contextual [children])]
  | importModules _ ns | importFrom _ _ _ ns | plain _ _ ns =>
    rw [rename, rename, parts ns (by simp [children])]
  | importAlias _ _ asName => rw [rename, rename, label asName rfl]
  | globalNames _ names | nonlocalNames _ names =>
    rw [rename, rename, List.map_congr_left (l := names) own]
  | exceptHandler _ type id body =>
    rw [rename, rename, label id rfl, option type (by simp +contextual [children]),
      parts body (by simp +contextual [children])]
  | matchAs _ pattern id =>
    rw [rename, rename, label id rfl, option pattern (by simp [children])]
  | matchStar _ id => rw [rename, rename, label id rfl]
  | matchMapping _ keys patterns rest =>
    rw [rename, rename, label rest rfl, parts keys (by simp +contextual [children]),
      parts patterns (by simp +contextual [children])]
termination_by sizeOf n
decreasing_by exact sizeOf_lt_of_mem_children part

end Catalog.Syntax.Node
