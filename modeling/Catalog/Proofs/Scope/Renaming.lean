import Catalog.Proofs.Scope.Building
import Catalog.Proofs.Syntax.Renaming
import Catalog.Scope.Build

/-!
# Renaming the variables of a module

The steps of a renamed tree are the renamed steps, as long as the names that are defined, or
imported under their own names, are kept. So are the scopes that the steps leave: a step finds out
by comparing names where a binding belongs, and a renaming that keeps different names apart does
not change the outcome of a comparison. In the renamed scopes a renamed name leads to the renamed
symbol.
-/

namespace Catalog

open Syntax

variable (ρ : String → String)

/-! ## Bindings and steps -/

/-- The form with the variables of its value renamed. -/
def BindingForm.rename : BindingForm → BindingForm
  | assigned value => assigned (value.rename ρ)
  | form => form

/-- The binding with its nodes renamed. -/
def Binding.rename (b : Binding) : Binding :=
  { form := b.form.rename ρ, owner := b.owner.rename ρ }

/-- The step with its variables renamed. -/
def Step.rename : Step → Step
  | bind fixed name binding => bind fixed (ρ name) (binding.rename ρ)
  | enter kind info name body => enter kind info name (body.map (Node.rename ρ))
  | declareGlobal names => declareGlobal (names.map ρ)
  | declareNonlocal names => declareNonlocal (names.map ρ)
  | step => step

variable {ρ}

@[simp] theorem BindingForm.target?_rename (form : BindingForm) :
    (form.rename ρ).target? = form.target? := by
  cases form <;> rfl

@[simp] theorem BindingForm.isDeclaration_rename (form : BindingForm) :
    (form.rename ρ).isDeclaration = form.isDeclaration := by
  cases form <;> rfl

@[simp] theorem Binding.form_rename (b : Binding) : (b.rename ρ).form = b.form.rename ρ := rfl

@[simp] theorem Binding.owner_rename (b : Binding) : (b.rename ρ).owner = b.owner.rename ρ := rfl

theorem Binding.rename_self (b : Binding) : b.rename (fun v => v) = b := by
  obtain ⟨form, owner⟩ := b
  cases form <;> simp [rename, BindingForm.rename]

namespace Syntax.Node

/-- The names that a node defines, or imports under their own names. -/
def declared : Node → List String
  | functionDef _ _ label .. => [label]
  | classDef _ label .. => [label]
  | importAlias _ label none => [label, Dotted.head label]
  | _ => []

/-! ## Steps that need no step of a part -/

theorem declarations_rename (ns : List Node) :
    declarations (ns.map (rename ρ)) = (declarations ns).map (Step.rename ρ) := by
  match ns with
  | [] => simp [declarations]
  | n :: rest =>
    have parts : (rename ρ n).ownParts = n.ownParts.map (rename ρ) := by
      cases n <;> simp [rename, ownParts, children, toList_map_rename]
    have own : (rename ρ n).ownDeclarations = n.ownDeclarations.map (Step.rename ρ) := by
      cases n <;> rfl
    rw [List.map_cons, declarations_cons, declarations_cons, parts, own, ← List.map_append,
      declarations_rename (n.ownParts ++ rest), List.map_append]
termination_by totalSize ns
decreasing_by
  have := totalSize_ownParts n
  simp
  omega

theorem clauseTargetSteps_rename (owner target : Node) :
    clauseTargetSteps (owner.rename ρ) (target.rename ρ) =
      (clauseTargetSteps owner target).map (Step.rename ρ) := by
  have walk := preorder_rename (ρ := ρ) [target]
  rw [List.map_singleton] at walk
  rw [clauseTargetSteps, walk, List.flatMap_map, clauseTargetSteps, List.map_flatMap]
  refine List.flatMap_congr fun n _ => ?_
  cases n with
  | name info id context => cases context <;> rfl
  | _ => rfl

theorem parameterSteps_rename (n : Node) :
    parameterSteps (n.rename ρ) = (parameterSteps n).map (Step.rename ρ) := by
  cases n with
  | arguments info posonly args vararg kwonly kwDefaults kwarg defaults =>
    rw [rename, parameterSteps, parameterSteps, List.map_flatMap]
    simp only [renameList_eq_map, renameOption_eq_map, toList_map_rename, ← List.map_append,
      List.flatMap_map]
    refine List.flatMap_congr fun n _ => ?_
    cases n <;> rfl
  | _ => rfl

theorem captureStep_rename (owner : Node) (label : Option String) :
    captureStep (owner.rename ρ) (label.map ρ) = (captureStep owner label).map (Step.rename ρ) := by
  cases label <;> rfl

theorem importStep_rename (owner : Node) {n : Node} (fixed : ∀ v ∈ n.declared, ρ v = v) :
    importStep (owner.rename ρ) (n.rename ρ) = (importStep owner n).map (Step.rename ρ) := by
  cases n with
  | importAlias info label asName =>
    cases asName with
    | none =>
      have kept : ρ (Dotted.head label) = Dotted.head label := fixed _ (by simp [declared])
      simp [rename, importStep, Step.rename, Binding.rename, BindingForm.rename, kept]
    | some asName => rfl
  | _ => rfl

theorem importFromStep_rename (owner : Node) (module : Option String) {n : Node}
    (fixed : ∀ v ∈ n.declared, ρ v = v) :
    importFromStep (owner.rename ρ) module (n.rename ρ) =
      (importFromStep owner module n).map (Step.rename ρ) := by
  cases n with
  | importAlias info label asName =>
    simp only [rename, importFromStep]
    split
    · cases module <;> rfl
    · have kept : (asName.map ρ).getD label = ρ (asName.getD label) := by
        cases asName with
        | none => exact (fixed label (by simp [declared])).symm
        | some asName => rfl
      rw [kept]
      cases module <;> rfl
  | _ => rfl

/-! ## Steps made of those of parts -/

section

variable {package : String}

/-- The steps of the renamed node are its renamed steps. -/
def StepsRename (ρ : String → String) (package : String) (n : Node) : Prop :=
  ∀ how : Option Binding, (n.rename ρ).steps package (how.map (Binding.rename ρ)) =
    (n.steps package how).map (Step.rename ρ)

theorem StepsRename.none {n : Node} (own : n.StepsRename ρ package) :
    (n.rename ρ).steps package Option.none = (n.steps package Option.none).map (Step.rename ρ) :=
  own Option.none

theorem stepsList_rename {l : List Node} (each : ∀ n ∈ l, n.StepsRename ρ package)
    (how : Option Binding) :
    stepsList package (how.map (Binding.rename ρ)) (l.map (rename ρ)) =
      (stepsList package how l).map (Step.rename ρ) := by
  induction l with
  | nil => rfl
  | cons n rest ih =>
    obtain ⟨first, each⟩ := List.forall_mem_cons.mp each
    rw [List.map_cons, stepsList, stepsList, first how, ih each, List.map_append]

theorem stepsOption_rename {o : Option Node} (each : ∀ n ∈ o.toList, n.StepsRename ρ package) :
    stepsOption package (o.map (rename ρ)) = (stepsOption package o).map (Step.rename ρ) := by
  cases o with
  | none => rfl
  | some n => exact (each n (List.mem_singleton_self n)).none

theorem keywordSteps_rename {ns : List Node}
    (each : ∀ n ∈ ns, ∀ c ∈ n.children, c.StepsRename ρ package) :
    keywordSteps package (ns.map (rename ρ)) = (keywordSteps package ns).map (Step.rename ρ) := by
  induction ns with
  | nil => rfl
  | cons n rest ih =>
    obtain ⟨first, each⟩ := List.forall_mem_cons.mp each
    have own : keywordStep package (n.rename ρ) = (keywordStep package n).map (Step.rename ρ) := by
      cases n with
      | keyword info label value => exact (first value (by simp [children])).none
      | _ => rfl
    rw [List.map_cons, keywordSteps, keywordSteps, own, ih each, List.map_append]

theorem defaultSteps_rename {n : Node} (each : ∀ c ∈ n.children, c.StepsRename ρ package) :
    defaultSteps package (n.rename ρ) = (defaultSteps package n).map (Step.rename ρ) := by
  cases n with
  | arguments info posonly args vararg kwonly kwDefaults kwarg defaults =>
    have first := stepsList_rename (l := defaults)
      (fun c member => each c (by simp [children, member])) none
    have second := stepsList_rename (l := kwDefaults)
      (fun c member => each c (by simp [children, member])) none
    rw [Option.map_none] at first second
    rw [rename, defaultSteps, defaultSteps, renameList_eq_map, renameList_eq_map, first, second,
      List.map_append]
  | _ => rfl

theorem hintList_rename {ns : List Node}
    (each : ∀ n ∈ ns, ∀ c ∈ n.children, c.StepsRename ρ package) :
    hintList package (ns.map (rename ρ)) = (hintList package ns).map (Step.rename ρ) := by
  induction ns with
  | nil => rfl
  | cons n rest ih =>
    obtain ⟨first, each⟩ := List.forall_mem_cons.mp each
    have own : hintStep package (n.rename ρ) = (hintStep package n).map (Step.rename ρ) := by
      cases n with
      | arg info label hint =>
        rw [rename, hintStep, hintStep, renameOption_eq_map]
        exact stepsOption_rename first
      | _ => rfl
    rw [List.map_cons, hintList, hintList, own, ih each, List.map_append]

theorem hintSteps_rename {n : Node}
    (each : ∀ a ∈ n.children, ∀ c ∈ a.children, c.StepsRename ρ package) :
    hintSteps package (n.rename ρ) = (hintSteps package n).map (Step.rename ρ) := by
  cases n with
  | arguments info posonly args vararg kwonly kwDefaults kwarg defaults =>
    rw [rename, hintSteps, hintSteps]
    simp only [renameList_eq_map, renameOption_eq_map, hintOption_eq, toList_map_rename,
      ← hintList_append, ← List.map_append]
    refine hintList_rename fun a member => each a ?_
    simp only [children, List.mem_append] at member ⊢
    grind
  | _ => rfl

theorem clauseSteps_rename {ns : List Node}
    (each : ∀ n ∈ ns, ∀ c ∈ n.children, c.StepsRename ρ package) (first : Bool) :
    clauseSteps package first (ns.map (rename ρ)) =
      (clauseSteps package first ns).map (Step.rename ρ) := by
  induction ns generalizing first with
  | nil => rfl
  | cons n rest ih =>
    obtain ⟨parts, each⟩ := List.forall_mem_cons.mp each
    have own : clauseStep package first (n.rename ρ) =
        (clauseStep package first n).map (Step.rename ρ) := by
      cases n with
      | generator info target iter ifs =>
        have conditions := stepsList_rename (l := ifs)
          (fun c member => parts c (by simp [children, member])) none
        have targets := clauseTargetSteps_rename (ρ := ρ) (generator info target iter ifs) target
        have iterable := (parts iter (by simp [children])).none
        rw [Option.map_none] at conditions
        rw [rename, renameList_eq_map] at targets
        rw [rename, clauseStep, clauseStep, renameList_eq_map, targets, conditions]
        cases first with
        | true => simp
        | false => simp [iterable]
      | _ => rfl
    rw [List.map_cons, clauseSteps, clauseSteps, own, ih each, List.map_append]

theorem firstIterSteps_rename {ns : List Node}
    (each : ∀ n ∈ ns, ∀ c ∈ n.children, c.StepsRename ρ package) :
    firstIterSteps package (ns.map (rename ρ)) =
      (firstIterSteps package ns).map (Step.rename ρ) := by
  cases ns with
  | nil => rfl
  | cons n rest =>
    have parts := each n List.mem_cons_self
    cases n with
    | generator info target iter ifs => exact (parts iter (by simp [children])).none
    | _ => rfl

/-! ## All nodes -/

/-- The renaming keeps all names that are declared in the trees. -/
def KeepsDeclared (ρ : String → String) (ns : List Node) : Prop :=
  ∀ k ∈ preorder ns, ∀ v ∈ k.declared, ρ v = v

theorem KeepsDeclared.child {n c : Node} (kept : KeepsDeclared ρ [n]) (part : c ∈ n.children) :
    KeepsDeclared ρ [c] :=
  fun k inside => kept k (subset_of_child (fun _ member => member) part inside)

/-- The steps of a tree whose declared names are kept are renamed with the tree. -/
theorem steps_rename (n : Node) (kept : KeepsDeclared ρ [n]) : n.StepsRename ρ package := by
  have own : ∀ v ∈ n.declared, ρ v = v := kept n (mem_preorder_self n)
  have part : ∀ c ∈ n.children, c.StepsRename ρ package := fun c first =>
    steps_rename c (kept.child first)
  have below : ∀ c ∈ n.children, ∀ d ∈ c.children, d.StepsRename ρ package :=
    fun c first d second => steps_rename d ((kept.child first).child second)
  have deep : ∀ c ∈ n.children, ∀ d ∈ c.children, ∀ e ∈ d.children, e.StepsRename ρ package :=
    fun c first d second e third =>
      steps_rename e (((kept.child first).child second).child third)
  have list {l : List Node} (inside : ∀ c ∈ l, c ∈ n.children) (how : Option Binding) :
      stepsList package (how.map (Binding.rename ρ)) (l.map (rename ρ)) =
        (stepsList package how l).map (Step.rename ρ) :=
    stepsList_rename (fun c member => part c (inside c member)) how
  have plainList {l : List Node} (inside : ∀ c ∈ l, c ∈ n.children) :
      stepsList package none (l.map (rename ρ)) =
        (stepsList package none l).map (Step.rename ρ) := list inside none
  have option {o : Option Node} (inside : ∀ c ∈ o.toList, c ∈ n.children) :
      stepsOption package (o.map (rename ρ)) = (stepsOption package o).map (Step.rename ρ) :=
    stepsOption_rename fun c member => part c (inside c member)
  intro how
  cases n with
  | name info id context => cases context <;> cases how <;> rfl
  | constant | arguments | arg | generator | importAlias | globalNames | nonlocalNames => rfl
  | attr info value label | keyword info label value =>
    have value := (part value (by simp [children])).none
    simp only [rename, steps, value, List.map_cons, Step.rename]
  | call info func args keywords =>
    have func := (part func (by simp [children])).none
    have args := plainList (l := args) (by simp +contextual [children])
    have keywords := plainList (l := keywords) (by simp +contextual [children])
    simp only [rename, steps, renameList_eq_map, func, args, keywords, List.map_cons,
      List.map_append, List.cons_append, Step.rename]
  | binOp info isAdd left right =>
    have left := (part left (by simp [children])).none
    have right := (part right (by simp [children])).none
    simp only [rename, steps, left, right, List.map_cons, List.map_append, List.cons_append,
      Step.rename]
  | lambda info args body =>
    have body := (part body (by simp [children])).none
    have defaults := defaultSteps_rename (below args (by simp [children]))
    have hints := hintSteps_rename (deep args (by simp [children]))
    simp only [rename, steps, body, defaults, hints, parameterSteps_rename, List.map_cons,
      List.map_append, List.map_nil, List.cons_append, Step.rename]
  | comprehension info kind elements generators =>
    have each : ∀ g ∈ generators, ∀ c ∈ g.children, c.StepsRename ρ package := fun g member =>
      below g (by simp [children, member])
    have elements := plainList (l := elements) (by simp +contextual [children])
    simp only [rename, steps, renameList_eq_map, elements, firstIterSteps_rename each,
      clauseSteps_rename each, List.map_cons, List.map_append, List.map_nil, List.cons_append,
      Step.rename]
  | functionDef info async label args body decorators returns =>
    have label_kept : ρ label = label := own label (by simp [declared])
    have body_steps := plainList (l := body) (by simp +contextual [children])
    have decorators_steps := plainList (l := decorators) (by simp +contextual [children])
    have returns_steps := option (o := returns) (by simp +contextual [children])
    have defaults := defaultSteps_rename (below args (by simp [children]))
    have hints := hintSteps_rename (deep args (by simp [children]))
    simp only [rename, steps, renameList_eq_map, renameOption_eq_map, body_steps,
      decorators_steps, returns_steps, defaults, hints, parameterSteps_rename, declarations_rename,
      List.map_cons, List.map_append, List.map_nil, List.cons_append, Step.rename, Binding.rename,
      BindingForm.rename, label_kept]
  | classDef info label bases keywords body decorators =>
    have label_kept : ρ label = label := own label (by simp [declared])
    have each : ∀ k ∈ keywords, ∀ c ∈ k.children, c.StepsRename ρ package := fun k member =>
      below k (by simp [children, member])
    have body_steps := plainList (l := body) (by simp +contextual [children])
    have decorators_steps := plainList (l := decorators) (by simp +contextual [children])
    have bases_steps := plainList (l := bases) (by simp +contextual [children])
    simp only [rename, steps, renameList_eq_map, body_steps, decorators_steps, bases_steps,
      keywordSteps_rename each, declarations_rename, List.map_cons, List.map_append, List.map_nil,
      List.cons_append, Step.rename, Binding.rename, BindingForm.rename, label_kept]
  | assign info targets value =>
    have value_steps := (part value (by simp [children])).none
    have targets_steps := list (l := targets) (by simp +contextual [children])
      (some { form := .assigned value, owner := assign info targets value })
    simp only [Option.map_some, Binding.rename, BindingForm.rename, rename, renameList_eq_map]
      at targets_steps
    simp only [rename, steps, renameList_eq_map, value_steps, targets_steps, List.map_cons,
      List.map_append, List.cons_append, Step.rename]
  | annAssign info target hint value =>
    have hint_steps := (part hint (by simp [children])).none
    cases value with
    | none =>
      simp only [rename, renameOption, steps, hint_steps, id_rename, List.map_cons,
        List.map_append, List.map_nil, List.cons_append, Step.rename]
    | some value =>
      have value_steps := (part value (by simp [children])).none
      have target_steps := part target (by simp [children])
        (some { form := .assigned value, owner := annAssign info target hint (some value) })
      simp only [Option.map_some, Binding.rename, BindingForm.rename, rename, renameOption]
        at target_steps
      simp only [rename, renameOption, steps, hint_steps, value_steps, target_steps, List.map_cons,
        List.map_append, List.cons_append, Step.rename]
  | importModules info names =>
    have each : names.flatMap (fun n => importStep (rename ρ (importModules info names))
        (n.rename ρ)) = names.flatMap fun n =>
          (importStep (importModules info names) n).map (Step.rename ρ) :=
      List.flatMap_congr fun n member => importStep_rename _ fun v inside =>
        kept.child (by simpa [children] using member) n (mem_preorder_self n) v inside
    simp only [rename, renameList_eq_map] at each
    simp only [rename, steps, renameList_eq_map, List.flatMap_map, each, List.map_cons,
      List.map_flatMap, Step.rename]
  | importFrom info module level names =>
    have each : names.flatMap (fun n => importFromStep
        (rename ρ (importFrom info module level names))
        (ModuleName.absolute? module level package) (n.rename ρ)) = names.flatMap fun n =>
          (importFromStep (importFrom info module level names)
            (ModuleName.absolute? module level package) n).map (Step.rename ρ) :=
      List.flatMap_congr fun n member => importFromStep_rename _ _ fun v inside =>
        kept.child (by simpa [children] using member) n (mem_preorder_self n) v inside
    simp only [rename, renameList_eq_map] at each
    simp only [rename, steps, renameList_eq_map, List.flatMap_map, each, List.map_cons,
      List.map_flatMap, Step.rename]
  | exceptHandler info type label body =>
    have type_steps := option (o := type) (by simp +contextual [children])
    have body_steps := plainList (l := body) (by simp +contextual [children])
    have capture := captureStep_rename (ρ := ρ) (exceptHandler info type label body) label
    simp only [rename, renameList_eq_map, renameOption_eq_map] at capture
    simp only [rename, steps, renameList_eq_map, renameOption_eq_map, type_steps, body_steps,
      capture, List.map_cons, List.map_append, List.cons_append, Step.rename]
  | matchAs info pattern label =>
    have pattern_steps := option (o := pattern) (by simp [children])
    have capture := captureStep_rename (ρ := ρ) (matchAs info pattern label) label
    simp only [rename, renameOption_eq_map] at capture
    simp only [rename, steps, renameOption_eq_map, pattern_steps, capture, List.map_cons,
      List.map_append, List.cons_append, Step.rename]
  | matchStar info label =>
    have capture := captureStep_rename (ρ := ρ) (matchStar info label) label
    rw [rename] at capture
    simp only [rename, steps, capture, List.map_cons, Step.rename]
  | matchMapping info keys patterns rest =>
    have keys_steps := plainList (l := keys) (by simp +contextual [children])
    have patterns_steps := plainList (l := patterns) (by simp +contextual [children])
    have capture := captureStep_rename (ρ := ρ) (matchMapping info keys patterns rest) rest
    simp only [rename, renameList_eq_map] at capture
    simp only [rename, steps, renameList_eq_map, keys_steps, patterns_steps, capture,
      List.map_cons, List.map_append, List.cons_append, Step.rename]
  | plain info kind parts =>
    have parts_steps := plainList (l := parts) (by simp [children])
    simp only [rename, steps, renameList_eq_map, parts_steps, List.map_cons, Step.rename]
termination_by sizeOf n
decreasing_by
  · exact sizeOf_lt_of_mem_children first
  · exact (sizeOf_lt_of_mem_children second).trans (sizeOf_lt_of_mem_children first)
  · exact ((sizeOf_lt_of_mem_children third).trans (sizeOf_lt_of_mem_children second)).trans
      (sizeOf_lt_of_mem_children first)

end

end Syntax.Node

/-! ## Scopes -/

section

variable (ρ)

/-- The symbol of the renamed name. -/
def Symbol.rename (s : Symbol) : Symbol :=
  { name := ρ s.name, bindings := s.bindings.map (Binding.rename ρ) }

/-- The scope with its variables renamed. -/
def Scope.rename (s : Scope) : Scope :=
  { s with
    body := s.body.map (Node.rename ρ)
    symbols := s.symbols.map (Symbol.rename ρ)
    globals := s.globals.map ρ
    nonlocals := s.nonlocals.map ρ }

/-- The reference to the renamed symbol. -/
def SymbolRef.rename (ref : SymbolRef) : SymbolRef := { ref with name := ρ ref.name }

/-- The table with the variables of its scopes renamed. -/
def ScopeTable.rename (t : ScopeTable) : ScopeTable :=
  { t with scopes := t.scopes.map (Scope.rename ρ) }

/-- The reader with the variables of its table renamed. -/
def ScopeBuilder.rename (b : ScopeBuilder) : ScopeBuilder :=
  { b with table := b.table.rename ρ }

end

theorem SymbolRef.rename_injective (apart : Function.Injective ρ) :
    Function.Injective (rename ρ) := by
  rintro ⟨n, name⟩ ⟨m, other⟩ equal
  obtain ⟨scope, equal⟩ := SymbolRef.mk.inj equal
  cases scope
  cases apart equal
  rfl

theorem Symbol.definite?_rename (s : Symbol) :
    (s.rename ρ).definite? = s.definite?.map (Binding.rename ρ) := by
  have same (target : String) (bs : List Binding) :
      sameImports target (bs.map (Binding.rename ρ)) = sameImports target bs := by
    simp [sameImports, List.all_map, Function.comp_def]
  obtain ⟨name, _ | ⟨b, _ | ⟨c, rest⟩⟩⟩ := s
  · rfl
  · rfl
  · simp only [Symbol.rename, List.map_cons, definite?]
    rw [Binding.form_rename, BindingForm.target?_rename]
    cases b.form.target? with
    | none => rfl
    | some target =>
      dsimp only
      rw [← List.map_cons, same]
      split <;> rfl

namespace Scope

variable {s : Scope}

theorem find?_rename {p q : Symbol → Bool} {symbols : List Symbol}
    (same : ∀ symbol ∈ symbols, p (symbol.rename ρ) = q symbol) :
    (symbols.map (Symbol.rename ρ)).find? p = (symbols.find? q).map (Symbol.rename ρ) := by
  induction symbols with
  | nil => rfl
  | cons symbol rest ih =>
    obtain ⟨first, same⟩ := List.forall_mem_cons.mp same
    rw [List.map_cons, List.find?_cons, List.find?_cons, first, ih same]
    split <;> rfl

/-- A scope whose names are kept has the renamed symbols under the same names. -/
theorem symbol?_rename_of_kept (kept : ∀ symbol ∈ s.symbols, ρ symbol.name = symbol.name)
    (name : String) : (s.rename ρ).symbol? name = (s.symbol? name).map (Symbol.rename ρ) := by
  refine find?_rename fun symbol member => ?_
  simp only [Symbol.rename, kept symbol member]

theorem binds_rename_of_kept (kept : ∀ symbol ∈ s.symbols, ρ symbol.name = symbol.name)
    (name : String) : (s.rename ρ).binds name = s.binds name := by
  rw [binds, symbol?_rename_of_kept kept, Option.isSome_map, binds]

variable (apart : Function.Injective ρ)
include apart

theorem symbol?_rename (s : Scope) (name : String) :
    (s.rename ρ).symbol? (ρ name) = (s.symbol? name).map (Symbol.rename ρ) := by
  refine find?_rename fun symbol _ => ?_
  simp only [Symbol.rename, beq_eq_beq, apart.eq_iff]

theorem binds_rename (s : Scope) (name : String) :
    (s.rename ρ).binds (ρ name) = s.binds name := by
  rw [binds, symbol?_rename apart, Option.isSome_map, binds]

theorem contains_map (names : List String) (name : String) :
    (names.map ρ).contains (ρ name) = names.contains name := by
  rw [Bool.eq_iff_iff, List.contains_iff_mem, List.contains_iff_mem,
    List.mem_map_of_injective apart]

theorem addTo_rename (name : String) (b : Binding) (symbols : List Symbol) :
    addTo (ρ name) (b.rename ρ) (symbols.map (Symbol.rename ρ)) =
      (addTo name b symbols).map (Symbol.rename ρ) := by
  induction symbols with
  | nil => rfl
  | cons symbol rest ih =>
    rw [List.map_cons, addTo, addTo]
    have same : ((symbol.rename ρ).name == ρ name) = (symbol.name == name) := by
      simp only [Symbol.rename, beq_eq_beq, apart.eq_iff]
    rw [same]
    split
    · simp [Symbol.rename]
    · rw [ih, List.map_cons]

theorem bind_rename (s : Scope) (name : String) (b : Binding) :
    (s.rename ρ).bind (ρ name) (b.rename ρ) = (s.bind name b).rename ρ := by
  simp only [bind, rename, addTo_rename apart]

end Scope

namespace ScopeTable

variable {t : ScopeTable}

theorem get?_rename (t : ScopeTable) (n : Nat) :
    (t.rename ρ).get? n = (t.get? n).map (Scope.rename ρ) := by
  rw [get?, rename, Array.getElem?_map, get?]

theorem openedBy?_rename (t : ScopeTable) (node : Nat) :
    (t.rename ρ).openedBy? node = t.openedBy? node := by
  rw [openedBy?, rename, Array.findIdx?_map, openedBy?]
  rfl

theorem path_rename (t : ScopeTable) (n : Nat) : (t.rename ρ).path n = t.path n := by
  rw [path, get?_rename, path]
  cases t.get? n with
  | none => rfl
  | some s =>
    have names (outer : List Nat) : (outer.filterMap (t.rename ρ).get?).map Scope.name =
        (outer.filterMap t.get?).map Scope.name := by
      induction outer with
      | nil => rfl
      | cons k rest ih =>
        rw [List.filterMap_cons, List.filterMap_cons, get?_rename]
        cases t.get? k with
        | none => exact ih
        | some outer => simp [Scope.rename, ih]
    exact congrArg (· ++ [s.name]) (names s.outer.reverse)

/-- A scope whose names are kept has the same symbols. -/
theorem symbolIn?_rename_of_kept {n : Nat}
    (kept : ∀ s, t.get? n = some s → ∀ symbol ∈ s.symbols, ρ symbol.name = symbol.name)
    (name : String) : (t.rename ρ).symbolIn? n name = t.symbolIn? n name := by
  rw [symbolIn?, get?_rename, symbolIn?]
  cases found : t.get? n with
  | none => rfl
  | some s => simp only [Option.map_some, Scope.binds_rename_of_kept (kept s found)]

variable (apart : Function.Injective ρ)
include apart

theorem symbolIn?_rename (t : ScopeTable) (n : Nat) (name : String) :
    (t.rename ρ).symbolIn? n (ρ name) = (t.symbolIn? n name).map (SymbolRef.rename ρ) := by
  rw [symbolIn?, get?_rename, symbolIn?]
  cases t.get? n with
  | none => rfl
  | some s =>
    simp only [Option.map_some, Scope.binds_rename apart]
    split <;> rfl

theorem symbol?_rename (t : ScopeTable) (ref : SymbolRef) :
    (t.rename ρ).symbol? (ref.rename ρ) = (t.symbol? ref).map (Symbol.rename ρ) := by
  rw [symbol?, SymbolRef.rename, get?_rename, symbol?]
  cases t.get? ref.scope with
  | none => rfl
  | some s => exact Scope.symbol?_rename apart s ref.name

theorem lookupOuter_rename (t : ScopeTable) (name : String) (outer : List Nat) :
    (t.rename ρ).lookupOuter (ρ name) outer =
      (t.lookupOuter name outer).map (SymbolRef.rename ρ) := by
  induction outer with
  | nil => rfl
  | cons n rest ih =>
    rw [lookupOuter, get?_rename, lookupOuter]
    cases t.get? n with
    | none => rfl
    | some s =>
      simp only [Option.map_some, Scope.binds_rename apart, ih, symbolIn?_rename apart]
      simp only [Scope.rename, Scope.contains_map apart]
      split
      · rfl
      · split
        · rfl
        · split <;> rfl

theorem lookup_rename (t : ScopeTable) (n : Nat) (name : String) :
    (t.rename ρ).lookup n (ρ name) = (t.lookup n name).map (SymbolRef.rename ρ) := by
  rw [lookup, get?_rename, lookup]
  cases t.get? n with
  | none => rfl
  | some s =>
    simp only [Option.map_some, Scope.binds_rename apart, lookupOuter_rename apart,
      symbolIn?_rename apart]
    simp only [Scope.rename, Scope.contains_map apart]
    split
    · rfl
    · split <;> rfl

/-- A renamed name leads to the renamed symbol. -/
theorem symbolFor?_rename (t : ScopeTable) (node : Nat) (name : String) :
    (t.rename ρ).symbolFor? node (ρ name) =
      (t.symbolFor? node name).map (SymbolRef.rename ρ) := by
  rw [symbolFor?, symbolFor?]
  have place : (t.rename ρ).scopeAt? node = t.scopeAt? node := rfl
  rw [place]
  cases t.scopeAt? node with
  | none => rfl
  | some n => exact lookup_rename apart t n name

end ScopeTable

/-- A renaming that changes no name changes no scope. -/
theorem ScopeTable.rename_self (t : ScopeTable) : t.rename (fun v => v) = t := by
  have bindings : Binding.rename (fun v => v) = fun b => b := funext Binding.rename_self
  have symbols : Symbol.rename (fun v => v) = fun s => s := by
    funext s
    simp [Symbol.rename, bindings]
  have nodes : Node.rename (fun v => v) = fun n => n := funext Node.rename_self
  have scopes : Scope.rename (fun v => v) = fun s => s := by
    funext s
    simp [Scope.rename, symbols, nodes]
  simp [rename, scopes]

/-! ## Reading -/

namespace ScopeBuilder

theorem withoutComprehensions_rename (t : ScopeTable) (n : Nat) (outer : List Nat) :
    withoutComprehensions (t.rename ρ) n outer = withoutComprehensions t n outer := by
  induction outer generalizing n with
  | nil => rfl
  | cons next rest ih =>
    rw [withoutComprehensions, ScopeTable.get?_rename, withoutComprehensions]
    cases t.get? n with
    | none => rfl
    | some s => simp only [Option.map_some, Scope.rename, ih]

theorem modifyScope_rename (b : ScopeBuilder) (n : Nat) {g g' : Scope → Scope}
    (same : ∀ s, g' (s.rename ρ) = (g s).rename ρ) :
    (b.rename ρ).modifyScope n g' = (b.modifyScope n g).rename ρ := by
  simp only [modifyScope, rename, ScopeTable.rename]
  congr 2
  apply Array.ext_getElem?
  intro k
  rw [Array.getElem?_modify, Array.getElem?_map, Array.getElem?_map, Array.getElem?_modify]
  split
  · cases b.table.scopes[k]? with
    | none => rfl
    | some s => exact congrArg some (same s)
  · rfl

variable (apart : Function.Injective ρ)
include apart

theorem bindingScope_rename (b : ScopeBuilder) (name : String) :
    (b.rename ρ).bindingScope (ρ name) = b.bindingScope name := by
  have functions (outer : List Nat) :
      functionBinding? (b.table.rename ρ) (ρ name) outer = functionBinding? b.table name outer := by
    refine congrArg (List.find? · outer) (funext fun n => ?_)
    rw [ScopeTable.get?_rename]
    cases b.table.get? n with
    | none => rfl
    | some s =>
      simp only [Option.map_some, Scope.binds_rename apart]
      rfl
  simp only [bindingScope, rename, withoutComprehensions_rename, ScopeTable.get?_rename, functions]
  cases b.table.get? (withoutComprehensions b.table b.current b.outer).1 with
  | none => rfl
  | some s => simp only [Option.map_some, Scope.rename, Scope.contains_map apart]

/-- A renamed step does to the renamed table what the step does to the table. -/
theorem take_rename (b : ScopeBuilder) (step : Step) :
    (b.rename ρ).take (step.rename ρ) = (b.take step).rename ρ := by
  cases step with
  | place node => rfl
  | bind fixed name binding =>
    simp only [Step.rename, take, bindingScope_rename apart]
    exact modifyScope_rename b _ fun s => Scope.bind_rename apart s name binding
  | enter kind info name body =>
    simp [Step.rename, take, rename, ScopeTable.rename, Scope.rename, Array.map_push]
  | leave =>
    obtain ⟨table, current, outer⟩ := b
    cases outer <;> rfl
  | declareGlobal names | declareNonlocal names =>
    exact modifyScope_rename b _ fun s => by simp [Scope.rename]
  | star module => exact modifyScope_rename b _ fun s => rfl

theorem run_rename (b : ScopeBuilder) (steps : List Step) :
    (steps.map (Step.rename ρ)).foldl take (b.rename ρ) = (steps.foldl take b).rename ρ := by
  induction steps generalizing b with
  | nil => rfl
  | cons step rest ih => rw [List.map_cons, List.foldl_cons, take_rename apart, ih, List.foldl_cons]

end ScopeBuilder

/-- The scopes of a renamed module are the renamed scopes. -/
theorem ScopeTable.ofModule_rename (apart : Function.Injective ρ) (name package : String)
    {body : List Node} (kept : Node.KeepsDeclared ρ body) :
    ofModule name package ⟨body.map (Node.rename ρ)⟩ =
      (ofModule name package ⟨body⟩).rename ρ := by
  have each : ∀ n ∈ body, n.StepsRename ρ package := fun n member =>
    Node.steps_rename n fun k inside => kept k (Node.preorder_subset member inside)
  have steps := Node.stepsList_rename each none
  rw [Option.map_none] at steps
  have start : ScopeBuilder.start name (body.map (Node.rename ρ)) =
      (ScopeBuilder.start name body).rename ρ := by
    simp [ScopeBuilder.start, ScopeBuilder.rename, rename, Scope.rename]
  rw [ofModule, steps, start, ScopeBuilder.run_rename apart]
  rfl

end Catalog
