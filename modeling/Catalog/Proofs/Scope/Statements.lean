import Catalog.Proofs.Scope.Reading

/-!
# How statements are read for their names

Targets bind the names that stand in them, unless a value is missing; definitions open a scope in
which the declarations come first. With the forms of expressions this covers all trees of the
language, so the steps of a module read its nodes.
-/

namespace Catalog.Syntax.Node

variable {package : String} {all : List Node} {f : Frame} {n k : Node}

/-! ## Targets -/

theorem readable_bound (info : Info) (id : String) (context : Context) :
    Readable package all (.target context) (name info id context) := by
  intro changes f how loose assigned
  have owned : (how.getD { form := .other, owner := name info id context }).Owned all := by
    cases how with
    | none => rintro ⟨⟩
    | some b =>
      intro declares
      rw [Option.getD_some, assigned b rfl] at declares
      cases declares
  rw [nodes_singleton, children, nodes_nil, add_zero]
  cases context with
  | load => exact absurd rfl changes
  | store => exact .bind info id .store (fun _ => loose) owned
  | del => exact .bind info id .del (fun _ => loose) owned

theorem readable_boundAttr {context : Context} {info : Info} {value : Node} {label : String}
    (inner : Readable package all .expression value) :
    Readable package all (.target context) (attr info value label) := by
  intro _ f how loose _
  exact Reads.node (by rintro ⟨_, _, _, ⟨⟩, _⟩) (inner f none fun _ inside => absurd inside loose)

theorem readable_subscript {context : Context} {info : Info} {parts : List Node}
    (inner : ∀ n ∈ parts, Readable package all .expression n) :
    Readable package all (.target context) (plain info .subscript parts) := by
  intro _ f how loose _
  exact readable_compound inner f how fun _ inside => absurd inside loose

theorem readable_group {context : Context} {info : Info} {kind : Kind} {parts : List Node}
    (inner : ∀ n ∈ parts, Readable package all (.target context) n) :
    Readable package all (.target context) (plain info kind parts) := by
  intro changes f how loose _
  refine Reads.node (by rintro ⟨_, _, _, ⟨⟩, _⟩) (Reads.stepsList fun n member => ?_)
  exact inner n member changes f none loose (by simp)

/-! ## Statements -/

theorem readable_functionDef {info : Info} {async : Bool} {label : String} {args : Node}
    {body decorators : List Node} {returns : Option Node}
    (inside : preorder [functionDef info async label args body decorators returns] ⊆ all)
    (parameters : Readable package all .arguments args)
    (statements : ∀ n ∈ body, Readable package all .part n)
    (before : ∀ n ∈ decorators, Readable package all .expression n)
    (result : ∀ n ∈ returns.toList, Readable package all .expression n) :
    Readable package all .part
      (functionDef info async label args body decorators returns) := by
  intro f loose _
  obtain ⟨params, outside, split, areArgs, steps_eq, outer⟩ := parameters
  have decorators_read := Reads.stepsList fun n member =>
    before n member f none fun _ inside => absurd inside loose
  have outer := outer f fun _ inside => absurd inside loose
  have returns_read := Reads.stepsOption fun n member =>
    result n member f none fun _ inside => absurd inside loose
  have binding : Reads all f 0 [.bind false label
      { form := .function
        owner := functionDef info async label args body decorators returns }] :=
    .capture label loose fun _ => ⟨inside (mem_preorder_self _), rfl⟩
  have body_read := Reads.stepsList fun n member =>
    statements n member { kind := .function, declared := declarations body } (by simp)
      (.inr (declarations_subset member))
  have scope : Reads all f _ _ :=
    .enter info label body params (by simp) isDeclaration_of_mem areArgs body_read
  have whole := Reads.node (n := functionDef info async label args body decorators returns)
    (by rintro ⟨_, _, _, ⟨⟩, _⟩)
    (((((decorators_read.append outer).append returns_read).append binding).append scope).of_eq
      (by
        simp only [children, List.cons_append, nodes_append, nodes_cons args (_ ++ _), split]
        abel))
  rw [steps, steps_eq]
  simpa [Node.id, Node.info] using whole

theorem readable_classDef {info : Info} {label : String}
    {bases keywords body decorators : List Node}
    (inside : preorder [classDef info label bases keywords body decorators] ⊆ all)
    (values : ∀ n ∈ bases, Readable package all .expression n)
    (named : ∀ n ∈ keywords, Readable package all .keyword n)
    (statements : ∀ n ∈ body, Readable package all .part n)
    (before : ∀ n ∈ decorators, Readable package all .expression n) :
    Readable package all .part (classDef info label bases keywords body decorators) := by
  intro f loose _
  have decorators_read := Reads.stepsList fun n member =>
    before n member f none fun _ inside => absurd inside loose
  have bases_read := Reads.stepsList fun n member =>
    values n member f none fun _ inside => absurd inside loose
  have keywords_read := reads_keywordSteps fun n member =>
    (named n member f fun _ inside => absurd inside loose).2
  have binding : Reads all f 0 [.bind false label
      { form := .classDef, owner := classDef info label bases keywords body decorators }] :=
    .capture label loose fun _ => ⟨inside (mem_preorder_self _), rfl⟩
  have body_read := Reads.stepsList fun n member =>
    statements n member { kind := .classBody, declared := declarations body } (by simp)
      (.inr (declarations_subset member))
  have scope : Reads all f _ _ :=
    .enter info label body [] (by simp) isDeclaration_of_mem (by simp) body_read
  have whole := Reads.node (n := classDef info label bases keywords body decorators)
    (by rintro ⟨_, _, _, ⟨⟩, _⟩)
    (((((decorators_read.append bases_read).append keywords_read).append binding).append
      scope).of_eq
      (by
        simp only [children, nodes_append, Multiset.coe_nil]
        abel))
  rw [steps]
  simpa [Node.id, Node.info] using whole

theorem readable_assign {info : Info} {targets : List Node} {value : Node}
    (bound : ∀ n ∈ targets, Readable package all (.target .store) n)
    (assigned : Readable package all .expression value) :
    Readable package all .part (assign info targets value) := by
  intro f loose _
  have value_read := assigned f none fun _ inside => absurd inside loose
  have targets_read := Reads.stepsList fun n member =>
    bound n member (by simp) f
      (some { form := .assigned value, owner := assign info targets value })
      loose (by simp [BindingForm.isDeclaration])
  refine Reads.node (by rintro ⟨_, _, _, ⟨⟩, _⟩) ((value_read.append targets_read).of_eq ?_)
  rw [children, nodes_append, add_comm]

/-- Nodes that bind nothing are passed over. -/
theorem reads_skipped {ns : List Node} (unbound : ∀ n ∈ ns, n.IsBound → n.Bare all) :
    Reads all f ns [] := by
  induction ns with
  | nil => exact .nil f
  | cons n rest ih =>
    obtain ⟨first, unbound⟩ := List.forall_mem_cons.mp unbound
    rw [← Multiset.cons_coe, ← Multiset.singleton_add]
    exact (Reads.skip f n first).append (ih unbound)

theorem readable_annAssign {info : Info} {target hint : Node} {value : Option Node}
    (inside : preorder [annAssign info target hint value] ⊆ all)
    (bound : Readable package all (.target .store) target)
    (hinted : Readable package all .expression hint)
    (assigned : ∀ n ∈ value.toList, Readable package all .expression n) :
    Readable package all .part (annAssign info target hint value) := by
  intro f loose _
  have hint_read := hinted f none fun _ inside => absurd inside loose
  cases value with
  | none =>
    have bare : ∀ n ∈ preorder [target], n.IsBound → n.Bare all := fun n member _ =>
      ⟨info, target, hint, inside (mem_preorder_self _), member⟩
    have own : Reads all f {target} [.place target.id] :=
      .place f target (bare target (mem_preorder_self target))
    have parts : Reads all f (nodes target.children) [] :=
      reads_skipped fun n member => bare n (preorder_children_subset target member)
    refine Reads.node (by rintro ⟨_, _, _, ⟨⟩, _⟩) ?_
    rw [← List.append_nil [Step.place target.id]]
    refine (hint_read.append (own.append parts)).of_eq ?_
    rw [children, Option.toList_none, nodes_cons target [hint], nodes_singleton target, add_comm]
  | some value =>
    have value_read := assigned value (by simp) f none fun _ inside => absurd inside loose
    have target_read := bound (by simp) f
      (some { form := .assigned value, owner := annAssign info target hint (some value) }) loose
      (by simp [BindingForm.isDeclaration])
    refine Reads.node (by rintro ⟨_, _, _, ⟨⟩, _⟩)
      (((hint_read.append value_read).append target_read).of_eq ?_)
    rw [children, Option.toList_some, nodes_cons target [hint, value], nodes_cons hint [value]]
    abel

theorem reads_imports {names : List Node} {step : Node → List Step}
    (named : ∀ n ∈ names, nodes [n] = {n} ∧ ¬ n.IsBound)
    (bound : ∀ n ∈ names, Reads all f 0 (step n)) :
    Reads all f (nodes names) (names.flatMap step) := by
  induction names with
  | nil =>
    rw [nodes_nil]
    exact .nil f
  | cons n rest ih =>
    obtain ⟨⟨own, free⟩, named⟩ := List.forall_mem_cons.mp named
    obtain ⟨first, bound⟩ := List.forall_mem_cons.mp bound
    rw [nodes_cons, own, List.flatMap_cons]
    refine Reads.append ?_ (ih named bound)
    have skipped : Reads all f {n} [] := .skip f n fun bound => absurd bound free
    exact (skipped.append first).of_eq (add_zero _)

theorem reads_importStep {owner : Node} (loose : f.kind ≠ .comprehension) (n : Node) :
    Reads all f 0 (importStep owner n) := by
  unfold importStep
  split
  · exact .capture _ loose (by rintro ⟨⟩)
  · exact .capture _ loose (by rintro ⟨⟩)
  · exact .nil f

theorem reads_importFromStep {owner : Node} {module : Option String}
    (loose : f.kind ≠ .comprehension) (n : Node) :
    Reads all f 0 (importFromStep owner module n) := by
  unfold importFromStep
  split
  · split
    · cases module with
      | none => exact .nil f
      | some m => exact .star f m
    · cases module with
      | none => exact .capture _ loose (by rintro ⟨⟩)
      | some m => exact .capture _ loose (by rintro ⟨⟩)
  · exact .nil f

theorem reads_captureStep {owner : Node} (loose : f.kind ≠ .comprehension)
    (label : Option String) : Reads all f 0 (captureStep owner label) := by
  cases label with
  | none => exact .nil f
  | some label => exact .capture label loose (by rintro ⟨⟩)

theorem readable_declaration {n : Node} {step : Step} (free : ¬ n.IsBound)
    (parts : n.children = []) (own : n.ownDeclarations = [step])
    (declares : step.isDeclaration = true) (steps_eq : n.steps package none = [.place n.id, step]) :
    Readable package all .part n := by
  intro f _ covered
  have declared : Reads all f 0 [step] := by
    refine .declare declares (covered.imp_right fun known => known ?_)
    rw [declarations_cons, own]
    exact List.mem_append_left _ (List.mem_singleton_self step)
  rw [steps_eq]
  refine Reads.node free (declared.of_eq ?_)
  rw [parts, nodes_nil]

theorem readable_exceptHandler {info : Info} {type : Option Node} {label : Option String}
    {body : List Node} (caught : ∀ n ∈ type.toList, Readable package all .expression n)
    (statements : ∀ n ∈ body, Readable package all .part n) :
    Readable package all .part (exceptHandler info type label body) := by
  intro f loose covered
  have type_read := Reads.stepsOption fun n member =>
    caught n member f none fun _ inside => absurd inside loose
  have body_read := Reads.stepsList fun n member =>
    statements n member f loose (covered.child (by simp [ownParts, children, member]))
  refine Reads.node (by rintro ⟨_, _, _, ⟨⟩, _⟩)
    (((type_read.append (reads_captureStep loose label)).append body_read).of_eq ?_)
  rw [children, nodes_append, add_zero]

theorem readable_matchAs {info : Info} {pattern : Option Node} {label : Option String}
    (inner : ∀ n ∈ pattern.toList, Readable package all .part n) :
    Readable package all .part (matchAs info pattern label) := by
  intro f loose covered
  have pattern_read := Reads.stepsOption fun n member =>
    inner n member f loose (covered.child (by simpa [ownParts, children] using member))
  exact Reads.node (by rintro ⟨_, _, _, ⟨⟩, _⟩)
    ((pattern_read.append (reads_captureStep loose label)).of_eq (add_zero _))

theorem readable_matchMapping {info : Info} {keys patterns : List Node} {rest : Option String}
    (values : ∀ n ∈ keys, Readable package all .expression n)
    (inner : ∀ n ∈ patterns, Readable package all .part n) :
    Readable package all .part (matchMapping info keys patterns rest) := by
  intro f loose covered
  have keys_read := Reads.stepsList fun n member =>
    values n member f none fun _ inside => absurd inside loose
  have patterns_read := Reads.stepsList fun n member =>
    inner n member f loose (covered.child (by simp [ownParts, children, member]))
  refine Reads.node (by rintro ⟨_, _, _, ⟨⟩, _⟩)
    (((keys_read.append patterns_read).append (reads_captureStep loose rest)).of_eq ?_)
  rw [children, nodes_append, add_zero]

theorem readable_block {info : Info} {kind : Kind} {parts : List Node}
    (inner : ∀ n ∈ parts, Readable package all .part n) :
    Readable package all .part (plain info kind parts) := by
  intro f loose covered
  refine Reads.node (by rintro ⟨_, _, _, ⟨⟩, _⟩) (Reads.stepsList fun n member => ?_)
  exact inner n member f loose (covered.child member)

/-! ## All forms -/

/-- The steps of a tree of the language read its nodes. -/
theorem readable_of_shaped {c : Category} {n : Node} (shaped : Shaped c n)
    (inside : preorder [n] ⊆ all) : Readable package all c n := by
  have part {k n : Node} (inside : preorder [n] ⊆ all) (member : k ∈ n.children) :=
    subset_of_child inside member
  induction shaped with
  | load info => exact fun f how _ => Reads.node (not_isBound_load info _) (nodes_nil ▸ .nil f)
  | attr _ ih =>
    intro f how quiet
    exact Reads.node (by rintro ⟨_, _, _, ⟨⟩, _⟩)
      (ih (part inside (by simp [children])) f none (quiet.child (by simp [children])))
  | constant =>
    exact fun f how _ => Reads.node (by rintro ⟨_, _, _, ⟨⟩, _⟩) (nodes_nil ▸ .nil f)
  | call _ _ _ callee values named =>
    exact readable_call (callee (part inside (by simp [children])))
      (fun n member => values n member (part inside (by simp [children, member])))
      (fun n member => named n member (part inside (by simp [children, member])))
  | binOp _ _ first second =>
    exact readable_binOp (first (part inside (by simp [children])))
      (second (part inside (by simp [children])))
  | lambda _ _ parameters result =>
    exact readable_lambda (parameters (part inside (by simp [children])))
      (result (part inside (by simp [children])))
  | comprehension _ _ values clauses =>
    exact readable_comprehension inside
      (fun n member => values n member (part inside (by simp [children, member])))
      (fun n member => clauses n member (part inside (by simp [children, member])))
  | named _ _ ih => exact readable_named (ih (part inside (by simp [children])))
  | compound _ ih => exact readable_compound fun n member => ih n member (part inside member)
  | keyword _ ih => exact readable_keyword (ih (part inside (by simp [children])))
  | generator bound _ _ _ iterable conditions =>
    exact readable_generator bound (iterable (part inside (by simp [children])))
      (fun n member => conditions n member (part inside (by simp [children, member])))
  | arguments _ _ parameters values =>
    refine readable_arguments (fun n member => parameters n member (part inside ?_))
      (fun n member => values n member (part inside ?_))
    · simp only [children, List.mem_append] at member ⊢
      grind
    · simp only [children, List.mem_append] at member ⊢
      grind
  | parameter _ _ ih => exact readable_parameter fun n member => ih n member (part inside member)
  | imported | member =>
    refine ⟨?_, by rintro ⟨_, _, _, ⟨⟩, _⟩⟩
    rw [nodes_singleton, children, nodes_nil, add_zero]
  | bound info context => exact readable_bound info _ context
  | boundAttr _ ih => exact readable_boundAttr (ih (part inside (by simp [children])))
  | subscript _ ih => exact readable_subscript fun n member => ih n member (part inside member)
  | group _ ih => exact readable_group fun n member => ih n member (part inside member)
  | ofExpression _ ih => exact fun f loose _ => ih inside f none fun _ inside => absurd inside loose
  | ofTarget changes _ ih => exact fun f loose _ => ih inside changes f none loose (by simp)
  | functionDef _ _ _ _ _ parameters statements before result =>
    exact readable_functionDef inside (parameters (part inside (by simp [children])))
      (fun n member => statements n member (part inside (by simp [children, member])))
      (fun n member => before n member (part inside (by simp [children, member])))
      (fun n member => result n member
        (part inside (by simp only [children, List.mem_append, member, or_true])))
  | classDef _ _ _ _ _ values named statements before =>
    exact readable_classDef inside
      (fun n member => values n member (part inside (by simp [children, member])))
      (fun n member => named n member (part inside (by simp [children, member])))
      (fun n member => statements n member (part inside (by simp [children, member])))
      (fun n member => before n member (part inside (by simp [children, member])))
  | assign _ _ bound assigned =>
    exact readable_assign
      (fun n member => bound n member (part inside (by simp [children, member])))
      (assigned (part inside (by simp [children])))
  | annAssign _ _ _ bound hinted assigned =>
    exact readable_annAssign inside (bound (part inside (by simp [children])))
      (hinted (part inside (by simp [children])))
      (fun n member => assigned n member
        (part inside (by simp only [children, List.mem_cons, member, or_true])))
  | importModules _ ih =>
    intro f loose _
    exact Reads.node (by rintro ⟨_, _, _, ⟨⟩, _⟩)
      (reads_imports (fun n member => ih n member (part inside member))
        fun n _ => reads_importStep loose n)
  | importFrom _ _ ih =>
    intro f loose _
    exact Reads.node (by rintro ⟨_, _, _, ⟨⟩, _⟩)
      (reads_imports (fun n member => ih n member (part inside member))
        fun n _ => reads_importFromStep loose n)
  | globalNames info names =>
    exact readable_declaration (by rintro ⟨_, _, _, ⟨⟩, _⟩) rfl rfl rfl rfl
  | nonlocalNames info names =>
    exact readable_declaration (by rintro ⟨_, _, _, ⟨⟩, _⟩) rfl rfl rfl rfl
  | exceptHandler _ _ _ caught statements =>
    exact readable_exceptHandler
      (fun n member => caught n member
        (part inside (by simp only [children, List.mem_append, member, true_or])))
      (fun n member => statements n member (part inside (by simp [children, member])))
  | matchAs _ _ ih => exact readable_matchAs fun n member => ih n member (part inside member)
  | matchStar info =>
    exact fun f loose _ => Reads.node (by rintro ⟨_, _, _, ⟨⟩, _⟩)
      (nodes_nil ▸ reads_captureStep loose _)
  | matchMapping _ _ _ values patterns =>
    exact readable_matchMapping
      (fun n member => values n member (part inside (by simp [children, member])))
      (fun n member => patterns n member (part inside (by simp [children, member])))
  | block _ ih => exact readable_block fun n member => ih n member (part inside member)

/-- The steps of the statements of a module read its nodes. -/
theorem reads_module {body : List Node} (shaped : ∀ n ∈ body, Shaped .part n) :
    Reads (preorder body) { kind := .module } (nodes body) (stepsList package none body) :=
  Reads.stepsList fun n member =>
    readable_of_shaped (shaped n member) (preorder_subset member) _ (by simp) (.inl rfl)

end Catalog.Syntax.Node
