import Catalog.Proofs.Scope.Bindings
import Catalog.Proofs.Scope.Statements
import Catalog.Proofs.Syntax.Statement
import Catalog.Source.Unit

/-!
# The bindings of a module that was read

The nodes of a module have different numbers, so each node has one place in the table of scopes,
and a name that is stored or deleted is bound at one step. Which of these bindings a lookup sees
follows from the scopes alone.
-/

namespace Catalog

open Syntax

/-! ## Places -/

/-- The nodes that a step places. -/
def Step.placed : Step → List Nat
  | place node => [node]
  | _ => []

/-- The nodes that are placed, in order. -/
def placedNodes (steps : List Step) : List Nat := steps.flatMap Step.placed

@[simp] theorem placedNodes_append (a b : List Step) :
    placedNodes (a ++ b) = placedNodes a ++ placedNodes b :=
  List.flatMap_append

@[simp] theorem placedNodes_cons (step : Step) (rest : List Step) :
    placedNodes (step :: rest) = step.placed ++ placedNodes rest :=
  List.flatMap_cons

@[simp] theorem placedNodes_nil : placedNodes [] = [] := rfl

namespace ScopeBuilder

theorem places_take (b : ScopeBuilder) (step : Step) :
    (b.take step).table.places.map Prod.fst =
      step.placed.reverse ++ b.table.places.map Prod.fst := by
  cases step with
  | leave =>
    rw [take]
    split <;> rfl
  | _ => rfl

theorem places_run (steps : List Step) (b : ScopeBuilder) :
    (steps.foldl take b).table.places.map Prod.fst =
      (placedNodes steps).reverse ++ b.table.places.map Prod.fst := by
  induction steps generalizing b with
  | nil => rfl
  | cons step rest ih =>
    rw [List.foldl_cons, ih, places_take, placedNodes_cons, List.reverse_append,
      List.append_assoc]

end ScopeBuilder

namespace Reads

variable {all : List Node} {f : Frame} {ns : Multiset Node} {l : List Step}

theorem placed_parameters {params : List Node}
    (parameters : ∀ n ∈ params, ∃ info label hint, n = .arg info label hint) :
    placedNodes (params.flatMap Node.parameterStep) = params.map Node.id := by
  induction params with
  | nil => rfl
  | cons n rest ih =>
    obtain ⟨first, parameters⟩ := List.forall_mem_cons.mp parameters
    rw [List.flatMap_cons, placedNodes_append, ih parameters]
    obtain ⟨info, label, hint, rfl⟩ := first
    rfl

theorem placed_declared {steps : List Step}
    (declares : ∀ step ∈ steps, step.isDeclaration = true) : placedNodes steps = [] := by
  refine List.flatMap_eq_nil_iff.mpr fun step member => ?_
  have declares := declares step member
  cases step with
  | place => cases declares
  | _ => rfl

/-- No node is placed more often than it is read. -/
theorem placed_le (read : Reads all f ns l) : (placedNodes l : Multiset Nat) ≤ ns.map Node.id := by
  induction read with
  | nil | skip | capture | star => simp [Step.placed]
  | append _ _ first second =>
    rw [placedNodes_append, ← Multiset.coe_add, Multiset.map_add]
    exact add_le_add first second
  | place | bind | clause => simp [Step.placed, Node.id, Node.info]
  | @declare f step declares _ =>
    have nothing : placedNodes [step] = [] := placed_declared (by simpa using declares)
    rw [nothing]
    exact Multiset.zero_le _
  | @enter f inner ns l info name body params nested declares parameters _ ih =>
    simp only [placedNodes_append, placedNodes_cons, placedNodes_nil, List.cons_append,
      Step.placed, placed_parameters parameters, placed_declared declares, List.nil_append,
      List.append_nil]
    rw [← Multiset.coe_add, Multiset.map_add, Multiset.map_coe]
    exact add_le_add le_rfl ih

end Reads

/-! ## Modules -/

namespace ScopeBuilder

variable {name : String} {body : List Node}

theorem start_fits : (start name body).Fits { kind := .module } :=
  ⟨_, rfl, rfl, rfl, by simp [start], fun _ => ⟨rfl, rfl⟩, fun nested => absurd rfl nested,
    fun nested => absurd rfl nested⟩

theorem start_module :
    ∃ s, (start name body).table.get? ScopeTable.moduleScope = some s ∧ s.kind = .module :=
  ⟨_, rfl, rfl⟩

end ScopeBuilder

namespace Reads

open ScopeBuilder

variable {body : List Node} {info : Info} {id : String} {l : List Step}

/-- Nothing is placed twice, if the nodes of the module have different numbers. -/
theorem nodup_places (name : String)
    (read : Reads (Node.preorder body) { kind := .module } (Node.nodes body) l)
    (different : (Module.id :: (Node.preorder body).map Node.id).Nodup) :
    ((l.foldl take (start name body)).table.places.map Prod.fst).Nodup := by
  have fewer := read.placed_le
  rw [Node.nodes, Multiset.map_coe] at fewer
  obtain ⟨unused, different⟩ := List.nodup_cons.mp different
  rw [places_run]
  refine List.nodup_append.mpr ⟨?_, List.nodup_singleton _, ?_⟩
  · exact List.nodup_reverse.mpr (Multiset.coe_nodup.mp
      (Multiset.nodup_of_le fewer (Multiset.coe_nodup.mpr different)))
  · rintro a placed b top rfl
    cases List.mem_singleton.mp top
    exact unused (Multiset.mem_coe.mp (Multiset.mem_of_le fewer (by simpa using placed)))

/-- The scope in which a name is bound is the one in which it stands. -/
theorem Occurrence.scopeAt?_eq {b : ScopeBuilder} (o : Occurrence b info id l)
    (different : ((l.foldl take b).table.places.map Prod.fst).Nodup) :
    (l.foldl take b).table.scopeAt? info.id = some o.reader.current := by
  obtain ⟨later, split⟩ := o.extends_bound.places
  rw [← split, List.map_append, List.map_cons] at different
  rw [ScopeTable.scopeAt?, ← split, List.lookup_eq_some_iff]
  refine ⟨later, o.reader.table.places, rfl, fun pair member => ?_⟩
  have apart := (List.nodup_append.mp different).2.2 pair.1 (List.mem_map_of_mem member) info.id
    List.mem_cons_self
  simpa using apart.symm

theorem Occurrence.not_placed {b : ScopeBuilder} (o : Occurrence b info id l)
    (different : ((l.foldl take b).table.places.map Prod.fst).Nodup) :
    info.id ∉ placedNodes o.before ∧ info.id ∉ placedNodes o.after := by
  have once : (placedNodes l).Nodup := by
    rw [places_run] at different
    exact List.nodup_reverse.mp (List.nodup_append.mp different).1
  rw [o.split, placedNodes_append, placedNodes_cons] at once
  obtain ⟨_, after, apart⟩ := List.nodup_append.mp once
  refine ⟨fun member => apart _ member _ List.mem_cons_self rfl, ?_⟩
  exact (List.nodup_cons.mp after).1

end Reads

namespace SourceUnit

/-- The binding of a name that is stored or deleted is recorded at one step, and the symbol to
which the name leads has it exactly if the scope of the name declares it global, or does not
declare it nonlocal, or both ways outwards end in the same function: the one taken when the
binding was recorded and the one taken through the finished table. -/
theorem binding_seen_iff (origin : Origin) (path : String) (identity : ModuleName.Identity)
    {source : String} {m : Module} (parsed : Module.parse source = .ok m)
    (tame : Node.Tame (Node.preorder m.body)) {info : Info} {id : String} {context : Context}
    (member : .name info id context ∈ Node.preorder m.body) (changes : context ≠ .load)
    (assigned : ¬ Node.Bare (Node.preorder m.body) (.name info id context)) :
    let u := ofModule origin path identity m
    ∃ o : Reads.Occurrence (ScopeBuilder.start u.moduleName u.body) info id
        (Node.stepsList u.package none u.body),
      (info.id ∉ placedNodes o.before ∧ info.id ∉ placedNodes o.after) ∧
      ∃ s, u.scopes.get? o.reader.current = some s ∧
        (o.SeenIn u.scopes ↔ id ∈ s.globals ∨ id ∉ s.nonlocals ∨ o.Reaches u.scopes) := by
  intro u
  have read : Reads (Node.preorder m.body) { kind := .module } (Node.nodes m.body)
      (Node.stepsList u.package none m.body) :=
    Node.reads_module (Module.shaped_of_parse parsed)
  obtain ⟨o⟩ := read.occurrence tame (b := .start u.moduleName u.body)
    ScopeBuilder.start_fits (Multiset.mem_coe.mpr member) changes assigned
  have different := read.nodup_places u.moduleName (Module.nodup_ids_of_parse parsed)
  exact ⟨o, o.not_placed different,
    Reads.Occurrence.seenIn_iff ScopeBuilder.start_module (o.scopeAt?_eq different)⟩

/-- The module stores the name at the given node, and has neither comprehensions nor annotated
assignments. -/
def storesAt (info : Info) (id : String) (m : Module) : Bool :=
  (Node.preorder m.body).any (fun
    | .name info' id' context => info' = info && id' = id && context = .store
    | _ => false) &&
  (Node.preorder m.body).all fun
    | .comprehension .. | .annAssign .. => false
    | _ => true

theorem tame_and_mem_of_storesAt {info : Info} {id : String} {m : Module}
    (stores : storesAt info id m = true) :
    Node.Tame (Node.preorder m.body) ∧ .name info id .store ∈ Node.preorder m.body ∧
      ¬ Node.Bare (Node.preorder m.body) (.name info id .store) := by
  obtain ⟨one, all⟩ := Bool.and_eq_true_iff.mp stores
  obtain ⟨n, member, same⟩ := List.any_eq_true.mp one
  refine ⟨fun info kind elements generators inside => ?_, ?_, ?_⟩
  · cases List.all_eq_true.mp all _ inside
  · split at same
    · simp only [Bool.and_eq_true, decide_eq_true_eq] at same
      obtain ⟨⟨rfl, rfl⟩, rfl⟩ := same
      exact member
    · cases same
  · rintro ⟨info, target, hint, inside, _⟩
    cases List.all_eq_true.mp all _ inside

/-- The name is bound in an inner function, and in the function around only after that. -/
theorem binding_seen_iff_nonlocal :
    ∃ m, Module.parse "def f():\n def g():\n  nonlocal x\n  x=a\n x=b\n" = .ok m ∧
      storesAt { id := 7, line := 4 } "x" m = true ∧
      let u := ofModule (.repository 0) "m.py" { name := "m", isPackage := false } m
      ∃ o : Reads.Occurrence (ScopeBuilder.start u.moduleName u.body) { id := 7, line := 4 } "x"
          (Node.stepsList u.package none u.body),
        (7 ∉ placedNodes o.before ∧ 7 ∉ placedNodes o.after) ∧
        ∃ s, u.scopes.get? o.reader.current = some s ∧
          (o.SeenIn u.scopes ↔ "x" ∈ s.globals ∨ "x" ∉ s.nonlocals ∨ o.Reaches u.scopes) := by
  have reads : (Module.parse "def f():\n def g():\n  nonlocal x\n  x=a\n x=b\n").toOption.any
      (storesAt { id := 7, line := 4 } "x") = true := by
    decide +kernel
  cases parsed : Module.parse "def f():\n def g():\n  nonlocal x\n  x=a\n x=b\n" with
  | error e =>
    rw [parsed] at reads
    cases reads
  | ok m =>
    rw [parsed] at reads
    obtain ⟨tame, member, assigned⟩ := tame_and_mem_of_storesAt reads
    exact ⟨m, rfl, reads, binding_seen_iff _ _ _ parsed tame member (by simp) assigned⟩

end SourceUnit

end Catalog
