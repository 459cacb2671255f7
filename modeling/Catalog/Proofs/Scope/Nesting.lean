import Catalog.Proofs.Scope.Balance
import Catalog.Scan.Registration
import Mathlib.Data.List.Nodup

/-!
# Scopes follow the nesting of nodes

The table of scopes of a module has one scope for each node that opens one, and it stands where the
node stands. Names stand in the scope of the innermost node that has them inside, or in that of the
module. So a function at the top of a module is found by its node, and none of the functions that
initialise a module is left out.
-/

namespace Catalog

open Syntax

/-! ## Forms of parts -/

namespace Syntax

theorem Shaped.parameters_isLoose {n : Node} (shaped : Shaped .arguments n) :
    ∀ k ∈ n :: n.parameters, k.isLoose = true := by
  cases shaped with
  | arguments parameters _ =>
    refine List.forall_mem_cons.mpr ⟨rfl, fun k member => ?_⟩
    cases parameters k member with
    | parameter => rfl

theorem Shaped.holders_isLoose {c : Category} {n : Node} (shaped : Shaped c n) :
    ∀ k ∈ n.holders ++ n.ownParameters, k.isLoose = true := by
  induction shaped with
  | lambda parameters _ | functionDef parameters _ _ _ => exact parameters.parameters_isLoose
  | @comprehension _ _ _ generators _ clauses =>
    intro k member
    have clause : k ∈ generators := by
      simpa [Node.holders, Node.ownParameters] using member
    cases clauses k clause with
    | generator => rfl
  | ofExpression _ ih | ofTarget _ _ ih => exact ih
  | _ => simp [Node.holders, Node.ownParameters]

theorem formed_of_shaped {ns : List Node} (each : ∀ n ∈ ns, Shaped .part n) : Node.Formed ns := by
  intro n member
  obtain ⟨c, shaped⟩ := Shaped.exists_of_mem (fun n known => ⟨_, each n known⟩) n member
  exact shaped.holders_isLoose

/-- The module is a tree of the language with numbered nodes. The target of an annotation without a
value is a name, and clauses of comprehensions assign to names only. -/
structure Module.WellFormed (m : Module) : Prop where
  statements : ∀ n ∈ m.body, Shaped .part n
  different : (Module.id :: (Node.preorder m.body).map Node.id).Nodup
  plain : Node.PlainTargets m.body

/-- Whether the targets of annotations without values and of comprehensions are plain. -/
def Module.assignsPlainly (m : Module) : Bool :=
  (Node.preorder m.body).all fun
    | .annAssign _ (.name ..) _ none => true
    | .annAssign _ _ _ none => false
    | .generator _ target _ _ => (Node.preorder [target]).all Node.isNameOrGroup
    | _ => true

theorem Module.wellFormed_of_parse {source : String} {m : Module} (parsed : parse source = .ok m)
    (plainly : m.assignsPlainly = true) : m.WellFormed := by
  have each := List.all_eq_true.mp plainly
  refine ⟨shaped_of_parse parsed, nodup_ids_of_parse parsed, ?_, ?_⟩
  · intro info target hint member
    have plain := each _ member
    cases target with
    | name inner id context => exact ⟨inner, id, context, rfl⟩
    | _ => cases plain
  · intro info target iter ifs member
    exact List.all_eq_true.mp (each _ member)

end Syntax

/-! ## Placed nodes -/

theorem lookup_eq_of_mem {l : List (Nat × Nat)} (different : (l.map Prod.fst).Nodup) {p : Nat × Nat}
    (member : p ∈ l) : l.lookup p.1 = some p.2 := by
  induction l with
  | nil => cases member
  | cons q rest ih =>
    obtain ⟨new, different⟩ := List.nodup_cons.mp different
    rcases List.mem_cons.mp member with rfl | member
    · exact List.lookup_cons_self
    · have other : (p.1 == q.1) = false := by
        refine beq_eq_false_iff_ne.mpr fun same => new ?_
        rw [← same]
        exact List.mem_map_of_mem member
      rw [List.lookup_cons, other]
      exact ih different member

namespace Syntax.Module.WellFormed

open ScopeBuilder

variable {m : Module} (formed : m.WellFormed) (name package : String)
include formed

/-- The steps of the module lay out its nodes. -/
theorem lays : Lays Module.id (Node.layout Module.id m.body) (Node.bound m.body)
    (Node.stepsList package none m.body) :=
  Node.laidOut_module formed.statements formed.plain

/-- Nodes that are placed in the scope of a node are found in the scope that this node opens. -/
theorem scopeAt?_of_placed {k g : Nat} (placed : (k, g) ∈
    happens placedAt [Module.id] (Node.stepsList package none m.body)) :
    ∃ i, (ScopeTable.ofModule name package m).scopeAt? k = some i ∧
      (ScopeTable.ofModule name package m).nodeAt i = some g := by
  have places := (start_within name m.body).places_run (ScopeTable.Keeps.refl
    ((Node.stepsList package none m.body).foldl ScopeBuilder.take (start name m.body)).table)
  have here : (k, some g) ∈
      ((ScopeTable.ofModule name package m).places.map fun p =>
        (p.1, (ScopeTable.ofModule name package m).nodeAt p.2) : Multiset (Nat × Option Nat)) := by
    refine places ▸ Multiset.mem_add.mpr (.inl ?_)
    exact Multiset.mem_map.mpr ⟨(k, g), placed, rfl⟩
  obtain ⟨p, member, same⟩ := List.mem_map.mp (Multiset.mem_coe.mp here)
  obtain ⟨rfl, node⟩ := Prod.mk.inj same
  refine ⟨p.2, lookup_eq_of_mem ?_ member, node⟩
  exact (Node.reads_module formed.statements).nodup_places name formed.different

/-- The scopes of the module are its own and those of the nodes that open one. -/
theorem frames_eq :
    (((ScopeTable.ofModule name package m).scopes.toList.map
      (frame (ScopeTable.ofModule name package m)) : List _) :
        Multiset (ScopeKind × Nat × Option Nat)) =
      {(.module, Module.id, none)} +
        ((Node.layout Module.id m.body).bind openings).map fun p => (p.1, p.2.1, some p.2.2) := by
  have frames := (start_within name m.body).frames_run (ScopeTable.Keeps.refl
    ((Node.stepsList package none m.body).foldl ScopeBuilder.take (start name m.body)).table)
  rw [(formed.lays package).opened []] at frames
  exact frames

theorem openedBy?_eq {k g : Nat}
    (own : (ScopeTable.ofModule name package m).nodeAt k = some g) :
    (ScopeTable.ofModule name package m).openedBy? g = some k := by
  obtain ⟨s, found, rfl⟩ := Option.map_eq_some_iff.mp own
  exact ScopeTable.openedBy?_of_nodup
    (ScopeTable.nodup_nodes name package formed.statements formed.different) found

/-- No two scopes are opened by the same node. -/
theorem nodeAt_inj {i j g : Nat}
    (first : (ScopeTable.ofModule name package m).nodeAt i = some g)
    (second : (ScopeTable.ofModule name package m).nodeAt j = some g) : i = j :=
  Option.some.inj ((formed.openedBy?_eq name package first).symm.trans
    (formed.openedBy?_eq name package second))

/-- A node that opens a scope is found where it stands, and opens one scope, which stands there. -/
theorem exists_opened {e : Node} {g : Nat} {kind : ScopeKind}
    (here : (e, g) ∈ Node.layout Module.id m.body) (opens : e.scopeKind? = some kind) :
    ∃ k s around, (ScopeTable.ofModule name package m).openedBy? e.id = some k ∧
      (ScopeTable.ofModule name package m).get? k = some s ∧ s.node = e.id ∧ s.kind = kind ∧
      (ScopeTable.ofModule name package m).scopeAt? e.id = some around ∧
      s.outer.head? = some around := by
  have known : (kind, e.id, some g) ∈
      ((ScopeTable.ofModule name package m).scopes.toList.map
        (frame (ScopeTable.ofModule name package m)) : Multiset _) := by
    refine formed.frames_eq name package ▸ Multiset.mem_add.mpr (.inr ?_)
    refine Multiset.mem_map.mpr ⟨(kind, e.id, g), Multiset.mem_bind.mpr ⟨(e, g), here, ?_⟩, rfl⟩
    simp [openings, opens]
  obtain ⟨s, member, same⟩ := List.mem_map.mp (Multiset.mem_coe.mp known)
  simp only [frame, Prod.mk.injEq] at same
  obtain ⟨sameKind, node, outer⟩ := same
  obtain ⟨k, found⟩ := List.mem_iff_getElem?.mp member
  rw [Array.getElem?_toList] at found
  have own : (ScopeTable.ofModule name package m).nodeAt k = some e.id := by
    rw [ScopeTable.nodeAt, ScopeTable.get?, found, Option.map_some, node]
  obtain ⟨around, stands, next⟩ := Option.bind_eq_some_iff.mp outer
  obtain ⟨i, place, home⟩ := formed.scopeAt?_of_placed name package
    ((formed.lays package).placed [] (e, g) here (by
      cases e with
      | arguments | generator | importAlias | keyword => cases opens
      | _ => rfl))
  rw [formed.nodeAt_inj name package home next] at place
  exact ⟨k, s, around, formed.openedBy?_eq name package own, found, node, sameKind, place, stands⟩

end Syntax.Module.WellFormed

/-! ## Entries -/

namespace LoadEntry

/-- The statement is one of the given functions. -/
def isInitializer (initFunctions : List String) : Node → Bool
  | .functionDef _ _ name .. => initFunctions.contains name
  | _ => false

/-- The entry is that of a function of the unit. -/
def IsOf (u : SourceUnit) (n : Node) (e : LoadEntry) : Prop :=
  ∃ info async name args body decorators returns,
    n = .functionDef info async name args body decorators returns ∧
      u.scopes.openedBy? info.id = some e.scope ∧ e.name = name ∧ e.line = info.line ∧ e.body = body

/-- If functions are found by their nodes, each of the given functions has an entry. -/
theorem forall₂_ofStatement? {u : SourceUnit} (initFunctions : List String) {ns : List Node}
    (opened : ∀ info async name args body decorators returns,
      .functionDef info async name args body decorators returns ∈ ns →
        ∃ k, u.scopes.openedBy? info.id = some k) :
    List.Forall₂ (IsOf u) (ns.filter (isInitializer initFunctions))
      (ns.filterMap (ofStatement? u initFunctions)) := by
  induction ns with
  | nil => exact .nil
  | cons n rest ih =>
    have others := ih fun info async name args body decorators returns member =>
      opened info async name args body decorators returns (List.mem_cons_of_mem n member)
    cases n with
    | functionDef info async name args body decorators returns =>
      obtain ⟨k, found⟩ := opened info async name args body decorators returns List.mem_cons_self
      by_cases given : initFunctions.contains name = true
      · rw [List.filter_cons_of_pos (by simpa [isInitializer] using given),
          List.filterMap_cons_some (b := { name, scope := k, line := info.line, body })
            (by rw [ofStatement?, if_pos given, found, Option.map_some])]
        exact .cons ⟨info, async, name, args, body, decorators, returns, rfl, found, rfl, rfl, rfl⟩
          others
      · rw [List.filter_cons_of_neg (by simpa [isInitializer] using given),
          List.filterMap_cons_none (by rw [ofStatement?, if_neg given])]
        exact others
    | _ => exact others

end LoadEntry

/-! ## Nesting -/

namespace SourceUnit

/-- Scopes and names of the unit are where the nesting of its nodes puts them. -/
structure Nested (u : SourceUnit) : Prop where
  /-- A node that opens a scope opens exactly one, and that one stands where the node stands. -/
  opened : ∀ e ∈ Node.preorder u.body, ∀ kind, e.scopeKind? = some kind →
    ∃ k s around, u.scopes.openedBy? e.id = some k ∧ u.scopes.get? k = some s ∧ s.kind = kind ∧
      (∀ j s', u.scopes.get? j = some s' → (s'.node = e.id ↔ j = k)) ∧
        u.scopes.scopeAt? e.id = some around ∧ s.outer.head? = some around
  /-- A name that a node has inside stands in the scope of the innermost such node. -/
  inner : ∀ info id context, .name info id context ∈ Node.preorder u.body →
    ∀ e, Node.Innermost u.body e (.name info id context) →
      ∃ k, u.scopes.openedBy? e.id = some k ∧ u.scopes.scopeAt? info.id = some k
  /-- Any other name stands in the scope of the module. -/
  top : ∀ info id context, .name info id context ∈ Node.preorder u.body →
    (∃ e, Node.Innermost u.body e (.name info id context)) ∨
      (∀ e ∈ Node.preorder u.body, ¬ e.Encloses (.name info id context)) ∧
        u.scopes.scopeAt? info.id = some ScopeTable.moduleScope
  /-- Decorators, defaults, hints, bases, keywords and the first iterable stand where their node
  stands. -/
  outer : ∀ e ∈ Node.preorder u.body, e.scopeKind?.isSome = true →
    ∀ info id context, .name info id context ∈ Node.preorder e.outside →
      (∀ e' ∈ Node.preorder e.outside, ¬ e'.Encloses (.name info id context)) →
        u.scopes.scopeAt? info.id = u.scopes.scopeAt? e.id
  /-- The functions that initialise the unit are its entries, after its own statements. -/
  entries : ∀ initFunctions, ∃ entries,
    LoadEntry.all u initFunctions =
      { name := LoadEntry.moduleEntry, scope := ScopeTable.moduleScope, line := 0
        body := u.body } :: entries ∧
      List.Forall₂ (LoadEntry.IsOf u) (u.body.filter (LoadEntry.isInitializer initFunctions))
        entries

theorem isLoose_of_scopeKind? {e : Node} {kind : ScopeKind} (opens : e.scopeKind? = some kind) :
    e.isLoose = false ∧ e.isPassedOver = false := by
  cases e with
  | lambda | functionDef | classDef | comprehension => exact ⟨rfl, rfl⟩
  | _ => cases opens

theorem exists_scopeKind?_of_encloses {e k : Node} (encloses : e.Encloses k) :
    ∃ kind, e.scopeKind? = some kind := by
  cases e with
  | lambda | functionDef | classDef | comprehension => exact ⟨_, rfl⟩
  | _ =>
    rw [Node.Encloses, Node.inside, Node.preorder] at encloses
    · cases encloses
    all_goals simp

/-- In every module of the language, scopes follow the nesting of nodes. -/
theorem nested_ofModule (origin : Origin) (path : String) (identity : ModuleName.Identity)
    {m : Module} (formed : m.WellFormed) : (ofModule origin path identity m).Nested := by
  have shape := formed_of_shaped formed.statements
  have opened {e : Node} {kind : ScopeKind} (known : e ∈ Node.preorder m.body)
      (opens : e.scopeKind? = some kind) := by
    have standing :=
      Node.exists_home Module.id shape known (isLoose_of_scopeKind? opens).1
    exact formed.exists_opened identity.name identity.package standing.choose_spec.1 opens
  have placed {k : Node} {g : Nat} (here : (k, g) ∈ Node.layout Module.id m.body)
      (own : k.isPassedOver = false) :=
    formed.scopeAt?_of_placed identity.name identity.package
      ((formed.lays identity.package).placed [] (k, g) here own)
  refine ⟨?_, ?_, ?_, ?_, ?_⟩
  · intro e known kind opens
    obtain ⟨k, s, around, found, scope, node, sameKind, place, outer⟩ := opened known opens
    refine ⟨k, s, around, found, scope, sameKind, fun j s' other => ⟨fun same => ?_, ?_⟩, place,
      outer⟩
    · refine formed.nodeAt_inj identity.name identity.package (g := e.id) ?_ ?_
      · exact Option.map_eq_some_iff.mpr ⟨s', other, same⟩
      · exact Option.map_eq_some_iff.mpr ⟨s, scope, node⟩
    · rintro rfl
      cases other.symm.trans scope
      exact node
  · intro info id context known e innermost
    obtain ⟨kind, opens⟩ := exists_scopeKind?_of_encloses innermost.encloses
    obtain ⟨i, place, node⟩ := placed (innermost.mem_layout shape rfl) rfl
    exact ⟨i, formed.openedBy?_eq identity.name identity.package node, place⟩
  · intro info id context known
    by_cases free : ∀ e ∈ Node.preorder m.body, ¬ e.Encloses (.name info id context)
    · obtain ⟨i, place, node⟩ := placed (Node.mem_layout_of_free shape known rfl free) rfl
      have start : (ScopeTable.ofModule identity.name identity.package m).nodeAt
          ScopeTable.moduleScope = some Module.id :=
        (ScopeBuilder.keeps_run _ _).nodeAt_eq
          (ScopeBuilder.start_within identity.name m.body).nodeAt_current
      cases formed.nodeAt_inj identity.name identity.package node start
      exact .inr ⟨free, place⟩
    · have enclosed : ∃ e ∈ Node.preorder m.body, e.Encloses (.name info id context) := by
        simpa using free
      obtain ⟨e, known, encloses⟩ := enclosed
      exact .inl (Node.exists_innermost known encloses)
  · intro e known opens info id context member free
    obtain ⟨kind, opens⟩ := Option.isSome_iff_exists.mp opens
    obtain ⟨loose, passed⟩ := isLoose_of_scopeKind? opens
    obtain ⟨home, here, beside, -⟩ := Node.exists_home Module.id shape known loose
    have fewer : Node.preorder e.outside ⊆ Node.preorder m.body := fun k below =>
      Node.preorder_subset_of_mem known (Node.preorder_outside_subset e [] below)
    obtain ⟨i, place, node⟩ := placed here passed
    obtain ⟨j, place', node'⟩ := placed
      (beside _ (Node.mem_layout_of_free (shape.of_subset fewer) member rfl free)) rfl
    cases formed.nodeAt_inj identity.name identity.package node node'
    exact place'.trans place.symm
  · intro initFunctions
    refine ⟨_, rfl, LoadEntry.forall₂_ofStatement? initFunctions ?_⟩
    intro info async name args body decorators returns member
    have known := Node.preorder_subset member (Node.mem_preorder_self _)
    obtain ⟨k, -, -, found, -⟩ := opened known (rfl : _ = some ScopeKind.function)
    exact ⟨k, found⟩

/-- A function has a default outside, and a comprehension inside. -/
theorem nested_ofModule_default :
    ∃ m, Module.parse "def f(a=x):\n return [y for y in a if y]\n" = .ok m ∧ m.WellFormed ∧
      (ofModule (.repository 0) "m.py" { name := "m", isPackage := false } m).Nested := by
  have plainly : (Module.parse "def f(a=x):\n return [y for y in a if y]\n").toOption.any
      Module.assignsPlainly = true := by
    decide +kernel
  cases parsed : Module.parse "def f(a=x):\n return [y for y in a if y]\n" with
  | error e =>
    rw [parsed] at plainly
    cases plainly
  | ok m =>
    rw [parsed] at plainly
    have formed := Module.wellFormed_of_parse parsed plainly
    exact ⟨m, rfl, formed, nested_ofModule _ _ _ formed⟩

end SourceUnit

end Catalog
