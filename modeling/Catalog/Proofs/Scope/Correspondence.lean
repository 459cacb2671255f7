import Catalog.Proofs.Scope.Nesting

/-!
# Bindings and the places where names are bound

Every place of a module where a name is bound has one binding in the table of scopes, and the table
holds no other. The steps make a binding for each place, in the scope of the node around, and the
table records each binding that a step makes, in this scope or in one around it. Both are known by
the node in whose scope the step is taken, the name and the binding, so they can be paired.
-/

namespace Catalog

open Syntax

namespace Syntax.Node

/-- A place where a name is bound is one of the nodes, and the node binds the name. -/
theorem mem_boundNames_of_mem {ns : List Node} {p : Node × String} (member : p ∈ occurrences ns) :
    p.2 ∈ p.1.boundNames := by
  induction ns using occurrences.induct with
  | case1 => simp [occurrences] at member
  | case2 n rest ih =>
    rw [occurrences] at member
    rcases List.mem_append.mp member with own | further
    · obtain ⟨name, known, rfl⟩ := List.mem_map.mp own
      exact known
    · exact ih further

theorem isPassedOver_of_boundNames {n : Node} {name : String} (binds : name ∈ n.boundNames) :
    n.isPassedOver = false := by
  cases n with
  | arguments | generator | importAlias | keyword => cases binds
  | _ => rfl

end Syntax.Node

/-- A place where a name is bound, with the binding that it has and the scope that holds this. The
place is in the scope of the node with the number `home`. -/
structure Attribution where
  node : Node
  name : String
  home : Nat
  scope : Nat
  binding : Binding

namespace Attribution

/-- The binding is that of the node, and the table holds it where the node stands, or in a scope
around. -/
structure Holds (t : ScopeTable) (body : List Node) (x : Attribution) : Prop where
  owner : x.node.BoundBy x.binding
  /-- By the nesting of nodes, the place is in the scope of this node. -/
  stands : (x.node, x.home) ∈ Node.layout Module.id body
  scope : ∃ k s, t.scopeAt? x.node.id = some k ∧ t.get? k = some s ∧ s.node = x.home ∧
    x.scope ∈ k :: s.outer

/-- What is made at a step and what is recorded there belong together. -/
theorem exists_paired {made : Multiset Lays.Made} {recorded : Multiset Recorded}
    (same : made.map (fun x => (x.home, x.name, x.binding)) =
      recorded.map fun x => (x.home, x.name, x.binding)) :
    ∃ all : Multiset Attribution,
      all.map (fun x => (x.node, x.name)) = made.map (fun x => (x.node, x.name)) ∧
      all.map (fun x => (x.scope, x.name, x.binding)) =
        recorded.map (fun x => (x.scope, x.name, x.binding)) ∧
      ∀ x ∈ all, ⟨x.node, x.name, x.home, x.binding⟩ ∈ made ∧
        ⟨x.scope, x.home, x.name, x.binding⟩ ∈ recorded := by
  have related := Multiset.rel_map.mp (Multiset.rel_eq.mpr same)
  clear same
  induction related with
  | zero => exact ⟨0, rfl, rfl, by simp⟩
  | @cons first second _ _ same _ ih =>
    obtain ⟨all, places, entries, each⟩ := ih
    obtain ⟨node, name, home, binding⟩ := first
    obtain ⟨scope, home', name', binding'⟩ := second
    cases same
    refine ⟨⟨node, name, home, scope, binding⟩ ::ₘ all, ?_, ?_, fun x member => ?_⟩
    · rw [Multiset.map_cons, places, Multiset.map_cons]
    · rw [Multiset.map_cons, entries, Multiset.map_cons]
    · rcases Multiset.mem_cons.mp member with rfl | member
      · exact ⟨Multiset.mem_cons_self .., Multiset.mem_cons_self ..⟩
      · exact ⟨Multiset.mem_cons_of_mem (each x member).1,
          Multiset.mem_cons_of_mem (each x member).2⟩

end Attribution

namespace ScopeTable

variable (name package : String) {m : Module}

/-- The bindings in the table of a module are those of the places where names are bound, one for
each, and each symbol has one at least. -/
theorem bindings_correspond (formed : m.WellFormed) :
    (∃ all : List Attribution,
      (all.map fun x => (x.node, x.name)).Perm (Node.occurrences m.body) ∧
      (all.map fun x => (x.scope, x.name, x.binding)).Perm (ofModule name package m).entries ∧
      ∀ x ∈ all, x.Holds (ofModule name package m) m.body) ∧
    ∀ k s, (ofModule name package m).get? k = some s → Scope.Tidy s.symbols := by
  have within := ScopeBuilder.start_within name m.body
  constructor
  · obtain ⟨made, places, steps, each⟩ := (formed.lays package).exists_made []
    obtain ⟨recorded, recordedSteps, entries, fits⟩ :=
      within.entries_run (ScopeBuilder.start_sound name m.body) (Keeps.refl
        ((Node.stepsList package none m.body).foldl ScopeBuilder.take
          (.start name m.body)).table)
    obtain ⟨all, sameMade, sameRecorded, paired⟩ :=
      Attribution.exists_paired (steps.symm.trans recordedSteps.symm)
    obtain ⟨all, rfl⟩ := Quot.exists_rep all
    refine ⟨all, ?_, ?_, fun x member => ?_⟩
    · exact Multiset.coe_eq_coe.mp (sameMade.trans places)
    · exact Multiset.coe_eq_coe.mp (sameRecorded.trans (entries.trans (add_zero _)).symm)
    · obtain ⟨wasMade, wasRecorded⟩ := paired x member
      obtain ⟨owner, stands⟩ := each _ wasMade
      obtain ⟨k, s, node, found, inside⟩ := fits _ wasRecorded
      have binds : x.name ∈ x.node.boundNames := by
        have known : (x.node, x.name) ∈ Node.bound m.body :=
          places ▸ Multiset.mem_map.mpr ⟨_, wasMade, rfl⟩
        exact Node.mem_boundNames_of_mem (Multiset.mem_coe.mp known)
      obtain ⟨i, place, home⟩ := formed.scopeAt?_of_placed name package
        ((formed.lays package).placed [] _ stands (Node.isPassedOver_of_boundNames binds))
      rw [formed.nodeAt_inj name package home node] at place
      refine ⟨owner, stands, k, s, place, found, ?_, inside⟩
      rw [nodeAt, found, Option.map_some] at node
      exact Option.some.inj node
  · refine ScopeBuilder.tidy_run (fun k s found => ?_) _
    cases k with
    | zero =>
      cases found
      exact .nil
    | succ => cases found

/-- A name is declared global and stored, and a part of a module is imported. -/
theorem bindings_correspond_global :
    ∃ m, Module.parse "import a.b\ndef f(x):\n global y\n y=x\n z:x\n" = .ok m ∧ m.WellFormed ∧
      (∃ all : List Attribution,
        (all.map fun x => (x.node, x.name)).Perm (Node.occurrences m.body) ∧
        (all.map fun x => (x.scope, x.name, x.binding)).Perm (ofModule "m" "" m).entries ∧
        ∀ x ∈ all, x.Holds (ofModule "m" "" m) m.body) ∧
      ∀ k s, (ofModule "m" "" m).get? k = some s → Scope.Tidy s.symbols := by
  have plainly : (Module.parse "import a.b\ndef f(x):\n global y\n y=x\n z:x\n").toOption.any
      Module.assignsPlainly = true := by
    decide +kernel
  cases parsed : Module.parse "import a.b\ndef f(x):\n global y\n y=x\n z:x\n" with
  | error e =>
    rw [parsed] at plainly
    cases plainly
  | ok m =>
    rw [parsed] at plainly
    have formed := Module.wellFormed_of_parse parsed plainly
    exact ⟨m, rfl, formed, bindings_correspond _ _ formed⟩

end ScopeTable

end Catalog
