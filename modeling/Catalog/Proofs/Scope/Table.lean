import Catalog.Proofs.Scope.Exchange
import Catalog.Proofs.Scope.Homes
import Catalog.Proofs.Scope.Modules

/-!
# What steps leave in the table, by nodes

The table numbers scopes in the order in which they open, and steps know them by the nodes that
open them. While steps are taken the open scopes are those of the nodes around, so the two ways of
naming a scope agree: what is placed, opened and bound in the scope of a node is found in the table
under the number of this scope.
-/

namespace Catalog

open Syntax

namespace ScopeTable

/-- The node that opens a scope. -/
def nodeAt (t : ScopeTable) (k : Nat) : Option Nat :=
  (t.get? k).map Scope.node

/-- The table `t'` has all scopes of `t`, with the same nodes in the same order of nesting. -/
def Keeps (t t' : ScopeTable) : Prop :=
  ∀ k s, t.get? k = some s →
    ∃ s', t'.get? k = some s' ∧ s'.node = s.node ∧ s'.kind = s.kind ∧ s'.outer = s.outer

variable {t t' : ScopeTable} {ks hs : List Nat}

theorem Keeps.refl (t : ScopeTable) : t.Keeps t :=
  fun _ s found => ⟨s, found, rfl, rfl, rfl⟩

theorem Keeps.trans {t'' : ScopeTable} (first : t.Keeps t') (second : t'.Keeps t'') :
    t.Keeps t'' := by
  intro k s found
  obtain ⟨s', found', node, kind, outer⟩ := first k s found
  obtain ⟨s'', found'', node', kind', outer'⟩ := second k s' found'
  exact ⟨s'', found'', node'.trans node, kind'.trans kind, outer'.trans outer⟩

theorem Keeps.nodeAt_eq {k h : Nat} (keeps : t.Keeps t') (found : t.nodeAt k = some h) :
    t'.nodeAt k = some h := by
  obtain ⟨s, known, rfl⟩ := Option.map_eq_some_iff.mp found
  obtain ⟨s', found', node, -⟩ := keeps k s known
  rw [ScopeTable.nodeAt, found', Option.map_some, node]

/-- The scopes with the numbers `ks` are those of the nodes `hs`, and each of them stands in the
next one. -/
inductive Around (t : ScopeTable) : List Nat → List Nat → Prop
  | nil : Around t [] []
  | cons {k : Nat} {s : Scope} {ks hs : List Nat} (found : t.get? k = some s)
      (outer : s.outer = ks) (rest : Around t ks hs) : Around t (k :: ks) (s.node :: hs)

theorem Around.mono (around : t.Around ks hs) (keeps : t.Keeps t') : t'.Around ks hs := by
  induction around with
  | nil => exact .nil
  | cons found outer _ ih =>
    obtain ⟨s', found', node, -, outer'⟩ := keeps _ _ found
    rw [← node]
    exact .cons found' (outer'.trans outer) ih

theorem Around.nodeAt_head {k : Nat} (around : t.Around (k :: ks) hs) :
    t.nodeAt k = some (hs.headD Module.id) := by
  cases around with
  | cons found => rw [nodeAt, found, Option.map_some, List.headD_cons]

theorem Around.exists_scope {k : Nat} (around : t.Around (k :: ks) hs) :
    ∃ s, t.get? k = some s ∧ s.outer = ks := by
  cases around with
  | cons found outer => exact ⟨_, found, outer⟩

end ScopeTable

namespace ScopeBuilder

variable {b : ScopeBuilder} {stack : List Nat}

theorem node_change (b : ScopeBuilder) (k : Nat) (s : Scope) (step : Step) :
    (b.change k s step).node = s.node := by
  cases step with
  | bind | declareGlobal | declareNonlocal | star =>
    simp only [change]
    split <;> rfl
  | _ => rfl

theorem keeps_take (b : ScopeBuilder) (step : Step) : b.table.Keeps (b.take step).table := by
  intro k s found
  obtain ⟨kind, outer⟩ := frame_change b k s step
  exact ⟨_, get?_take_of_some found step, node_change b k s step, kind, outer⟩

theorem keeps_run (b : ScopeBuilder) (steps : List Step) :
    b.table.Keeps (steps.foldl take b).table := by
  induction steps generalizing b with
  | nil => exact .refl b.table
  | cons step rest ih => exact (keeps_take b step).trans (ih (b.take step))

/-- The open scopes are those of the nodes around. -/
def Within (b : ScopeBuilder) (stack : List Nat) : Prop :=
  b.table.Around (b.current :: b.outer) stack

theorem start_within (name : String) (body : List Node) :
    (start name body).Within [Module.id] :=
  .cons (s := { kind := .module, node := Module.id, line := 0, name, outer := [], body }) rfl rfl
    .nil

theorem Within.take (within : b.Within stack) (step : Step) :
    (b.take step).Within (step.around stack) := by
  have kept := within.mono (keeps_take b step)
  cases step with
  | enter kind info name body => exact .cons (ScopeTable.get?_push_self ..) rfl kept
  | leave =>
    rw [Within] at within
    cases outer : b.outer with
    | nil =>
      rw [outer] at within
      cases within with
      | cons found same rest =>
        cases rest
        rw [ScopeBuilder.take, outer]
        dsimp only
        rw [Within, outer]
        exact .cons found same .nil
    | cons n rest =>
      rw [outer] at within
      cases within with
      | cons found same others =>
        cases others with
        | cons found' same' others =>
          rw [ScopeBuilder.take, outer]
          exact .cons found' same' others
  | _ => exact kept

theorem Within.nodeAt_current (within : b.Within stack) :
    b.table.nodeAt b.current = some (stack.headD Module.id) :=
  within.nodeAt_head

/-! ## Places -/

section

variable {t : ScopeTable} {step : Step} {steps : List Step}

theorem Within.places_take (within : b.Within stack) (keeps : b.table.Keeps t) (step : Step) :
    (b.take step).table.places.map (fun p => (p.1, t.nodeAt p.2)) =
      (placedAt (stack.headD Module.id, step)).map (fun p => (p.1, some p.2)) ++
        b.table.places.map fun p => (p.1, t.nodeAt p.2) := by
  cases step with
  | place node =>
    have here := keeps.nodeAt_eq within.nodeAt_current
    simp only [ScopeBuilder.take, placedAt, List.map_cons, List.map_nil, List.cons_append,
      List.nil_append, here]
  | leave =>
    rw [ScopeBuilder.take]
    split <;> rfl
  | _ => rfl

/-- The places that steps leave are the nodes that they place, each in the scope of the node in
whose scope that happens. -/
theorem Within.places_run (within : b.Within stack)
    (keeps : (steps.foldl ScopeBuilder.take b).table.Keeps t) :
    (((steps.foldl ScopeBuilder.take b).table.places.map fun p => (p.1, t.nodeAt p.2) :
      List (Nat × Option Nat)) : Multiset (Nat × Option Nat)) =
      (happens placedAt stack steps).map (fun p => (p.1, some p.2)) +
        (b.table.places.map fun p => (p.1, t.nodeAt p.2) : List (Nat × Option Nat)) := by
  induction steps generalizing b stack with
  | nil => exact (zero_add _).symm
  | cons step rest ih =>
    have kept := ((keeps_take b step).trans (keeps_run (b.take step) rest)).trans keeps
    rw [List.foldl_cons, ih (within.take step) keeps, within.places_take kept, happens_cons,
      Multiset.map_add, Multiset.map_coe, ← Multiset.coe_add]
    abel

/-! ## Scopes -/

theorem frames_modify {α : Type} {g : Scope → α} {h : Scope → Scope} (same : ∀ s, g (h s) = g s)
    (scopes : Array Scope) (n : Nat) :
    (scopes.modify n h).toList.map g = scopes.toList.map g := by
  refine List.ext_getElem? fun k => ?_
  rw [List.getElem?_map, List.getElem?_map, Array.getElem?_toList, Array.getElem?_toList,
    Array.getElem?_modify]
  split
  · rw [Option.map_map]
    exact congrArg (Option.map · scopes[k]?) (funext same)
  · rfl

/-- What is fixed of a scope when it opens: its kind, its node, and the node in whose scope it
stands. -/
def frame (t : ScopeTable) (s : Scope) : ScopeKind × Nat × Option Nat :=
  (s.kind, s.node, s.outer.head?.bind t.nodeAt)

theorem Within.frames_take (within : b.Within stack) (keeps : b.table.Keeps t) (step : Step) :
    (b.take step).table.scopes.toList.map (frame t) =
      b.table.scopes.toList.map (frame t) ++
        (openedAt (stack.headD Module.id, step)).map fun p => (p.1, p.2.1, some p.2.2) := by
  cases step with
  | enter kind info name body =>
    have here := keeps.nodeAt_eq within.nodeAt_current
    simp [ScopeBuilder.take, openedAt, frame, here]
  | leave =>
    rw [ScopeBuilder.take]
    split <;> exact (List.append_nil _).symm
  | place => exact (List.append_nil _).symm
  | bind | declareGlobal | declareNonlocal | star =>
    rw [ScopeBuilder.take, modifyScope]
    refine (frames_modify (g := frame t) ?_ _ _).trans (List.append_nil _).symm
    exact fun _ => rfl

/-- The scopes that steps open, each in the scope of the node in whose scope that happens. -/
theorem Within.frames_run (within : b.Within stack)
    (keeps : (steps.foldl ScopeBuilder.take b).table.Keeps t) :
    (((steps.foldl ScopeBuilder.take b).table.scopes.toList.map (frame t) : List _) :
        Multiset (ScopeKind × Nat × Option Nat)) =
      (b.table.scopes.toList.map (frame t) : List _) +
        (happens openedAt stack steps).map fun p => (p.1, p.2.1, some p.2.2) := by
  induction steps generalizing b stack with
  | nil => exact (add_zero _).symm
  | cons step rest ih =>
    have kept := ((keeps_take b step).trans (keeps_run (b.take step) rest)).trans keeps
    rw [List.foldl_cons, ih (within.take step) keeps, within.frames_take kept, happens_cons,
      Multiset.map_add, Multiset.map_coe, ← Multiset.coe_add]
    abel

end

end ScopeBuilder

/-! ## Bindings -/

/-- The bindings that the symbols of the scope hold, each with the name of the symbol. -/
def Scope.entries (s : Scope) : List (String × Binding) :=
  s.symbols.flatMap fun symbol => symbol.bindings.map (symbol.name, ·)

namespace ScopeTable

/-- The bindings of scopes, the first of which has the number `k`. -/
def entriesFrom (k : Nat) : List Scope → List (Nat × String × Binding)
  | [] => []
  | s :: rest => s.entries.map (k, ·) ++ entriesFrom (k + 1) rest

/-- The bindings that all symbols of all scopes hold, each with the number of the scope and the name
of the symbol. -/
def entries (t : ScopeTable) : List (Nat × String × Binding) :=
  entriesFrom 0 t.scopes.toList

end ScopeTable

theorem Scope.entries_bind (s : Scope) (name : String) (b : Binding) :
    ((s.bind name b).entries : Multiset (String × Binding)) = (name, b) ::ₘ s.entries := by
  have added (symbols : List Symbol) :
      ((addTo name b symbols).flatMap fun symbol => symbol.bindings.map (symbol.name, ·) :
        List (String × Binding)).Perm
        ((name, b) :: symbols.flatMap fun symbol => symbol.bindings.map (symbol.name, ·)) := by
    induction symbols with
    | nil => exact .refl _
    | cons symbol rest ih =>
      rw [addTo]
      split
      · rename_i same
        rw [← beq_iff_eq.mp same, List.flatMap_cons, List.flatMap_cons, List.map_append,
          List.append_assoc]
        exact List.perm_middle
      · rw [List.flatMap_cons, List.flatMap_cons]
        exact (ih.append_left _).trans List.perm_middle
  exact Multiset.coe_eq_coe.mpr (added s.symbols)

namespace ScopeTable

theorem entriesFrom_append (k : Nat) (l r : List Scope) :
    entriesFrom k (l ++ r) = entriesFrom k l ++ entriesFrom (k + l.length) r := by
  induction l generalizing k with
  | nil => rfl
  | cons s rest ih =>
    rw [List.cons_append, entriesFrom, entriesFrom, ih, List.append_assoc, List.length_cons,
      show k + (rest.length + 1) = k + 1 + rest.length by omega]

theorem entriesFrom_modify_bind (name : String) (b : Binding) {scopes : List Scope} {n : Nat}
    (known : n < scopes.length) (k : Nat) :
    (entriesFrom k (scopes.modify n fun s => s.bind name b) : Multiset (Nat × String × Binding)) =
      (k + n, name, b) ::ₘ entriesFrom k scopes := by
  induction scopes generalizing n k with
  | nil => exact absurd known (Nat.not_lt_zero n)
  | cons s rest ih =>
    cases n with
    | zero =>
      rw [List.modify_zero_cons, entriesFrom, entriesFrom, ← Multiset.coe_add, ← Multiset.coe_add,
        ← Multiset.map_coe, s.entries_bind, Multiset.map_cons, Multiset.map_coe,
        Multiset.cons_add]
      rfl
    | succ n =>
      rw [List.modify_succ_cons, entriesFrom, entriesFrom, ← Multiset.coe_add, ← Multiset.coe_add,
        ih (Nat.lt_of_succ_lt_succ known), Multiset.add_cons,
        show k + 1 + n = k + (n + 1) by omega]

/-- Changes that leave the symbols leave the bindings. -/
theorem entriesFrom_modify {g : Scope → Scope} (same : ∀ s, (g s).symbols = s.symbols)
    (scopes : List Scope) (n k : Nat) :
    entriesFrom k (scopes.modify n g) = entriesFrom k scopes := by
  induction scopes generalizing n k with
  | nil => cases n <;> rfl
  | cons s rest ih =>
    cases n with
    | zero =>
      rw [List.modify_zero_cons, entriesFrom, entriesFrom, Scope.entries, same, Scope.entries]
    | succ n => rw [List.modify_succ_cons, entriesFrom, entriesFrom, ih]

end ScopeTable

/-- A binding that a step records: the scope that gets it, and the node in whose scope the step is
taken. -/
structure Recorded where
  scope : Nat
  home : Nat
  name : String
  binding : Binding

/-- The binding goes to the scope of the node, or to one around it. -/
def Recorded.Fits (t : ScopeTable) (x : Recorded) : Prop :=
  ∃ k s, t.nodeAt k = some x.home ∧ t.get? k = some s ∧ x.scope ∈ k :: s.outer

namespace ScopeBuilder

variable {b : ScopeBuilder} {stack : List Nat} {t : ScopeTable} {steps : List Step}

/-- Names are bound in a scope that is open. -/
theorem Sound.target_mem (sound : b.Sound) (fixed : Bool) (name : String) :
    b.target fixed name ∈ b.current :: b.outer := by
  have last : ScopeTable.moduleScope ∈ b.current :: b.outer := List.mem_of_getLast? sound.module
  have inside := withoutComprehensions_subset b.table b.current b.outer
  rw [target]
  split
  · exact List.mem_cons_self
  · rw [bindingScope]
    dsimp only
    split
    · exact inside List.mem_cons_self
    · split
      · exact last
      · split
        · cases around : functionBinding? b.table name
            (withoutComprehensions b.table b.current b.outer).2 with
          | none => exact inside List.mem_cons_self
          | some n => exact inside (List.mem_cons_of_mem _ (List.mem_of_find?_eq_some around))
        · exact inside List.mem_cons_self

/-- A step records the binding that it makes, if any, and nothing else. -/
theorem Within.entries_take (within : b.Within stack) (sound : b.Sound)
    (keeps : b.table.Keeps t) (step : Step) :
    ∃ recorded : Multiset Recorded,
      recorded.map (fun x => (x.home, x.name, x.binding)) =
        boundAt (stack.headD Module.id, step) ∧
      ((b.take step).table.entries : Multiset (Nat × String × Binding)) =
        recorded.map (fun x => (x.scope, x.name, x.binding)) + b.table.entries ∧
      ∀ x ∈ recorded, x.Fits t := by
  cases step with
  | bind fixed name binding =>
    refine ⟨{⟨b.target fixed name, stack.headD Module.id, name, binding⟩}, rfl, ?_, ?_⟩
    · have known := sound.target_lt fixed name
      rw [ScopeBuilder.take, modifyScope, ScopeTable.entries, Array.toList_modify,
        ← target, ScopeTable.entriesFrom_modify_bind name binding (by simpa using known),
        Nat.zero_add, Multiset.map_singleton, Multiset.singleton_add, ScopeTable.entries]
    · intro x member
      rw [Multiset.mem_singleton.mp member]
      obtain ⟨s, found, outer⟩ := within.exists_scope
      obtain ⟨s', found', -, -, outer'⟩ := keeps _ s found
      refine ⟨b.current, s', keeps.nodeAt_eq within.nodeAt_current, found', ?_⟩
      rw [outer', outer]
      exact sound.target_mem fixed name
  | enter kind info name body =>
    refine ⟨0, rfl, ?_, by simp⟩
    rw [ScopeBuilder.take, ScopeTable.entries, Array.toList_push, ScopeTable.entriesFrom_append]
    simp [ScopeTable.entriesFrom, Scope.entries, ScopeTable.entries]
  | leave =>
    refine ⟨0, rfl, ?_, by simp⟩
    rw [ScopeBuilder.take]
    split <;> exact (zero_add _).symm
  | place => exact ⟨0, rfl, (zero_add _).symm, by simp⟩
  | declareGlobal | declareNonlocal | star =>
    refine ⟨0, rfl, ?_, by simp⟩
    rw [ScopeBuilder.take, modifyScope, ScopeTable.entries, Array.toList_modify,
      ScopeTable.entriesFrom_modify]
    · exact (zero_add _).symm
    · exact fun _ => rfl

/-- The bindings that the table holds after steps are those that the steps make. -/
theorem Within.entries_run (within : b.Within stack) (sound : b.Sound)
    (keeps : (steps.foldl ScopeBuilder.take b).table.Keeps t) :
    ∃ recorded : Multiset Recorded,
      recorded.map (fun x => (x.home, x.name, x.binding)) = happens boundAt stack steps ∧
      ((steps.foldl ScopeBuilder.take b).table.entries : Multiset (Nat × String × Binding)) =
        recorded.map (fun x => (x.scope, x.name, x.binding)) + b.table.entries ∧
      ∀ x ∈ recorded, x.Fits t := by
  induction steps generalizing b stack with
  | nil => exact ⟨0, rfl, (zero_add _).symm, by simp⟩
  | cons step rest ih =>
    have kept := ((keeps_take b step).trans (keeps_run (b.take step) rest)).trans keeps
    obtain ⟨own, ownSteps, ownEntries, ownFits⟩ := within.entries_take sound kept step
    obtain ⟨more, moreSteps, moreEntries, moreFits⟩ := ih (within.take step) (sound.take step) keeps
    refine ⟨own + more, ?_, ?_, fun x member => ?_⟩
    · rw [Multiset.map_add, ownSteps, moreSteps, happens_cons]
    · rw [List.foldl_cons, moreEntries, ownEntries, Multiset.map_add]
      abel
    · exact (Multiset.mem_add.mp member).elim (ownFits x) (moreFits x)

end ScopeBuilder

/-! ## Symbols -/

/-- The symbols have different names, and each has a binding. -/
structure Scope.Tidy (symbols : List Symbol) : Prop where
  names : (symbols.map Symbol.name).Nodup
  bound : ∀ symbol ∈ symbols, symbol.bindings ≠ []

namespace Scope

theorem Tidy.nil : Tidy [] := ⟨List.nodup_nil, by simp⟩

theorem mem_names_addTo {name other : String} {b : Binding} {symbols : List Symbol} :
    other ∈ (addTo name b symbols).map Symbol.name ↔
      other = name ∨ other ∈ symbols.map Symbol.name := by
  induction symbols with
  | nil => simp [addTo]
  | cons symbol rest ih =>
    rw [addTo]
    split
    · rename_i same
      rw [List.map_cons, List.map_cons, List.mem_cons, beq_iff_eq.mp same]
      tauto
    · rw [List.map_cons, List.mem_cons, ih, List.map_cons, List.mem_cons]
      tauto

theorem Tidy.addTo {symbols : List Symbol} (tidy : Tidy symbols) (name : String) (b : Binding) :
    Tidy (Scope.addTo name b symbols) := by
  obtain ⟨names, bound⟩ := tidy
  induction symbols with
  | nil => exact ⟨List.nodup_singleton _, by simp [Scope.addTo]⟩
  | cons symbol rest ih =>
    obtain ⟨new, names⟩ := List.nodup_cons.mp names
    obtain ⟨first, bound⟩ := List.forall_mem_cons.mp bound
    rw [Scope.addTo]
    split
    · exact ⟨List.nodup_cons.mpr ⟨new, names⟩, List.forall_mem_cons.mpr ⟨by simp, bound⟩⟩
    · rename_i different
      obtain ⟨names', bound'⟩ := ih names bound
      refine ⟨List.nodup_cons.mpr ⟨?_, names'⟩, List.forall_mem_cons.mpr ⟨first, bound'⟩⟩
      rw [mem_names_addTo, not_or]
      exact ⟨fun same => different (beq_iff_eq.mpr same), new⟩

end Scope

namespace ScopeBuilder

variable {b : ScopeBuilder}

theorem tidy_take (tidy : ∀ k s, b.table.get? k = some s → Scope.Tidy s.symbols) (step : Step) :
    ∀ k s, (b.take step).table.get? k = some s → Scope.Tidy s.symbols := by
  intro k s found
  rcases of_get?_take found with ⟨before, known, rfl⟩ | ⟨-, opens⟩
  · have before := tidy k before known
    cases step with
    | bind fixed name binding =>
      simp only [change]
      split
      · exact before.addTo name binding
      · exact before
    | declareGlobal | declareNonlocal | star =>
      simp only [change]
      split <;> exact before
    | _ => exact before
  · cases step with
    | enter =>
      cases opens
      exact .nil
    | _ => cases opens

/-- Steps add bindings to symbols, or symbols with a binding. -/
theorem tidy_run (tidy : ∀ k s, b.table.get? k = some s → Scope.Tidy s.symbols)
    (steps : List Step) :
    ∀ k s, (steps.foldl take b).table.get? k = some s → Scope.Tidy s.symbols := by
  induction steps generalizing b with
  | nil => exact tidy
  | cons step rest ih => exact ih (tidy_take tidy step)

end ScopeBuilder

end Catalog
