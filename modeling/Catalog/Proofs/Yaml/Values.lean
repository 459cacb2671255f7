import Catalog.Proofs.Yaml.Document
import Mathlib.Data.List.Perm.Subperm

/-!
# The value of a written sequence

Values are built level by level, and what is known of a node is kept beside the graph. A graph that
shows a table is not changed by it: its keys take over nothing from other mappings. In the end
everything that the root names is known, and its value is the table.
-/

namespace Catalog.Yaml

/-! ## What nodes stand for -/

namespace Graph

variable {g : Graph} {i : Nat}

theorem shell_text {text : String} (found : g.nodes[i]? = some (.scalar Tag.str text)) :
    g.shell i = .ok (.atom (.str text)) := by
  have tag : g.tagOf i = Tag.str := by simp [tagOf, node?, found]
  have chars (fuel : Nat) : g.scalarText (fuel + 1) i = .ok text := by
    simp [scalarText, node?, found]
  rw [shell, tag, chars]
  rfl

theorem shell_mapping {pairs : List (Nat × Nat)}
    (found : g.nodes[i]? = some (.mapping Tag.map pairs)) : g.shell i = .ok .dict := by
  have tag : g.tagOf i = Tag.map := by simp [tagOf, node?, found]
  rw [shell, tag]
  rfl

theorem shell_sequence {items : List Nat}
    (found : g.nodes[i]? = some (.sequence Tag.seq items)) : g.shell i = .ok .list := by
  have tag : g.tagOf i = Tag.seq := by simp [tagOf, node?, found]
  rw [shell, tag]
  rfl

theorem pairsOf_mapping {tag : String} {pairs : List (Nat × Nat)}
    (found : g.nodes[i]? = some (.mapping tag pairs)) : g.pairsOf i = pairs := by
  simp [pairsOf, node?, found]

end Graph

namespace Builder

open Yaml.Graph (ShowsPair ShowsMapping shell_text shell_mapping shell_sequence)

/-! ## Visits -/

/-- The graph is as it was, and what is known of its nodes is what they stand for. -/
structure Holds (g : Graph) (s : Builder) : Prop where
  graph : s.graph = g
  sound : ∀ ⦃i shell⦄, s.shells.lookup i = some shell → g.shell i = .ok shell

/-- What is known of a node stays known. -/
def Keeps (s t : Builder) : Prop :=
  ∀ ⦃i shell⦄, s.shells.lookup i = some shell → t.shells.lookup i = some shell

theorem Keeps.trans {s t u : Builder} (first : Keeps s t) (second : Keeps t u) : Keeps s u :=
  fun _ _ known => second (first known)

variable {g : Graph} {s : Builder} {i : Nat} {shell : Shell}

theorem visit_known (known : s.shells.lookup i = some shell) :
    (visit i).run s = .ok (shell, s) := by
  rw [visit]
  simp only [StateT.run_bind, StateT.run_get, pure_bind, known]
  rfl

/-- A node that is met for the first time. -/
def met (s : Builder) (i : Nat) (shell : Shell) : Builder :=
  { s with
    shells := (i, shell) :: s.shells
    waiting := if shell.isKey then s.waiting else s.waiting ++ [i] }

theorem visit_new (holds : Holds g s) (unknown : s.shells.lookup i = none)
    (means : g.shell i = .ok shell) : (visit i).run s = .ok (shell, s.met i shell) := by
  rw [← holds.graph] at means
  rw [visit]
  simp only [StateT.run_bind, StateT.run_get, pure_bind, unknown, means]
  rfl

theorem lookup_met (s : Builder) (i : Nat) (shell : Shell) (j : Nat) :
    (s.met i shell).shells.lookup j = if j = i then some shell else s.shells.lookup j := by
  rw [met, List.lookup_cons]
  by_cases same : j = i
  · simp [same]
  · simp [same, beq_eq_false_iff_ne.mpr same]

theorem Holds.met (holds : Holds g s) (unknown : s.shells.lookup i = none)
    (means : g.shell i = .ok shell) : Holds g (s.met i shell) ∧ Keeps s (s.met i shell) := by
  refine ⟨⟨holds.graph, fun j found known => ?_⟩, fun j found known => ?_⟩
  · rw [lookup_met] at known
    split at known
    · rename_i same
      cases known
      rw [same, means]
    · exact holds.sound known
  · rw [lookup_met, if_neg, known]
    rintro rfl
    rw [unknown] at known
    cases known

/-- A text is visited, for the first time or again. -/
theorem visit_text {text : String} (holds : Holds g s)
    (found : g.nodes[i]? = some (.scalar Tag.str text)) :
    ∃ t, (visit i).run s = .ok (.atom (.str text), t) ∧ Holds g t ∧ Keeps s t ∧
      t.waiting = s.waiting ∧ t.shells.lookup i = some (.atom (.str text)) := by
  have means := shell_text found
  cases known : s.shells.lookup i with
  | some shell =>
    have same : shell = .atom (.str text) := by
      have told := holds.sound known
      rw [means] at told
      exact (Except.ok.inj told).symm
    subst same
    exact ⟨s, visit_known known, holds, fun _ _ known => known, rfl, known⟩
  | none =>
    obtain ⟨holds', keeps⟩ := holds.met known means
    exact ⟨_, visit_new holds known means, holds', keeps, rfl, by rw [lookup_met, if_pos rfl]⟩

/-! ## The members of collections -/

/-- What a mapping names is known. -/
def KnowsPair (s : Builder) (pair : Nat × Nat) (entry : String × String) : Prop :=
  s.shells.lookup pair.1 = some (.atom (.str entry.1)) ∧
    s.shells.lookup pair.2 = some (.atom (.str entry.2))

theorem visitPairs_entries {pairs : List (Nat × Nat)} {entries : List (String × String)}
    (members : List.Forall₂ (ShowsPair g.nodes) pairs entries) (holds : Holds g s) :
    ∃ t, (visitPairs pairs).run s = .ok ((), t) ∧ Holds g t ∧ Keeps s t ∧
      t.waiting = s.waiting ∧ List.Forall₂ (KnowsPair t) pairs entries := by
  induction members generalizing s with
  | nil => exact ⟨s, rfl, holds, fun _ _ known => known, rfl, .nil⟩
  | @cons pair entry pairs entries shown members ih =>
    obtain ⟨key, value⟩ := pair
    obtain ⟨t, visits, holds, keeps, waits, known⟩ := visit_text holds shown.1
    obtain ⟨u, visits', holds, keeps', waits', known'⟩ := visit_text holds shown.2
    obtain ⟨v, later, holds, keeps'', waits'', knows⟩ := ih holds
    refine ⟨v, ?_, holds, (keeps.trans keeps').trans keeps'', ?_,
      .cons ⟨keeps'' (keeps' known), keeps'' known'⟩ knows⟩
    · rw [visitPairs]
      simp only [StateT.run_bind, visits, visits', Graph.ok_bind, Shell.isKey, Bool.not_true,
        Bool.false_eq_true, if_false]
      exact later
    · rw [waits'', waits', waits]

/-- A mapping all of whose keys are texts takes over nothing. -/
theorem flattenFrom_texts {pairs : List (Nat × Nat)} {tag : String}
    (found : s.graph.nodes[i]? = some (.mapping tag pairs))
    (texts : ∀ pair ∈ pairs, s.graph.tagOf pair.1 = Tag.str) {fuel index : Nat}
    (enough : pairs.length < fuel + index) (some : 0 < fuel) :
    (flattenFrom fuel 0 i index []).run s = .ok ((), s) := by
  have own : (pairsOf i).run s = .ok (pairs, s) := by
    rw [← Graph.pairsOf_mapping found]
    rfl
  induction fuel generalizing index with
  | zero => exact absurd some (Nat.lt_irrefl 0)
  | succ fuel ih =>
    rw [flattenFrom]
    simp only [StateT.run_bind, own, Graph.ok_bind]
    cases member : pairs[index]? with
    | none => rfl
    | some pair =>
      obtain ⟨key, value⟩ := pair
      obtain ⟨inside, -⟩ := List.getElem?_eq_some_iff.mp member
      have tag : s.graph.tagOf key = Tag.str := texts (key, value) (List.mem_of_getElem? member)
      have merge : (Tag.str == Tag.merge) = false := by decide
      have value : (Tag.str == Tag.value) = false := by decide
      simp only [StateT.run_bind, StateT.run_get, pure_bind, tag, merge, value, Bool.false_eq_true,
        if_false]
      exact ih (by omega) (by omega)

theorem le_foldl_add (weight : Node → Nat) {nodes : List Node} {node : Node} (member : node ∈ nodes)
    (start : Nat) :
    weight node + start ≤ nodes.foldl (fun total node => total + weight node) start := by
  have grows (nodes : List Node) (start : Nat) :
      start ≤ nodes.foldl (fun total node => total + weight node) start := by
    induction nodes generalizing start with
    | nil => exact le_rfl
    | cons node nodes ih => exact (Nat.le_add_right _ _).trans (ih _)
  induction member generalizing start with
  | head nodes =>
    rw [List.foldl_cons, Nat.add_comm]
    exact grows nodes _
  | tail other member ih =>
    rw [List.foldl_cons]
    exact (Nat.add_le_add_left (Nat.le_add_right _ _) _).trans (ih _)

theorem length_lt_flattenFuel {pairs : List (Nat × Nat)} {tag : String}
    (found : g.nodes[i]? = some (.mapping tag pairs)) : pairs.length < flattenFuel g := by
  have member : Node.mapping tag pairs ∈ g.nodes.toList :=
    Array.mem_toList_iff.mpr (Array.mem_of_getElem? found)
  rw [flattenFuel, ← Array.foldl_toList]
  refine Nat.lt_of_lt_of_le ?_ (Nat.mul_le_mul_left 2 (le_foldl_add _ member 2))
  show pairs.length < 2 * (pairs.length + 2 + 2)
  omega

theorem members_mapping {entries : List (String × String)} (shown : ShowsMapping g.nodes i entries)
    (holds : Holds g s) :
    ∃ t, (members i).run s = .ok ((), t) ∧ Holds g t ∧ Keeps s t ∧ t.waiting = s.waiting ∧
      List.Forall₂ (KnowsPair t) (g.pairsOf i) entries := by
  obtain ⟨pairs, found, shown⟩ := shown
  have own := Graph.pairsOf_mapping found
  obtain ⟨t, visits, holds', keeps, waits, knows⟩ := visitPairs_entries shown holds
  refine ⟨t, ?_, holds', keeps, waits, own ▸ knows⟩
  have texts : ∀ pair ∈ pairs, s.graph.tagOf pair.1 = Tag.str := by
    rw [holds.graph]
    refine ((List.forall₂_and_left _ _).mp (shown.imp fun pair entry shown => ⟨?_, shown⟩)).1
    simp [Graph.tagOf, Graph.node?, shown.1]
  have mapping : s.graph.nodes[i]? = some (.mapping Tag.map pairs) := by rw [holds.graph, found]
  have flattens : (flattenFrom (flattenFuel s.graph) 0 i 0 []).run s = .ok ((), s) := by
    have enough : pairs.length < flattenFuel s.graph := length_lt_flattenFuel mapping
    exact flattenFrom_texts mapping texts enough (by omega)
  have again : (pairsOf i).run s = .ok (pairs, s) := by
    rw [← own, ← holds.graph]
    rfl
  rw [members]
  simp only [StateT.run_bind, StateT.run_get, pure_bind, Graph.tagOf, Graph.node?, mapping,
    beq_self_eq_true, Bool.true_or, if_true, flattens, again, Graph.ok_bind]
  exact visits

/-- The entries of a sequence wait until its own level is done. -/
theorem visit_items {items : List Nat} (dicts : ∀ i ∈ items, g.shell i = .ok .dict)
    (distinct : items.Nodup) (holds : Holds g s)
    (unknown : ∀ i ∈ items, s.shells.lookup i = none) :
    ∃ t, (items.forM fun item => do let _ ← visit item).run s = .ok ((), t) ∧ Holds g t ∧
      Keeps s t ∧ t.waiting = s.waiting ++ items ∧
      ∀ i ∈ items, t.shells.lookup i = some .dict := by
  induction items generalizing s with
  | nil => exact ⟨s, rfl, holds, fun _ _ known => known, (List.append_nil _).symm, by simp⟩
  | cons i items ih =>
    obtain ⟨dict, dicts⟩ := List.forall_mem_cons.mp dicts
    obtain ⟨other, distinct⟩ := List.nodup_cons.mp distinct
    obtain ⟨new, unknown⟩ := List.forall_mem_cons.mp unknown
    have visits := visit_new holds new dict
    obtain ⟨holds, keeps⟩ := holds.met new dict
    obtain ⟨t, later, holds, keeps', waits, known⟩ := ih dicts distinct holds fun j member => by
      rw [lookup_met, if_neg, unknown j member]
      rintro rfl
      exact other member
    refine ⟨t, ?_, holds, keeps.trans keeps', ?_, ?_⟩
    · rw [List.forM]
      simp only [StateT.run_bind, visits, Graph.ok_bind]
      exact later
    · rw [waits, met, if_neg (by decide), List.append_assoc]
      rfl
    · refine List.forall_mem_cons.mpr ⟨keeps' ?_, known⟩
      rw [lookup_met, if_pos rfl]

/-- Everything that waits is a mapping, and in the end all that they name is known. -/
theorem run_mappings {items : List Nat} {table : List (List (String × String))}
    (shown : List.Forall₂ (ShowsMapping g.nodes) items table) (holds : Holds g s)
    (waits : s.waiting = items) {fuel : Nat} (enough : items.length < fuel) :
    ∃ t, (run fuel).run s = .ok ((), t) ∧ Holds g t ∧ Keeps s t ∧
      List.Forall₂ (fun i entries => List.Forall₂ (KnowsPair t) (g.pairsOf i) entries) items
        table := by
  induction shown generalizing s fuel with
  | nil =>
    obtain ⟨fuel, rfl⟩ : ∃ k, fuel = k + 1 := ⟨fuel - 1, by omega⟩
    refine ⟨s, ?_, holds, fun _ _ known => known, .nil⟩
    rw [run]
    simp only [StateT.run_bind, StateT.run_get, pure_bind, waits]
    rfl
  | @cons i entries items table first shown ih =>
    obtain ⟨fuel, rfl⟩ : ∃ k, fuel = k + 1 := ⟨fuel - 1, by omega⟩
    have holds' : Holds g { s with waiting := items } := ⟨holds.graph, holds.sound⟩
    obtain ⟨t, visits, holds', keeps, waits', knows⟩ := members_mapping first holds'
    obtain ⟨u, later, holds', keeps', knows'⟩ := ih holds' waits'
      (by simp at enough; omega : items.length < fuel)
    refine ⟨u, ?_, holds', fun _ _ known => keeps' (keeps known), .cons ?_ knows'⟩
    · rw [run]
      simp only [StateT.run_bind, StateT.run_get, StateT.run_modify, pure_bind, waits, visits,
        Graph.ok_bind]
      exact later
    · exact knows.imp fun pair entry known => ⟨keeps' known.1, keeps' known.2⟩

theorem members_sequence {items : List Nat} {table : List (List (String × String))}
    (found : g.nodes[i]? = some (.sequence Tag.seq items))
    (shown : List.Forall₂ (ShowsMapping g.nodes) items table) (distinct : items.Nodup)
    (holds : Holds g s) (unknown : ∀ i ∈ items, s.shells.lookup i = none) :
    ∃ t, (members i).run s = .ok ((), t) ∧ Holds g t ∧ Keeps s t ∧
      t.waiting = s.waiting ++ items ∧ ∀ i ∈ items, t.shells.lookup i = some .dict := by
  have dicts : ∀ i ∈ items, g.shell i = .ok .dict := by
    refine ((List.forall₂_and_left _ _).mp (shown.imp fun i entries shown => ⟨?_, shown⟩)).1
    obtain ⟨pairs, found, -⟩ := shown
    exact shell_mapping found
  obtain ⟨t, visits, rest⟩ := visit_items dicts distinct holds unknown
  refine ⟨t, ?_, rest⟩
  have collection : (Tag.seq == Tag.map || Tag.seq == Tag.set) = false := by decide
  have sequence : s.graph.nodes[i]? = some (.sequence Tag.seq items) := by rw [holds.graph, found]
  rw [members]
  simp only [StateT.run_bind, StateT.run_get, pure_bind, Graph.tagOf, Graph.node?, sequence,
    collection, Bool.false_eq_true, if_false, beq_self_eq_true, if_true]
  exact visits

/-! ## Views -/

/-- A mapping of keys to texts as a value. -/
def ofEntries (entries : List (String × String)) : Value :=
  .dict (entries.map fun entry => (.str entry.1, .str entry.2))

theorem view_text {text : String} (known : s.shells.lookup i = some (.atom (.str text)))
    (depth : Nat) : s.view depth i = .str text := by
  rw [view.eq_def]
  simp only [known]

theorem view_mapping {entries : List (String × String)} (known : s.shells.lookup i = some .dict)
    (knows : List.Forall₂ (KnowsPair s) (s.graph.pairsOf i) entries) (depth : Nat) :
    s.view (depth + 1) i = ofEntries entries := by
  have same : List.Forall₂ (· = ·)
      ((s.graph.pairsOf i).map fun pair => (s.view depth pair.1, s.view depth pair.2))
      (entries.map fun entry => (Value.str entry.1, Value.str entry.2)) := by
    refine List.forall₂_map_left_iff.mpr (List.forall₂_map_right_iff.mpr (knows.imp ?_))
    intro pair entry known
    rw [view_text known.1, view_text known.2]
  rw [List.forall₂_eq_eq_eq] at same
  rw [view.eq_def]
  simp only [known, ofEntries, ← same]

/-- A sequence of mappings as a value. -/
def ofTable (table : List (List (String × String))) : Value := .list (table.map ofEntries)

theorem view_sequence {items : List Nat} {table : List (List (String × String))}
    (known : s.shells.lookup i = some .list)
    (found : s.graph.nodes[i]? = some (.sequence Tag.seq items))
    (dicts : ∀ i ∈ items, s.shells.lookup i = some .dict)
    (knows : List.Forall₂
      (fun i entries => List.Forall₂ (KnowsPair s) (s.graph.pairsOf i) entries) items table)
    (depth : Nat) : s.view (depth + 2) i = ofTable table := by
  have same : List.Forall₂ (· = ·) (items.map fun item => s.view (depth + 1) item)
      (table.map ofEntries) := by
    refine List.forall₂_map_left_iff.mpr (List.forall₂_map_right_iff.mpr ?_)
    refine ((List.forall₂_and_left _ _).mpr ⟨dicts, knows⟩).imp ?_
    rintro item entries ⟨dict, knows⟩
    exact view_mapping dict knows depth
  rw [List.forall₂_eq_eq_eq] at same
  rw [view.eq_def]
  simp only [known, Graph.node?, found, beq_self_eq_true, if_true, ofTable, ← same]

/-- The nodes of a table are enough steps for its collections. -/
theorem length_lt_size {items : List Nat} {table : List (List (String × String))}
    (found : g.nodes[i]? = some (.sequence Tag.seq items))
    (shown : List.Forall₂ (ShowsMapping g.nodes) items table) (distinct : items.Nodup) :
    i ∉ items ∧ items.length < g.nodes.size := by
  have mappings : ∀ j ∈ items, ∃ pairs, g.nodes[j]? = some (.mapping Tag.map pairs) := by
    refine ((List.forall₂_and_left _ _).mp (shown.imp fun j entries shown => ⟨?_, shown⟩)).1
    obtain ⟨pairs, found, -⟩ := shown
    exact ⟨pairs, found⟩
  have other : i ∉ items := by
    intro member
    obtain ⟨pairs, mapping⟩ := mappings i member
    rw [found] at mapping
    cases mapping
  refine ⟨other, ?_⟩
  have inside : i :: items ⊆ List.range g.nodes.size := by
    refine List.forall_mem_cons.mpr ⟨?_, fun j member => ?_⟩
    · exact List.mem_range.mpr (Array.getElem?_eq_some_iff.mp found).1
    · obtain ⟨pairs, mapping⟩ := mappings j member
      exact List.mem_range.mpr (Array.getElem?_eq_some_iff.mp mapping).1
  have all : (i :: items).Nodup := List.nodup_cons.mpr ⟨other, distinct⟩
  have fewer := (List.Nodup.subperm all inside).length_le
  rwa [List.length_range] at fewer

/-- All of a table is met from its root on, level by level. -/
theorem run_table {root : Nat} {items : List Nat} {table : List (List (String × String))}
    (found : g.nodes[root]? = some (.sequence Tag.seq items))
    (shown : List.Forall₂ (ShowsMapping g.nodes) items table) (distinct : items.Nodup) :
    ∃ t, (do let _ ← visit root; run (g.nodes.size + 1)).run { graph := g } = .ok ((), t) ∧
      ∀ depth, t.view (depth + 2) root = ofTable table := by
  obtain ⟨other, enough⟩ := length_lt_size found shown distinct
  have list := shell_sequence found
  have start : Holds g { graph := g } := ⟨rfl, fun i shell known => by cases known⟩
  obtain ⟨holds, -⟩ := start.met rfl list
  have visits := visit_new start rfl list
  have root_known : (met { graph := g } root .list).shells.lookup root = some .list := by
    rw [lookup_met, if_pos rfl]
  have unknown : ∀ i ∈ items, (met { graph := g } root .list).shells.lookup i = none := by
    intro i member
    rw [lookup_met, if_neg]
    · rfl
    · rintro rfl
      exact other member
  -- the first level are the entries, the second what they name
  obtain ⟨t, level, holds, keeps, waits, dicts⟩ := members_sequence found shown distinct
    (s := { met { graph := g } root .list with waiting := [] }) ⟨holds.graph, holds.sound⟩ unknown
  obtain ⟨u, later, holds, keeps', knows⟩ := run_mappings shown holds waits enough
  refine ⟨u, ?_, fun depth => ?_⟩
  · have queue : (met { graph := g } root .list).waiting = [root] := rfl
    simp only [StateT.run_bind, visits, Graph.ok_bind, run, StateT.run_get, StateT.run_modify,
      pure_bind, queue, level]
    exact later
  · rw [← holds.graph] at found knows
    exact view_sequence (keeps' (keeps root_known)) found (fun i member => keeps' (dicts i member))
      knows depth

end Builder

/-- The value of a document whose graph shows a table. -/
theorem load_of_showsTable {text : String} {g : Graph} {root : Nat}
    {table : List (List (String × String))}
    (read : Graph.ofTokens (TokenStream.ofText text) = .ok (g, some root))
    (shown : Graph.ShowsTable g.nodes root table) (depth : Nat) :
    load (depth + 2) text = .ok (Builder.ofTable table) := by
  obtain ⟨items, found, shown, distinct⟩ := shown
  obtain ⟨t, builds, view⟩ := Builder.run_table found shown distinct
  simp only [load, read, Graph.ok_bind, builds, view]
  rfl

/-- A sequence of mappings is written so that its value is read back, text by text. -/
theorem load_sequence {table : List (List (String × String))} (isTable : Lexer.IsTable table)
    (some : table ≠ []) (depth : Nat) :
    load (depth + 2) (Printer.sequence table) =
      .ok (Builder.ofTable (table.map fun entries => entries.map Graph.rereadEntry)) := by
  obtain ⟨g, read, shown⟩ := Graph.ofTokens_sequenceTokens isTable
  rw [← TokenStream.ofText_sequence isTable some] at read
  exact load_of_showsTable read shown depth

end Catalog.Yaml
