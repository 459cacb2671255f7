import Catalog.Proofs.Yaml.Tokens
import Catalog.Yaml.Value
import Mathlib.Data.List.Forall2

/-!
# The document of a written sequence

The tokens of a sequence of mappings are read as a graph that shows it: the root names its entries,
each of them names its keys and values, and these are texts. The value of such a graph is the
sequence itself.
-/

namespace Catalog.Yaml

namespace Graph

open Lexer (IsWord IsTable mappingTokens itemTokens sequenceTokens)

/-! ## Graphs that show a table -/

/-- The nodes of a document that is read are found among those that are known later. -/
def Extends (nodes more : Array Node) : Prop :=
  ∀ ⦃i : Nat⦄ ⦃node : Node⦄, nodes[i]? = some node → more[i]? = some node

namespace Extends

variable {nodes more last : Array Node}

theorem trans (first : Extends nodes more) (second : Extends more last) : Extends nodes last :=
  fun _ _ found => second (first found)

theorem push (nodes : Array Node) (node : Node) : Extends nodes (nodes.push node) := by
  intro i found held
  obtain ⟨inside, same⟩ := Array.getElem?_eq_some_iff.mp held
  rw [Array.getElem?_push_lt inside, same]

end Extends

/-- The two members of a pair are a key and its text. -/
def ShowsPair (nodes : Array Node) (pair : Nat × Nat) (entry : String × String) : Prop :=
  nodes[pair.1]? = some (.scalar Tag.str entry.1) ∧ nodes[pair.2]? = some (.scalar Tag.str entry.2)

/-- A node is a mapping with the given keys and texts. -/
def ShowsMapping (nodes : Array Node) (i : Nat) (entries : List (String × String)) : Prop :=
  ∃ pairs, nodes[i]? = some (.mapping Tag.map pairs) ∧
    List.Forall₂ (ShowsPair nodes) pairs entries

/-- A node is a sequence of the given mappings, each a node of its own. -/
def ShowsTable (nodes : Array Node) (i : Nat) (table : List (List (String × String))) : Prop :=
  ∃ items, nodes[i]? = some (.sequence Tag.seq items) ∧
    List.Forall₂ (ShowsMapping nodes) items table ∧ items.Nodup

variable {nodes more : Array Node} {table : List (List (String × String))}

theorem ShowsPair.mono {pair : Nat × Nat} {entry : String × String}
    (extended : Extends nodes more) (shown : ShowsPair nodes pair entry) :
    ShowsPair more pair entry :=
  ⟨extended shown.1, extended shown.2⟩

theorem ShowsMapping.mono {i : Nat} {entries : List (String × String)}
    (extended : Extends nodes more) (shown : ShowsMapping nodes i entries) :
    ShowsMapping more i entries := by
  obtain ⟨pairs, found, members⟩ := shown
  exact ⟨pairs, extended found, members.imp fun _ _ => .mono extended⟩

/-- A collection is filled in after its members: only its own node changes. -/
theorem fill_spec {i : Nat} {hole : Node} (held : nodes[i]? = some hole) (node : Node) :
    (nodes.setIfInBounds i node)[i]? = some node ∧
      ∀ {j : Nat} {found : Node}, nodes[j]? = some found → found ≠ hole →
        (nodes.setIfInBounds i node)[j]? = some found := by
  obtain ⟨inside, -⟩ := Array.getElem?_eq_some_iff.mp held
  refine ⟨by simp [inside], fun {j found} other differs => ?_⟩
  have away : i ≠ j := by
    rintro rfl
    rw [held] at other
    exact differs (Option.some.inj other).symm
  rw [Array.getElem?_setIfInBounds_ne away, other]

/-! ## Reading the tokens -/

/-- The state between the tokens of a document that has neither directives nor anchors. -/
def reader (tokens : List Token) (nodes : Array Node) : Reader :=
  { tokens, fault := .malformed, nodes, handles := standardHandles }

/-- The node of a scalar without a tag. -/
def scalarNode (text : String) (plain : Bool) : Node := .scalar (scalarTag none text plain) text

section Steps

variable (fuel depth : Nat) (token : Token) (rest : List Token) (nodes : Array Node)

theorem run_peek : StateT.run peek (reader (token :: rest) nodes) =
    .ok (token, reader (token :: rest) nodes) := rfl

theorem run_skip : StateT.run skip (reader (token :: rest) nodes) = .ok ((), reader rest nodes) :=
  rfl

theorem ok_bind {α β : Type} (a : α) (f : α → Except Error β) : (Except.ok a >>= f) = f a := rfl

theorem node_scalar (place : Place) (text : String) (plain : Bool) :
    (node (fuel + 1) depth place).run (reader (.scalar text plain :: rest) nodes) =
      .ok (nodes.size, reader rest (nodes.push (scalarNode text plain))) := by
  rw [node]
  rfl

theorem blockPairs_cons (key value : String) (bare plain : Bool) (acc : List (Nat × Nat)) :
    (blockPairs (fuel + 2) depth acc).run
        (reader (.key :: .scalar key bare :: .value :: .scalar value plain :: rest) nodes) =
      (blockPairs (fuel + 1) depth ((nodes.size, nodes.size + 1) :: acc)).run
        (reader rest ((nodes.push (scalarNode key bare)).push (scalarNode value plain))) := by
  rw [blockPairs]
  simp only [StateT.run_bind, run_peek, run_skip, ok_bind, endsMember, Bool.false_eq_true, if_false,
    node_scalar, Array.size_push]

theorem blockPairs_end (acc : List (Nat × Nat)) :
    (blockPairs (fuel + 1) depth acc).run (reader (.blockEnd :: rest) nodes) =
      .ok (acc.reverse, reader rest nodes) := by
  rw [blockPairs]
  rfl

theorem blockItems_cons (acc : List Nat) :
    (blockItems (fuel + 1) depth acc).run
        (reader (.blockEntry :: .blockMappingStart :: rest) nodes) =
      (do
        let found ← (node fuel depth .block).run (reader (.blockMappingStart :: rest) nodes)
        (blockItems fuel depth (found.1 :: acc)).run found.2) := by
  rw [blockItems]
  simp only [StateT.run_bind, run_peek, run_skip, ok_bind]

theorem blockItems_end (acc : List Nat) :
    (blockItems (fuel + 1) depth acc).run (reader (.blockEnd :: rest) nodes) =
      .ok (acc.reverse, reader rest nodes) := by
  rw [blockItems]
  rfl

theorem run_requireRoom {depth : Nat} (room : depth < maxDepth) (s : Reader) :
    (requireRoom depth).run s = .ok ((), s) := by
  rw [requireRoom, if_pos room]
  rfl

theorem node_mapping (room : depth < maxDepth) {pairs : List (Nat × Nat)} {left : List Token}
    {more : Array Node}
    (reads : (blockPairs fuel (depth + 1) []).run (reader rest (nodes.push (.mapping Tag.map []))) =
      .ok (pairs, reader left more)) :
    (node (fuel + 1) depth .block).run (reader (.blockMappingStart :: rest) nodes) =
      .ok (nodes.size, reader left (more.setIfInBounds nodes.size (.mapping Tag.map pairs))) := by
  rw [node]
  show (do
    let passed ← (requireRoom depth).run (reader rest nodes)
    _) = _
  rw [run_requireRoom room]
  show (do
    let found ← (blockPairs fuel (depth + 1) []).run
      (reader rest (nodes.push (.mapping Tag.map [])))
    _) = _
  rw [reads]
  rfl

theorem node_sequence (room : depth < maxDepth) {items : List Nat} {left : List Token}
    {more : Array Node}
    (reads : (blockItems fuel (depth + 1) []).run
      (reader rest (nodes.push (.sequence Tag.seq []))) = .ok (items, reader left more)) :
    (node (fuel + 1) depth .block).run (reader (.blockSequenceStart :: rest) nodes) =
      .ok (nodes.size, reader left (more.setIfInBounds nodes.size (.sequence Tag.seq items))) := by
  rw [node]
  show (do
    let passed ← (requireRoom depth).run (reader rest nodes)
    _) = _
  rw [run_requireRoom room]
  show (do
    let found ← (blockItems fuel (depth + 1) []).run
      (reader rest (nodes.push (.sequence Tag.seq [])))
    _) = _
  rw [reads]
  rfl

end Steps

/-- A pair as it is read back. -/
def rereadEntry (entry : String × String) : String × String := (entry.1, Printer.reread entry.2)

/-- Keys and values are texts, in whatever style they are written. -/
theorem pairNodes {entry : String × String} (word : IsWord entry.1) :
    scalarNode entry.1 true = .scalar Tag.str entry.1 ∧
      scalarNode (Printer.reread entry.2) (Printer.styleOf entry.2 == .plain) =
        .scalar Tag.str (Printer.reread entry.2) := by
  refine ⟨?_, ?_⟩
  · rw [scalarNode, scalarTag, if_pos rfl, word.text]
  · rw [scalarNode, scalarTag, Printer.reread]
    cases style : Printer.styleOf entry.2 with
    | plain => simp [(Printer.styleOf_eq_plain style).2]
    | single => rfl
    | double => rfl

/-- The pairs of a mapping are read one after the other. -/
theorem blockPairs_mappingTokens {entries : List (String × String)}
    (words : ∀ entry ∈ entries, IsWord entry.1) {fuel : Nat} (enough : entries.length < fuel)
    (depth : Nat) (rest : List Token) (nodes : Array Node) (acc : List (Nat × Nat)) :
    ∃ pairs more, (blockPairs fuel depth acc).run
        (reader (mappingTokens false entries ++ .blockEnd :: rest) nodes) =
          .ok (acc.reverse ++ pairs, reader rest more) ∧
      Extends nodes more ∧ List.Forall₂ (ShowsPair more) pairs (entries.map rereadEntry) := by
  induction entries generalizing fuel nodes acc with
  | nil =>
    obtain ⟨fuel, rfl⟩ : ∃ k, fuel = k + 1 := ⟨fuel - 1, by simp at enough; omega⟩
    refine ⟨[], nodes, ?_, fun _ _ found => found, .nil⟩
    rw [List.append_nil]
    exact blockPairs_end fuel depth rest nodes acc
  | cons entry entries ih =>
    obtain ⟨word, words⟩ := List.forall_mem_cons.mp words
    obtain ⟨fuel, rfl⟩ : ∃ k, fuel = k + 2 := ⟨fuel - 2, by simp at enough; omega⟩
    obtain ⟨key, value⟩ := pairNodes word
    have step := blockPairs_cons fuel depth (mappingTokens false entries ++ .blockEnd :: rest) nodes
      entry.1 (Printer.reread entry.2) true (Printer.styleOf entry.2 == .plain) acc
    rw [key, value] at step
    obtain ⟨pairs, more, reads, extended, members⟩ := ih words
      (by simp at enough; omega : entries.length < fuel + 1)
      ((nodes.push (.scalar Tag.str entry.1)).push (.scalar Tag.str (Printer.reread entry.2)))
      ((nodes.size, nodes.size + 1) :: acc)
    refine ⟨(nodes.size, nodes.size + 1) :: pairs, more, ?_, ?_, .cons ⟨?_, ?_⟩ members⟩
    · rw [List.reverse_cons, List.append_assoc] at reads
      simpa [mappingTokens, Lexer.pairTokens, Lexer.keyTokens, Lexer.valueToken] using
        step.trans reads
    · exact ((Extends.push _ _).trans (Extends.push _ _)).trans extended
    · exact extended (Extends.push _ _ Array.getElem?_push_size)
    · refine extended ?_
      rw [← Array.size_push (.scalar Tag.str entry.1), Array.getElem?_push_size]
      rfl

theorem mappingTokens_true {entries : List (String × String)} (some : entries ≠ []) :
    mappingTokens true entries = .blockMappingStart :: mappingTokens false entries := by
  obtain ⟨entry, entries, rfl⟩ := List.exists_cons_of_ne_nil some
  rfl

theorem length_mappingTokens (opened : Bool) (entries : List (String × String)) :
    entries.length ≤ (mappingTokens opened entries).length := by
  induction entries generalizing opened with
  | nil => exact le_rfl
  | cons entry entries ih =>
    have later := ih false
    simp only [mappingTokens, Lexer.pairTokens, List.length_append, List.length_cons]
    omega

/-- A mapping is read as a node that shows it. -/
theorem node_mappingTokens {entries : List (String × String)} (some : entries ≠ [])
    (words : ∀ entry ∈ entries, IsWord entry.1) {fuel depth : Nat}
    (enough : entries.length + 1 < fuel) (room : depth < maxDepth) (rest : List Token)
    (nodes : Array Node) :
    ∃ more, (node fuel depth .block).run
        (reader (mappingTokens true entries ++ .blockEnd :: rest) nodes) =
          .ok (nodes.size, reader rest more) ∧
      Extends nodes more ∧ ShowsMapping more nodes.size (entries.map rereadEntry) := by
  obtain ⟨fuel, rfl⟩ : ∃ k, fuel = k + 1 := ⟨fuel - 1, by omega⟩
  obtain ⟨pairs, more, reads, extended, members⟩ := blockPairs_mappingTokens words
    (by omega : entries.length < fuel) (depth + 1) rest (nodes.push (.mapping Tag.map [])) []
  -- until the pairs are known, an empty mapping holds the place; no member of a pair is one
  have hole : more[nodes.size]? = .some (.mapping Tag.map []) :=
    extended Array.getElem?_push_size
  obtain ⟨filled, kept⟩ := fill_spec hole (.mapping Tag.map pairs)
  refine ⟨more.setIfInBounds nodes.size (.mapping Tag.map pairs), ?_, ?_, pairs, filled, ?_⟩
  · rw [mappingTokens_true some]
    exact node_mapping fuel depth _ nodes room reads
  · intro i found held
    have inside : i < nodes.size := (Array.getElem?_eq_some_iff.mp held).1
    rw [Array.getElem?_setIfInBounds_ne (by omega)]
    exact extended (Extends.push _ _ held)
  · exact members.imp fun pair entry shown => ⟨kept shown.1 (by simp), kept shown.2 (by simp)⟩

/-- The entries of a sequence are read one after the other, each as a node of its own. -/
theorem blockItems_itemTokens {table : List (List (String × String))} (isTable : IsTable table)
    {fuel depth : Nat} (enough : (table.flatMap itemTokens).length < fuel) (room : depth < maxDepth)
    (rest : List Token) (nodes : Array Node) (acc : List Nat) :
    ∃ items more, (blockItems fuel depth acc).run
        (reader (table.flatMap itemTokens ++ .blockEnd :: rest) nodes) =
          .ok (acc.reverse ++ items, reader rest more) ∧
      Extends nodes more ∧
      List.Forall₂ (ShowsMapping more) items (table.map fun entries => entries.map rereadEntry) ∧
      (∀ i ∈ items, nodes.size ≤ i) ∧ items.Nodup := by
  induction table generalizing fuel nodes acc with
  | nil =>
    obtain ⟨fuel, rfl⟩ : ∃ k, fuel = k + 1 := ⟨fuel - 1, by simp at enough; omega⟩
    refine ⟨[], nodes, ?_, fun _ _ found => found, .nil, by simp, .nil⟩
    rw [List.append_nil]
    exact blockItems_end fuel depth rest nodes acc
  | cons entries table ih =>
    obtain ⟨⟨some, words⟩, isTable⟩ := List.forall_mem_cons.mp isTable
    obtain ⟨fuel, rfl⟩ : ∃ k, fuel = k + 1 := ⟨fuel - 1, by omega⟩
    have length := length_mappingTokens true entries
    simp only [List.flatMap_cons, itemTokens, List.length_append, List.length_cons,
      List.length_nil] at enough
    obtain ⟨first, reads, extended, shown⟩ := node_mappingTokens some words
      (by omega : entries.length + 1 < fuel) room
      (table.flatMap itemTokens ++ .blockEnd :: rest) nodes
    obtain ⟨items, more, reads', extended', members, later, distinct⟩ := ih isTable
      (by omega : (table.flatMap itemTokens).length < fuel) first (nodes.size :: acc)
    -- the entries after this one are added behind it, and so have greater numbers
    have grown : nodes.size < first.size := by
      obtain ⟨pairs, found, -⟩ := shown
      exact (Array.getElem?_eq_some_iff.mp found).1
    refine ⟨nodes.size :: items, more, ?_, extended.trans extended',
      .cons (shown.mono extended') members, ?_, ?_⟩
    · have step := blockItems_cons fuel depth (mappingTokens false entries ++ .blockEnd ::
        (table.flatMap itemTokens ++ .blockEnd :: rest)) nodes acc
      rw [← List.cons_append, ← mappingTokens_true some, reads, ok_bind, reads'] at step
      simpa [itemTokens] using step
    · intro i member
      rcases List.mem_cons.mp member with rfl | member
      · exact le_rfl
      · exact grown.le.trans (later i member)
    · exact List.nodup_cons.mpr ⟨fun member => absurd (later _ member) (by omega), distinct⟩

theorem document_of_sequence {fuel root : Nat} {rest : List Token} {nodes : Array Node}
    (reads : (node (fuel + 1) 0 .block).run (reader (.blockSequenceStart :: rest) #[]) =
      .ok (root, reader [.streamEnd] nodes)) :
    (document (fuel + 1)).run { tokens := .blockSequenceStart :: rest, fault := .malformed } =
      .ok (some root, reader [.streamEnd] nodes) := by
  rw [document]
  show (do
    let found ← (node (fuel + 1) 0 .block).run (reader (.blockSequenceStart :: rest) #[])
    _) = _
  rw [reads]
  rfl

/-- The graph of a written sequence shows it, as it is read back. -/
theorem ofTokens_sequenceTokens {table : List (List (String × String))} (isTable : IsTable table) :
    ∃ g, ofTokens { tokens := sequenceTokens table, fault := none } = .ok (g, some 0) ∧
      ShowsTable g.nodes 0 (table.map fun entries => entries.map rereadEntry) := by
  obtain ⟨items, more, reads, extended, members, later, distinct⟩ := blockItems_itemTokens isTable
    (by rw [sequenceTokens]; simp; omega :
      (table.flatMap itemTokens).length < 2 * (sequenceTokens table).length + 1)
    (by decide : 1 < maxDepth) [.streamEnd]
      #[.sequence Tag.seq []] []
  have hole : more[0]? = some (.sequence Tag.seq []) := extended rfl
  obtain ⟨filled, kept⟩ := fill_spec hole (.sequence Tag.seq items)
  refine ⟨{ nodes := more.setIfInBounds 0 (.sequence Tag.seq items) }, ?_, items, filled, ?_,
    distinct⟩
  · have root := document_of_sequence (node_sequence _ 0 _ #[] (by decide) reads)
    have text : sequenceTokens table = .blockSequenceStart ::
      (table.flatMap itemTokens ++ .blockEnd :: [.streamEnd]) := rfl
    rw [← text] at root
    simp only [ofTokens, Option.getD_none, root, ok_bind]
    rfl
  · refine members.imp fun i entries => ?_
    rintro ⟨pairs, found, inside⟩
    refine ⟨pairs, kept found (by simp), inside.imp fun pair entry shown => ?_⟩
    exact ⟨kept shown.1 (by simp), kept shown.2 (by simp)⟩

end Graph

end Catalog.Yaml
