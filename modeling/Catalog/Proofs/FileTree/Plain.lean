import Catalog.Proofs.FileTree.Replacing

/-!
# Trees without links

In a tree without links, in which every entry stands in a directory, a path that does not go up
leads to the location of its own names. What it leads to is the entry there.
-/

namespace Catalog.FileTree

/-- The tree holds no links, every entry stands in a directory, and the names are valid. -/
structure IsPlain (tree : FileTree) : Prop where
  linkless : ∀ item ∈ tree.entries, item.2.isFile = true ∨ item.2 = .dir
  closed : ∀ item ∈ tree.entries, tree.find? item.1.dropLast = some .dir
  valid : ∀ item ∈ tree.entries, isInvalid { parts := item.1 } = false

instance (tree : FileTree) : Decidable tree.IsPlain :=
  decidable_of_iff ((∀ item ∈ tree.entries, item.2.isFile = true ∨ item.2 = .dir) ∧
    (∀ item ∈ tree.entries, tree.find? item.1.dropLast = some .dir) ∧
    ∀ item ∈ tree.entries, isInvalid { parts := item.1 } = false)
    ⟨fun h => ⟨h.1, h.2.1, h.2.2⟩, fun h => ⟨h.linkless, h.closed, h.valid⟩⟩

theorem mem_of_find? {tree : FileTree} {l : List String} {entry : Entry} (below : l ≠ [])
    (found : tree.find? l = some entry) : (l, entry) ∈ tree.entries := by
  obtain ⟨name, rest, rfl⟩ := List.exists_cons_of_ne_nil below
  obtain ⟨before, after, entries, -⟩ := List.lookup_eq_some_iff.mp found
  simp [entries]

/-- The path leads down, and neither it nor one of its names is too long. -/
structure LeadsDown (path : Path) : Prop where
  down : ".." ∉ path.parts
  names : ∀ n ∈ path.parts, n.utf8ByteSize ≤ maxNameBytes
  whole : path.text.utf8ByteSize ≤ maxPathBytes

instance (path : Path) : Decidable (LeadsDown path) :=
  decidable_of_iff (".." ∉ path.parts ∧ (∀ n ∈ path.parts, n.utf8ByteSize ≤ maxNameBytes) ∧
    path.text.utf8ByteSize ≤ maxPathBytes)
    ⟨fun h => ⟨h.1, h.2.1, h.2.2⟩, fun h => ⟨h.down, h.names, h.whole⟩⟩

namespace IsPlain

variable {tree : FileTree} (plain : tree.IsPlain)
include plain

/-- Below something that is no directory there is nothing. -/
theorem find?_eq_none {above more : List String} (other : tree.find? above ≠ some .dir)
    (below : more ≠ []) : tree.find? (above ++ more) = none := by
  induction more using List.reverseRecOn with
  | nil => exact absurd rfl below
  | append_singleton names name ih =>
    cases found : tree.find? (above ++ (names ++ [name])) with
    | none => rfl
    | some entry =>
      have dir := plain.closed _ (mem_of_find? (by simp) found)
      dsimp only at dir
      rw [← List.append_assoc, List.dropLast_concat] at dir
      cases names with
      | nil =>
        rw [List.append_nil] at dir
        exact absurd dir other
      | cons first rest =>
        rw [ih (List.cons_ne_nil first rest)] at dir
        cases dir

/-- The names lead to their own location. If they lead nowhere, there is nothing at it, or one of
them is too long. -/
theorem followFrom (links : Nat) (here : List String) {todo : List String} (down : ".." ∉ todo) :
    tree.followFrom true links here todo = .ok (here ++ todo, tree.find? (here ++ todo)) ∨
      (tree.find? (here ++ todo) = none ∧
        ∃ e, Nowhere e ∧ tree.followFrom true links here todo = .error e) ∨
      (∃ n ∈ todo, maxNameBytes < n.utf8ByteSize) ∧
        tree.followFrom true links here todo = .error .nameTooLong := by
  induction todo generalizing here with
  | nil =>
    rw [List.append_nil, FileTree.followFrom]
    exact .inl rfl
  | cons name rest ih =>
    obtain ⟨inner, down⟩ := not_or.mp (List.mem_cons.not.mp down)
    have inner : ¬(name == "..") = true := by simpa using Ne.symm inner
    have whole : here ++ name :: rest = here ++ [name] ++ rest := by simp
    by_cases short : maxNameBytes < name.utf8ByteSize
    · exact .inr (.inr ⟨⟨name, List.mem_cons_self, short⟩, followFrom_long inner short⟩)
    have ended {entry : Option Entry} (found : tree.find? (here ++ [name]) = entry)
        (other : entry ≠ some .dir) {e : SystemError} (nowhere : Nowhere e)
        (step : tree.followFrom true links here (name :: rest) =
          if rest.isEmpty then .ok (here ++ [name], entry) else .error e) :
        tree.followFrom true links here (name :: rest) =
            .ok (here ++ name :: rest, tree.find? (here ++ name :: rest)) ∨
          (tree.find? (here ++ name :: rest) = none ∧
            ∃ e, Nowhere e ∧ tree.followFrom true links here (name :: rest) = .error e) ∨
          (∃ n ∈ name :: rest, maxNameBytes < n.utf8ByteSize) ∧
            tree.followFrom true links here (name :: rest) = .error .nameTooLong := by
      rw [step]
      cases rest with
      | nil => exact .inl (by rw [found]; rfl)
      | cons next rest =>
        rw [← found] at other
        rw [whole]
        exact .inr (.inl
          ⟨plain.find?_eq_none other (List.cons_ne_nil next rest), e, nowhere, rfl⟩)
    cases found : tree.find? (here ++ [name]) with
    | none => exact ended found (by simp) (.inl rfl) (followFrom_none inner short found)
    | some entry =>
      cases entry with
      | dir =>
        rw [followFrom_dir inner short found, whole]
        refine (ih (here ++ [name]) down).imp_right (Or.imp_right (And.imp_left ?_))
        rintro ⟨n, member, long⟩
        exact ⟨n, List.mem_cons_of_mem _ member, long⟩
      | file bytes =>
        exact ended found (by simp) (.inr (.inl rfl)) (followFrom_leaf inner short rfl found)
      | link | special =>
        have listed := plain.linkless _ (mem_of_find? (by simp) found)
        rcases listed with file | dir
        · cases file
        · cases dir

/-- What a path leads to is what stands at its own location, unless the path or a name is too
long. -/
theorem stat_or {path : Path} (down : ".." ∉ path.parts) :
    (∃ entry, tree.find? path.parts = some entry ∧ tree.stat path = .ok (path.parts, entry)) ∨
      (tree.find? path.parts = none ∧ ∃ e, e ≠ .nameTooLong ∧ tree.stat path = .error e) ∨
      ¬LeadsDown path ∧ tree.stat path = .error .nameTooLong := by
  by_cases invalid : isInvalid path = true
  · refine .inr (.inl ⟨?_, .invalidName, by simp, by rw [stat, follow, if_pos invalid]⟩)
    cases found : tree.find? path.parts with
    | none => rfl
    | some entry =>
      have below : path.parts ≠ [] := by
        intro top
        rw [isInvalid, top] at invalid
        cases invalid
      have valid : isInvalid path = false := plain.valid _ (mem_of_find? below found)
      rw [valid] at invalid
      cases invalid
  · rw [stat, follow, if_neg invalid]
    by_cases long : maxPathBytes < path.text.utf8ByteSize
    · rw [if_pos long]
      exact .inr (.inr ⟨fun short => Nat.not_lt.mpr short.whole long, rfl⟩)
    · rw [if_neg long]
      rcases plain.followFrom maxLinks [] down with
        led | ⟨none, e, nowhere, led⟩ | ⟨⟨n, member, long⟩, led⟩
      · rw [List.nil_append] at led
        rw [led]
        cases found : tree.find? path.parts with
        | none => exact .inr (.inl ⟨rfl, .notFound, by simp, rfl⟩)
        | some entry => exact .inl ⟨entry, rfl, rfl⟩
      · rw [led]
        refine .inr (.inl ⟨none, e, ?_, rfl⟩)
        rcases nowhere with rfl | rfl | rfl <;> simp
      · rw [led]
        exact .inr (.inr ⟨fun short => Nat.not_lt.mpr (short.names n member) long, rfl⟩)

theorem isFile_or {path : Path} (down : ".." ∉ path.parts) :
    tree.isFile path = .ok ((tree.find? path.parts).any Entry.isFile) ∨
      ¬LeadsDown path ∧ tree.isFile path = .error .nameTooLong := by
  rw [FileTree.isFile, test]
  rcases plain.stat_or down with ⟨entry, found, led⟩ | ⟨none, e, other, led⟩ | ⟨long, led⟩
  · rw [led, found]
    exact .inl rfl
  · rw [led, none]
    cases e <;> first | exact .inl rfl | exact absurd rfl other
  · rw [led]
    exact .inr ⟨long, rfl⟩

theorem isFile {path : Path} (down : LeadsDown path) :
    tree.isFile path = .ok ((tree.find? path.parts).any Entry.isFile) :=
  (plain.isFile_or down.down).resolve_right fun long => long.1 down

theorem readText {path : Path} (down : LeadsDown path) {text : String}
    (found : tree.find? path.parts = some (.file text.toUTF8))
    (unified : Text.unifyBreaks text = text) : tree.readText path = .ok text := by
  have decoded : String.fromUTF8? text.toUTF8 = some text := dif_pos text.isValidUTF8
  rcases plain.stat_or down.down with ⟨entry, there, led⟩ | ⟨none, -⟩ | ⟨long, -⟩
  · rw [found] at there
    cases there
    rw [FileTree.readText, led]
    simp only [decoded, unified]
  · rw [found] at none
    cases none
  · exact absurd down long

end IsPlain

end Catalog.FileTree
