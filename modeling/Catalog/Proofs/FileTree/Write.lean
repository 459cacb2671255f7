import Catalog.FileTree.Write
import Catalog.Proofs.FileTree.Frame
import Mathlib.Data.List.Nodup
import Mathlib.Data.List.Perm.Subperm

/-!
# Writing leaves one new file or none

A text that is written passes through a temporary file. Its name is free, so putting it there hides
nothing and removing it again brings back what was there. A write that fails has at most made
directories; one that succeeds has changed the entry that its path names, and no other file.
-/

namespace Catalog.FileTree

variable {tree before after : FileTree} {location other : List String}

/-- The same regular files, with the same contents. -/
def SameFiles (before after : FileTree) : Prop :=
  ∀ location bytes,
    after.find? location = some (.file bytes) ↔ before.find? location = some (.file bytes)

/-- Everything that `before` holds, and perhaps directories where nothing was. -/
def AddsDirs (before after : FileTree) : Prop :=
  ∀ location, after.find? location = before.find? location ∨
    before.find? location = none ∧ after.find? location = some .dir

namespace AddsDirs

theorem refl (tree : FileTree) : tree.AddsDirs tree := fun _ => .inl rfl

theorem trans {middle : FileTree} (first : before.AddsDirs middle)
    (second : middle.AddsDirs after) : before.AddsDirs after := by
  intro location
  rcases first location with same | ⟨missing, made⟩
  · rcases second location with same' | ⟨missing, made⟩
    · exact .inl (same'.trans same)
    · exact .inr ⟨same ▸ missing, made⟩
  · rcases second location with same' | ⟨missing', _⟩
    · exact .inr ⟨missing, same'.trans made⟩
    · rw [made] at missing'
      cases missing'

theorem insert_dir (missing : tree.find? location = none) :
    tree.AddsDirs (tree.insert location .dir) := by
  intro other
  rw [find?_insert (ne_nil_of_find?_eq_none missing)]
  by_cases same : other = location
  · subst same
    exact .inr ⟨missing, if_pos rfl⟩
  · exact .inl (if_neg same)

theorem sameFiles (h : before.AddsDirs after) : before.SameFiles after := by
  intro location bytes
  rcases h location with same | ⟨missing, made⟩
  · rw [same]
  · rw [missing, made]
    simp

end AddsDirs

/-! ## Directories -/

theorem addsDirs_makeDir (tree : FileTree) (path : Path) :
    tree.AddsDirs (tree.makeDir path).1 := by
  rw [makeDir]
  split
  · rename_i location leads
    exact .insert_dir (entry_of_followFrom (follow_eq_ok_iff.mp leads).2).symm
  · split <;> exact .refl tree
  · exact .refl tree

theorem addsDirs_makeDirsFrom (tree : FileTree) (root : String) (names : List String) :
    tree.AddsDirs (tree.makeDirsFrom root names).1 := by
  induction names with
  | nil => exact .refl tree
  | cons name above ih =>
    have direct := addsDirs_makeDir tree { root, parts := (name :: above).reverse }
    simp only [makeDirsFrom]
    split
    · rename_i missing
      split
      · rename_i tree' done
        rw [done] at ih
        exact ih.trans (addsDirs_makeDir tree' _)
      · exact ih
    · exact direct

theorem addsDirs_makeDirs (tree : FileTree) (path : Path) :
    tree.AddsDirs (tree.makeDirs path).1 :=
  addsDirs_makeDirsFrom tree path.root path.parts.reverse

/-! ## Temporary names -/

theorem temporaryName_injective (name : String) : (temporaryName name).Injective := by
  intro m n same
  have texts := congrArg String.toList same
  simp only [temporaryName, String.toList_append, String.toList_ofList] at texts
  have digits := List.append_cancel_left (List.append_cancel_right texts)
  have read (k : Nat) : Nat.ofDigitChars 10
      (List.replicate (8 - (Nat.toDigits 10 k).length) '0' ++ Nat.toDigits 10 k) 0 = k := by
    rw [Nat.ofDigitChars_append, Nat.ofDigitChars_replicate_zero, Nat.mul_zero,
      Nat.ofDigitChars_ten_toDigits]
  rw [← read m, digits, read n]

theorem temporaryName_ne (name : String) (n : Nat) : temporaryName name n ≠ name := by
  intro same
  have lengths := congrArg String.length same
  have dot : ".".length = 1 := rfl
  simp only [temporaryName, String.length_append] at lengths
  omega

/-- There are more candidates for a temporary name than entries, so one of them is free. -/
theorem find?_freshName (tree : FileTree) (dir : List String) (name : String) :
    tree.find? (dir ++ [tree.freshName dir name]) = none := by
  let place (n : Nat) : List String := dir ++ [temporaryName name n]
  have found {n : Nat} (taken : ¬(tree.find? (place n)).isNone = true) :
      place n ∈ tree.entries.map Prod.fst := by
    by_contra absent
    refine taken (Option.isNone_iff_eq_none.mpr ?_)
    have below : place n ≠ [] := by simp [place]
    obtain ⟨first, rest, split⟩ := List.exists_cons_of_ne_nil below
    rw [split, find?, List.lookup_eq_none_iff]
    rintro ⟨key, entry⟩ mem
    rw [← split, bne_iff_ne]
    rintro keyed
    exact absent (List.mem_map.mpr ⟨(key, entry), mem, keyed.symm⟩)
  rw [freshName]
  cases search : (List.range (tree.entries.length + 1)).find?
      fun n => (tree.find? (place n)).isNone with
  | some n =>
    have free := List.find?_some search
    simpa [place] using free
  | none =>
    have taken := List.find?_eq_none.mp search
    have inside : (List.range (tree.entries.length + 1)).map place ⊆ tree.entries.map Prod.fst := by
      intro location mem
      obtain ⟨n, range, rfl⟩ := List.mem_map.mp mem
      exact found (taken n range)
    have distinct : ((List.range (tree.entries.length + 1)).map place).Nodup := by
      refine List.Nodup.map ?_ List.nodup_range
      intro m n same
      exact temporaryName_injective name (by simpa [place] using same)
    have short := (distinct.subperm inside).length_le
    simp only [List.length_map, List.length_range] at short
    omega

/-! ## Writing -/

/-- The text stands in the one file that the path names, and no other file was changed. The
location of that file is the one to which the path leads once the directories above it are
made. If the name of a link was replaced by the file, the link may have been on the path itself;
otherwise the path still leads to the file. -/
structure Published (before after : FileTree) (path : Path) (text : String)
    (location : List String) (replaced : Option Entry) : Prop where
  leads : (before.makeDirs path.parent).1.follow false path = .ok (location, replaced)
  notDir : replaced ≠ some .dir
  content : after.find? location = some (.file text.toUTF8)
  others : ∀ other, other ≠ location → ∀ bytes,
    after.find? other = some (.file bytes) ↔ before.find? other = some (.file bytes)
  reached : (∀ target, replaced ≠ some (.link target)) →
    after.follow false path = .ok (location, some (.file text.toUTF8))

/-- A path leads to the same location whether or not a file stands somewhere else. -/
theorem follow_erase_file {source : List String} {bytes : ByteArray} {path : Path}
    {found : Option Entry} (free : tree.find? source = none) (apart : location ≠ source)
    (leads : (tree.insert source (.file bytes)).follow false path = .ok (location, found)) :
    tree.follow false path = .ok (location, found) := by
  have below := ne_nil_of_find?_eq_none free
  rw [follow_eq_ok_iff] at leads ⊢
  obtain ⟨fits, leads⟩ := leads
  refine ⟨fits, ?_⟩
  have entry := entry_of_followFrom leads
  rw [find?_insert below, if_neg apart] at entry
  rw [entry]
  refine followFrom_of_agree ?_ ?_ leads
  · intro l on
    rw [find?_insert below] at on ⊢
    by_cases same : l = source
    · rw [if_pos same] at on
      cases on
    · rw [if_neg same]
  · intro stops
    rwa [find?_insert below, if_neg apart] at stops

theorem follow_insert_file {bytes : ByteArray} {path : Path} {replaced : Option Entry}
    (changed : ∀ l, after.find? l = if l = location then some (.file bytes) else tree.find? l)
    (leads : tree.follow false path = .ok (location, replaced))
    (stops : leadsOn replaced = false) :
    after.follow false path = .ok (location, some (.file bytes)) := by
  have content : after.find? location = some (.file bytes) := by rw [changed, if_pos rfl]
  rw [follow_eq_ok_iff] at leads ⊢
  obtain ⟨fits, leads⟩ := leads
  refine ⟨fits, ?_⟩
  rw [← content]
  have entry := entry_of_followFrom leads
  refine followFrom_of_agree ?_ (fun _ => by rw [content]; rfl) leads
  intro l on
  by_cases same : l = location
  · rw [same, ← entry, stops] at on
    cases on
  · rw [changed, if_neg same]

/-- What became of a file that was to take the place of the entry at a path. -/
theorem rename_cases (tree : FileTree) (source : List String) (bytes : ByteArray) (target : Path) :
    (∃ e, tree.rename source bytes target = (tree, .error e)) ∨
    ∃ location replaced, tree.follow false target = .ok (location, replaced) ∧
      replaced ≠ some .dir ∧
      tree.rename source bytes target =
        ((tree.erase source).insert location (.file bytes), .ok ()) := by
  rw [rename]
  split
  · exact .inl ⟨_, rfl⟩
  · exact .inl ⟨_, rfl⟩
  · rename_i location replaced notDir leads
    exact .inr ⟨location, replaced, leads, notDir, rfl⟩

/-- A path that does not lead to a directory leads to an entry of its last name. -/
theorem ends_in_own_name {path : Path} {found : Option Entry}
    (leads : tree.follow false path = .ok (location, found)) (notDir : found ≠ some .dir) :
    ∃ dir, location = dir ++ [path.name] := by
  obtain ⟨-, leads⟩ := follow_eq_ok_iff.mp leads
  cases parts : path.parts with
  | nil =>
    rw [parts, followFrom] at leads
    cases leads
    exact absurd rfl notDir
  | cons first rest =>
    have ends : path.parts.getLast? = some path.name := by
      rw [Path.name, parts, List.getLastD_eq_getLast?, List.getLast?_cons, Option.getD_some]
    exact (ends_in_name (walked_root tree) ends leads).resolve_left notDir

/-- A new file takes the place of the entry at a path, or else it can be removed again. Either
way the tree does not show that it was there. -/
theorem rename_new {dir : List String} {name : String} (path : Path) (bytes : ByteArray)
    (free : tree.find? (dir ++ [name]) = none) (other : name ≠ path.name) :
    let source := dir ++ [name]
    let put := tree.insert source (.file bytes)
    (∃ e, put.rename source bytes path = (put, .error e) ∧
      ∀ l, (put.erase source).find? l = tree.find? l) ∨
    ∃ location replaced after, put.rename source bytes path = (after, .ok ()) ∧
      tree.follow false path = .ok (location, replaced) ∧ replaced ≠ some .dir ∧
      ∀ l, after.find? l = if l = location then some (.file bytes) else tree.find? l := by
  intro source put
  have below : source ≠ [] := ne_nil_of_find?_eq_none free
  have removed (l : List String) : (put.erase source).find? l = tree.find? l := by
    rw [find?_erase below, find?_insert below]
    by_cases same : l = source
    · rw [if_pos same, same, free]
    · rw [if_neg same, if_neg same]
  rcases rename_cases put source bytes path with
    ⟨e, failed⟩ | ⟨location, replaced, leads, notDir, done⟩
  · exact .inl ⟨e, failed, removed⟩
  · obtain ⟨above, named⟩ := ends_in_own_name leads notDir
    have apart : location ≠ source := by
      rw [named]
      intro same
      exact other (List.append_inj_right' same rfl |> List.singleton_inj.mp).symm
    have leads := follow_erase_file free apart leads
    have inside : location ≠ [] := by simp [named]
    refine .inr ⟨location, replaced, _, done, leads, notDir, ?_⟩
    intro l
    rw [find?_insert inside, removed]

theorem freshName_ne (tree : FileTree) (dir : List String) (name : String) :
    tree.freshName dir name ≠ name :=
  temporaryName_ne name _

/-- Writing the bytes either fails and changes no file, or puts them where the path leads. -/
theorem writeBytes_cases (tree : FileTree) (path : Path) (bytes : ByteArray) :
    (∃ after e, tree.writeBytes path bytes = (after, .error e) ∧ tree.SameFiles after) ∨
    ∃ after location replaced, tree.writeBytes path bytes = (after, .ok ()) ∧
      (tree.makeDirs path.parent).1.follow false path = .ok (location, replaced) ∧
      replaced ≠ some .dir ∧
      ∀ l, after.find? l =
        if l = location then some (.file bytes) else (tree.makeDirs path.parent).1.find? l := by
  have dirs := addsDirs_makeDirs tree path.parent
  rw [writeBytes]
  split
  · rename_i made e failed
    rw [failed] at dirs
    exact .inl ⟨_, _, rfl, dirs.sameFiles⟩
  · rename_i made done
    rw [done] at dirs ⊢
    split
    · exact .inl ⟨_, _, rfl, dirs.sameFiles⟩
    · rename_i dir _ _
      dsimp only
      split
      · exact .inl ⟨_, _, rfl, dirs.sameFiles⟩
      · rcases rename_new path bytes (find?_freshName made dir path.name)
          (freshName_ne made dir path.name) with
          ⟨e, failed, removed⟩ | ⟨location, replaced, after, done, result⟩
        · rw [failed]
          refine .inl ⟨_, _, rfl, ?_⟩
          intro l content
          rw [removed]
          exact dirs.sameFiles l content
        · rw [done]
          exact .inr ⟨after, location, replaced, rfl, result⟩

/-- Writing a text either fails and changes no file, or publishes the text at the path. -/
theorem writeText_cases (tree : FileTree) (path : Path) (text : String) :
    (∃ after e, tree.writeText path text = (after, .error e) ∧ tree.SameFiles after) ∨
    ∃ after location replaced, tree.writeText path text = (after, .ok ()) ∧
      tree.Published after path text location replaced := by
  rw [writeText]
  split
  · exact .inl ⟨tree, _, rfl, (AddsDirs.refl tree).sameFiles⟩
  · rcases writeBytes_cases tree path text.toUTF8 with
      failed | ⟨after, location, replaced, done, leads, notDir, changed⟩
    · exact .inl failed
    · refine .inr ⟨after, location, replaced, done, leads, notDir, ?_, ?_, ?_⟩
      · rw [changed, if_pos rfl]
      · intro other apart content
        rw [changed, if_neg apart]
        exact (addsDirs_makeDirs tree path.parent).sameFiles other content
      · intro notLink
        refine follow_insert_file changed leads ?_
        cases replaced with
        | none => rfl
        | some entry =>
          cases entry with
          | file | special => rfl
          | dir => exact absurd rfl notDir
          | link target => exact absurd rfl (notLink target)

end Catalog.FileTree
