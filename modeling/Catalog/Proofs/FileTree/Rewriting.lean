import Catalog.Proofs.FileTree.Replacing

/-!
# Writing the same text twice

Below a directory that exists, writing a text puts one file into the tree and does nothing else:
the temporary file leaves no trace, not even in the order of the entries. Writing the text again
then finds the same directory and the same temporary name, and puts the same file at the same
place.
-/

namespace Catalog

/-- A text without a carriage return has no line ends to be unified. -/
theorem Text.unifyBreaks_eq_self {s : String} (plain : '\r' ∉ s.toList) : unifyBreaks s = s := by
  have chars (cs : List Char) (plain : '\r' ∉ cs) : unifyBreaksChars cs = cs := by
    induction cs with
    | nil => rfl
    | cons c rest ih =>
      obtain ⟨first, later⟩ := not_or.mp (List.mem_cons.not.mp plain)
      rw [unifyBreaksChars, ih later]
      · rintro - rfl -
        exact first rfl
      · rintro rfl
        exact first rfl
  rw [unifyBreaks, chars s.toList plain, String.ofList_toList]

namespace FileTree

variable {tree after : FileTree} {path : Path} {location : List String} {entry : Entry}

/-! ## Entries that come and go -/

theorem erase_eq_self (free : tree.find? location = none) : tree.erase location = tree := by
  obtain ⟨first, rest, rfl⟩ := List.exists_cons_of_ne_nil (ne_nil_of_find?_eq_none free)
  rw [find?, List.lookup_eq_none_iff] at free
  rw [erase, List.filter_eq_self.mpr]
  intro item member
  rw [bne_comm]
  exact free item member

theorem erase_insert (free : tree.find? location = none) (entry : Entry) :
    (tree.insert location entry).erase location = tree := by
  have again : (tree.erase location).erase location = tree.erase location :=
    erase_eq_self (by rw [erase_eq_self free, free])
  rw [insert, erase, List.filter_cons_of_neg (by simp)]
  rw [erase] at again
  rw [again, erase_eq_self free]

theorem insert_insert (tree : FileTree) (location : List String) (entry : Entry) :
    (tree.insert location entry).insert location entry = tree.insert location entry := by
  simp [insert, erase]

/-! ## A directory that exists -/

/-- A path that leads to an entry leads to one also if a link at its end is not followed. -/
theorem followFrom_unfollowed {links : Nat} {here todo : List String}
    (leads : tree.followFrom true links here todo = .ok (location, some entry)) :
    ∃ l e, tree.followFrom false links here todo = .ok (l, some e) := by
  generalize followed : true = always at leads
  fun_induction followFrom tree always links here todo with
  | case1 links here =>
    obtain ⟨-, found⟩ := Prod.mk.inj (Except.ok.inj leads)
    exact ⟨here, entry, by rw [followFrom, found]⟩
  | case2 links here step rest up ih =>
    rw [followFrom_up up]
    exact ih leads
  | case6 links here step rest down short dir ih =>
    rw [followFrom_dir down short dir]
    exact ih leads
  | case10 links here step rest down short entry notDir notLink found done =>
    rw [followFrom_leaf down short (leadsOn_leaf notDir notLink) found, if_pos done]
    exact ⟨_, _, rfl⟩
  | case9 here step rest down short target link taken links path ih =>
    by_cases done : (rest.isEmpty && !false) = true
    · exact ⟨_, _, followFrom_link_kept down short link done⟩
    · rw [followFrom_link_succ down short link done]
      exact ih leads
  | case7 links here step rest down short target link kept =>
    simp [← followed] at kept
  | case3 | case4 | case5 | case8 | case11 => cases leads

theorem stat_of_isDir (isDir : tree.isDir path = .ok true) :
    ∃ dir, tree.stat path = .ok (dir, .dir) := by
  rw [FileTree.isDir, test] at isDir
  split at isDir
  · rename_i dir entry led
    cases entry with
    | dir => exact ⟨dir, led⟩
    | file | link | special => cases isDir
  · cases isDir
  · cases isDir

theorem makeDir_of_isDir (isDir : tree.isDir path = .ok true) :
    tree.makeDir path = (tree, .ok ()) := by
  obtain ⟨dir, led⟩ := stat_of_isDir isDir
  have leads : ∃ l e, tree.follow false path = .ok (l, some e) := by
    rw [stat] at led
    split at led <;> try cases led
    rename_i led
    obtain ⟨fits, led⟩ := follow_eq_ok_iff.mp led
    rw [fits.follow]
    exact followFrom_unfollowed led
  obtain ⟨l, e, leads⟩ := leads
  simp [makeDir, leads, isDir]

theorem makeDirs_of_isDir (isDir : tree.isDir path = .ok true) :
    tree.makeDirs path = (tree, .ok ()) := by
  rw [makeDirs]
  cases names : path.parts.reverse with
  | nil => rfl
  | cons name above =>
    have same : ({ root := path.root, parts := (name :: above).reverse } : Path) = path := by
      rw [← names, List.reverse_reverse]
    rw [makeDirsFrom, same, makeDir_of_isDir isDir]

/-! ## Temporary names -/

/-- The temporary name is the first that is free. -/
theorem freshName_spec (tree : FileTree) (dir : List String) (name : String) :
    ∃ n, tree.freshName dir name = temporaryName name n ∧
      tree.find? (dir ++ [temporaryName name n]) = none ∧
      ∀ m < n, tree.find? (dir ++ [temporaryName name m]) ≠ none := by
  have free := find?_freshName tree dir name
  rw [freshName] at free ⊢
  cases search : (List.range (tree.entries.length + 1)).find?
      fun n => (tree.find? (dir ++ [temporaryName name n])).isNone with
  | some n =>
    rw [search] at free
    refine ⟨n, rfl, free, ?_⟩
    intro m less
    have taken := (List.find?_range_eq_some.mp search).2.2 m less
    intro missing
    simp [missing] at taken
  | none =>
    rw [search] at free
    have taken := List.find?_eq_none.mp search 0 (by simp)
    simp only [Option.getD_none] at free
    simp [free] at taken

theorem freshName_eq {tree' : FileTree} {dir : List String} {name : String}
    (same : ∀ n, tree'.find? (dir ++ [temporaryName name n]) =
      tree.find? (dir ++ [temporaryName name n])) :
    tree'.freshName dir name = tree.freshName dir name := by
  obtain ⟨n, fresh, free, taken⟩ := freshName_spec tree dir name
  obtain ⟨n', fresh', free', taken'⟩ := freshName_spec tree' dir name
  rw [fresh, fresh']
  congr 1
  rcases Nat.lt_trichotomy n' n with less | rfl | less
  · exact absurd (same n' ▸ free') (taken n' less)
  · rfl
  · exact absurd ((same n).trans free) (taken' n less)

/-! ## Writing -/

/-- A temporary file beside the target does not lead the path of the target elsewhere. -/
theorem follow_insert_temporary {dir : List String} {name : String} {bytes : ByteArray}
    {found : Option Entry} (free : tree.find? (dir ++ [name]) = none) (other : name ≠ path.name)
    (notDir : found ≠ some .dir) :
    (tree.insert (dir ++ [name]) (.file bytes)).follow false path = .ok (location, found) ↔
      tree.follow false path = .ok (location, found) := by
  have below := ne_nil_of_find?_eq_none free
  have apart {t : FileTree} (leads : t.follow false path = .ok (location, found)) :
      location ≠ dir ++ [name] := by
    obtain ⟨above, rfl⟩ := ends_in_own_name leads notDir
    intro same
    exact other (List.singleton_inj.mp (List.append_inj' same rfl).2).symm
  constructor
  · intro leads
    exact follow_erase_file free (apart leads) leads
  · intro leads
    have off := apart leads
    rw [follow_eq_ok_iff] at leads ⊢
    obtain ⟨fits, leads⟩ := leads
    refine ⟨fits, ?_⟩
    have kept : found = (tree.insert (dir ++ [name]) (.file bytes)).find? location := by
      rw [find?_insert below, if_neg off, entry_of_followFrom leads]
    rw [kept]
    refine followFrom_of_agree ?_ ?_ leads
    · intro l on
      rw [find?_insert below, if_neg]
      rintro rfl
      rw [free] at on
      cases on
    · intro stops
      rwa [find?_insert below, if_neg off]

theorem rename_eq_ok {source : List String} {bytes : ByteArray} :
    tree.rename source bytes path = (after, .ok ()) ↔
      ∃ location replaced, tree.follow false path = .ok (location, replaced) ∧
        replaced ≠ some .dir ∧ after = (tree.erase source).insert location (.file bytes) := by
  rw [rename]
  split
  · rename_i e led
    simp [led]
  · rename_i location led
    simp [led]
  · rename_i location replaced notDir led
    rw [led]
    constructor
    · rintro ⟨⟩
      exact ⟨location, replaced, rfl, notDir, rfl⟩
    · rintro ⟨_, _, ⟨⟩, -, rfl⟩
      rfl

/-- A file of the name can stand beside the one at the path. -/
structure Spares (path : Path) (name : String) : Prop where
  own : name.utf8ByteSize ≤ maxNameBytes
  whole : (path.parent / name).text.utf8ByteSize ≤ maxPathBytes

theorem spares_iff {name : String} : Spares path name ↔
    (maxNameBytes < name.utf8ByteSize ||
      maxPathBytes < (path.parent / name).text.utf8ByteSize) = false := by
  simp only [Bool.or_eq_false_iff, decide_eq_false_iff_not, Nat.not_lt]
  exact ⟨fun spares => ⟨spares.own, spares.whole⟩, fun fits => ⟨fits.1, fits.2⟩⟩

instance (path : Path) (name : String) : Decidable (Spares path name) :=
  decidable_of_iff _ spares_iff.symm

/-- Below a directory that exists, writing a text succeeds exactly if there is a temporary name for
it and the path leads to no directory. The tree then has one file more or another. -/
theorem writeText_iff {text : String} {dir : List String}
    (parent : tree.stat path.parent = .ok (dir, .dir)) :
    tree.writeText path text = (after, .ok ()) ↔
      isInvalid path = false ∧ Spares path (tree.freshName dir path.name) ∧
      ∃ location replaced, tree.follow false path = .ok (location, replaced) ∧
        replaced ≠ some .dir ∧ after = tree.insert location (.file text.toUTF8) := by
  have isDir : tree.isDir path.parent = .ok true := by rw [FileTree.isDir, test, parent]; rfl
  have free := find?_freshName tree dir path.name
  have other := freshName_ne tree dir path.name
  rw [writeText, writeBytes, makeDirs_of_isDir isDir]
  simp only [parent]
  by_cases invalid : isInvalid path = true
  · simp [invalid]
  · rw [if_neg invalid]
    cases long : maxNameBytes < (tree.freshName dir path.name).utf8ByteSize ||
        maxPathBytes < (path.parent / tree.freshName dir path.name).text.utf8ByteSize with
    | true =>
      rw [if_pos rfl, spares_iff, long]
      simp
    | false =>
      have spares := spares_iff.mpr long
      rw [if_neg Bool.false_ne_true]
      have outcome := @rename_eq_ok
        (tree.insert (dir ++ [tree.freshName dir path.name]) (.file text.toUTF8)) after path
        (dir ++ [tree.freshName dir path.name]) text.toUTF8
      rw [erase_insert free] at outcome
      refine Iff.trans ?_ (outcome.trans ?_)
      · rcases (tree.insert _ _).rename _ _ path with ⟨t, e | ⟨⟩⟩ <;> simp
      · refine ⟨?_, ?_⟩
        · rintro ⟨location, replaced, leads, notDir, rfl⟩
          rw [follow_insert_temporary free other notDir] at leads
          exact ⟨by simpa using invalid, spares, location, replaced, leads, notDir, rfl⟩
        · rintro ⟨-, -, location, replaced, leads, notDir, rfl⟩
          rw [← follow_insert_temporary free other notDir] at leads
          exact ⟨location, replaced, leads, notDir, rfl⟩

/-! ## Writing again -/

/-- Some link leads to the location that the path names. -/
def IsLinkTarget (tree : FileTree) (path : Path) : Prop :=
  ∃ l target location found named, tree.find? l = some (.link target) ∧
    tree.destination l target = .ok (location, found) ∧
    tree.follow false path = .ok (location, named)

variable {text : String} {dir : List String}

/-- A path that named a location leads to the file that was put there. -/
theorem Fills.leads {bytes : ByteArray} {replaced : Option Entry}
    (fills : tree.Fills after dir path.name bytes)
    (led : tree.follow false path = .ok (dir ++ [path.name], replaced)) (last : Bool) :
    after.follow last path = .ok (dir ++ [path.name], some (.file bytes)) := by
  have file : after.find? (dir ++ [path.name]) = some (.file bytes) := by
    rw [fills.changed, if_pos rfl]
  have own : ∃ found, after.follow false path = .ok (dir ++ [path.name], found) := by
    rcases fills.follow false path with same | ⟨e, -, nowhere, -⟩ | ⟨leads, -, -⟩
    · exact ⟨replaced, same.trans led⟩
    · rw [led] at nowhere
      cases nowhere
    · exact ⟨_, leads⟩
  obtain ⟨found, own⟩ := own
  obtain ⟨fits, own⟩ := follow_eq_ok_iff.mp own
  rw [fits.follow]
  obtain rfl := (entry_of_followFrom own).trans file
  cases last with
  | false => exact own
  | true =>
    obtain ⟨down, short, left, same⟩ := followFrom_ends (walked_root after) (by simp) own
    rw [same, followFrom_last down short (by rw [file]; rfl), file]

/-- A text was written to a path below a directory that exists. The path led to a file or to
nothing, and no link leads to its location. -/
structure Overwrites (tree after : FileTree) (path : Path) (text : String) : Prop where
  parent : ∃ dir, tree.stat path.parent = .ok (dir, .dir)
  wrote : tree.writeText path text = (after, .ok ())
  blind : Blind (tree.follow true path)
  enough : tree.follow true path ≠ .error .tooManyLinks
  unlinked : ¬tree.IsLinkTarget path

namespace Overwrites

theorem fills (rewritten : tree.Overwrites after path text) :
    ∃ dir replaced, tree.Fills after dir path.name text.toUTF8 ∧
      tree.follow false path = .ok (dir ++ [path.name], replaced) ∧
      after = tree.insert (dir ++ [path.name]) (.file text.toUTF8) := by
  obtain ⟨above, parent⟩ := rewritten.parent
  obtain ⟨-, -, location, replaced, leads, notDir, rfl⟩ := (writeText_iff parent).mp rewritten.wrote
  obtain ⟨dir, rfl⟩ := ends_in_own_name leads notDir
  have entry : tree.find? (dir ++ [path.name]) = replaced :=
    (entry_of_followFrom (follow_eq_ok_iff.mp leads).2).symm
  refine ⟨dir, replaced, ⟨fun l => find?_insert (by simp) _ l, entry ▸ notDir, ?_, ?_⟩, leads, rfl⟩
  · exact blind_of_leads leads notDir rewritten.blind rewritten.enough
  · intro l target found link led
    exact rewritten.unlinked ⟨l, target, _, found, replaced, link, led, leads⟩

/-- Writing the text again succeeds and changes nothing. -/
theorem again (rewritten : tree.Overwrites after path text) :
    after.writeText path text = (after, .ok ()) := by
  obtain ⟨above, parent⟩ := rewritten.parent
  obtain ⟨valid, spares, -⟩ := (writeText_iff parent).mp rewritten.wrote
  obtain ⟨dir, replaced, fills, led, inserted⟩ := rewritten.fills
  have fresh : after.freshName above path.name = tree.freshName above path.name := by
    apply freshName_eq
    intro n
    apply fills.find?_eq
    intro same
    exact temporaryName_ne path.name n (List.singleton_inj.mp (List.append_inj' same rfl).2)
  rw [writeText_iff (fills.stat_dir.mpr parent), fresh]
  refine ⟨valid, spares, _, _, fills.leads led false, by simp, ?_⟩
  rw [inserted, insert_insert]

/-- The text is read back, if its lines end with line feeds alone. -/
theorem readText (rewritten : tree.Overwrites after path text) (plain : '\r' ∉ text.toList) :
    after.readText path = .ok text := by
  obtain ⟨dir, replaced, fills, led, -⟩ := rewritten.fills
  have decoded : String.fromUTF8? text.toUTF8 = some text := by
    exact dif_pos text.isValidUTF8
  rw [FileTree.readText, stat, fills.leads led true]
  simp only [decoded, Text.unifyBreaks_eq_self plain]

end Overwrites

end FileTree

end Catalog
