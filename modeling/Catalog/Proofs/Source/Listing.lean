import Catalog.Proofs.Source.Files
import Catalog.Proofs.Source.Locations
import Catalog.Proofs.Text.Sorted

/-!
# When listers and the directory walk agree

A lister prints lines, and the listing is read off the lines: blanks are cut off, the slashes are
made uniform, a `./` is dropped, what is listed twice counts once, and what stands in an excluded
directory is left out. The walk reads its listing off the tree. Both end with a list in strictly
rising order, so they are equal as soon as they have the same members, and what a line has to say
for that is only which names lead to the file. Every path whose text survives as a line is read
back to the names it was printed from.

The walk asks for what it meets with whole paths, and it keeps all that is neither a directory nor a
link. So it does not come to a file in a directory whose path is too long, it fails at a file whose
own path is, and it lists a pipe.
-/

namespace Catalog

/-! ## Lines -/

namespace Text

end Text

namespace Listing

/-- The text of a path, where it can stand on a line of its own and be read back: no character of
it ends a line, it has no blanks at its ends, and its only slashes are those between the names. -/
structure IsLine (path : String) : Prop where
  slashes : '\\' ∉ path.toList
  single : ∀ c ∈ path.toList, Text.isLineBreak c = false
  front : ∀ c ∈ path.toList.head?, Text.isBlank c = false
  back : ∀ c ∈ path.toList.getLast?, Text.isBlank c = false

theorem isLine_iff {path : String} : IsLine path ↔
    (!path.toList.contains '\\' && path.toList.all (!Text.isLineBreak ·) &&
      path.toList.head?.all (!Text.isBlank ·) &&
      path.toList.getLast?.all (!Text.isBlank ·)) = true := by
  simp only [Bool.and_eq_true, Bool.not_eq_true', List.all_eq_true, Option.all_eq_true,
    List.contains_eq_mem, decide_eq_false_iff_not]
  exact ⟨fun h => ⟨⟨⟨h.slashes, h.single⟩, h.front⟩, h.back⟩,
    fun h => ⟨h.1.1.1, h.1.1.2, h.1.2, h.2⟩⟩

instance (path : String) : Decidable (IsLine path) :=
  decidable_of_iff' _ isLine_iff

end Listing

/-! ## The source files of a repository -/

namespace FileTree

/-- The tree is one that a file system can hold: each location has one entry, and what leads to it
are names. -/
structure IsNamed (tree : FileTree) : Prop where
  distinct : (tree.entries.map Prod.fst).Nodup
  named : ∀ item ∈ tree.entries, ∀ name ∈ item.1, Path.IsName name

end FileTree

namespace Listing

variable {tree : FileTree} {repo : Path} {below : List String} {entry entry' : Entry}
  {path line : String}

/-- The names lead from the repository to a file with the extension of sources. -/
def IsPythonFile (tree : FileTree) (repo : Path) (below : List String) : Prop :=
  Path.isSourceName (below.getLastD "") = true ∧
    ∃ base bytes, tree.stat repo = .ok (base, .dir) ∧
      tree.find? (base ++ below) = some (.file bytes)

/-- A directory on the way to the file is left out of the listing. -/
def IsExcluded (below : List String) : Prop :=
  below.dropLast.any Path.isExcludedName = true

instance (below : List String) : Decidable (IsExcluded below) :=
  inferInstanceAs (Decidable (_ = true))

/-- A walk through the repository meets the entry under the name of a source. -/
structure Meets (tree : FileTree) (repo : Path) (below : List String) (entry : Entry) : Prop where
  source : Path.isSourceName (below.getLastD "") = true
  found : ∃ base, tree.stat repo = .ok (base, .dir) ∧ tree.find? (base ++ below) = some entry
  other : entry.isDir = false
  kept : ¬IsExcluded below
  /-- The directory can be looked into. -/
  near : FileTree.isShort (repo.extend below.dropLast) = true

theorem ne_nil_of_isSourceName (source : Path.isSourceName (below.getLastD "") = true) :
    below ≠ [] := by
  rintro rfl
  exact absurd source (by decide)

theorem isName_of_find? (named : tree.IsNamed) {base : List String} (nonempty : below ≠ [])
    (found : tree.find? (base ++ below) = some entry) : ∀ name ∈ below, Path.IsName name := by
  intro name member
  have whole : base ++ below ≠ [] := List.append_ne_nil_of_right_ne_nil base nonempty
  exact named.named _ (FileTree.mem_of_find? whole found) name (List.mem_append_right base member)

/-- The text of a path of names is read back to the names. -/
theorem names_join (some : below ≠ []) (each : ∀ name ∈ below, Path.IsName name) :
    Path.names (Text.join "/" below) = below :=
  congrArg Path.parts (Path.ofString_join some each)

theorem IsPythonFile.ne_nil (source : IsPythonFile tree repo below) : below ≠ [] :=
  ne_nil_of_isSourceName source.1

theorem IsPythonFile.isName (named : tree.IsNamed) (source : IsPythonFile tree repo below) :
    ∀ name ∈ below, Path.IsName name := by
  obtain ⟨-, base, bytes, -, found⟩ := id source
  exact isName_of_find? named source.ne_nil found

theorem Meets.isName (named : tree.IsNamed) (meets : Meets tree repo below entry) :
    ∀ name ∈ below, Path.IsName name := by
  obtain ⟨base, -, found⟩ := meets.found
  exact isName_of_find? named (ne_nil_of_isSourceName meets.source) found

theorem IsPythonFile.names_join (named : tree.IsNamed) (source : IsPythonFile tree repo below) :
    Path.names (Text.join "/" below) = below :=
  Listing.names_join source.ne_nil (source.isName named)

theorem Meets.names_join (named : tree.IsNamed) (meets : Meets tree repo below entry) :
    Path.names (Text.join "/" below) = below :=
  Listing.names_join (ne_nil_of_isSourceName meets.source) (meets.isName named)

theorem IsPythonFile.meets (source : IsPythonFile tree repo below) (kept : ¬IsExcluded below)
    (near : FileTree.isShort (repo.extend below.dropLast) = true) :
    ∃ bytes, Meets tree repo below (.file bytes) := by
  obtain ⟨isSource, base, bytes, led, found⟩ := source
  exact ⟨bytes, isSource, ⟨base, led, found⟩, rfl, kept, near⟩

/-- One entry is met at a place. -/
theorem Meets.unique (meets : Meets tree repo below entry) (meets' : Meets tree repo below entry') :
    entry = entry' := by
  obtain ⟨base, led, found⟩ := meets.found
  obtain ⟨base', led', found'⟩ := meets'.found
  cases led.symm.trans led'
  exact Option.some.inj (found.symm.trans found')

/-- The list has the paths along the names that `lists` holds of, in order and each once. -/
structure IsListing (files : List String) (lists : List String → Prop) : Prop where
  ordered : files.Pairwise (· < ·)
  mem_iff : ∀ path, path ∈ files ↔ ∃ below, lists below ∧ path = Text.join "/" below

/-- What is in one listing of the files is in every other, if the paths are read back. -/
theorem IsListing.imp {files : List String} {lists lists' : List String → Prop}
    (listing : IsListing files lists) (listing' : IsListing files lists')
    (read : Path.names (Text.join "/" below) = below)
    (read' : ∀ below, lists' below → Path.names (Text.join "/" below) = below)
    (given : lists below) : lists' below := by
  obtain ⟨below', given', same⟩ :=
    (listing'.mem_iff _).mp ((listing.mem_iff _).mpr ⟨below, given, rfl⟩)
  have places : below = below' := by rw [← read, same, read' below' given']
  exact places ▸ given'

theorem IsListing.unique {files files' : List String} {lists lists' : List String → Prop}
    (listing : IsListing files lists) (listing' : IsListing files' lists')
    (same : ∀ below, lists below ↔ lists' below) : files = files' := by
  refine Text.eq_of_pairwise_lt listing.ordered listing'.ordered fun path => ?_
  simp only [listing.mem_iff, listing'.mem_iff, same]

/-- The line names the file, perhaps with `./` before the path. -/
def Spells (below : List String) (line : String) : Prop :=
  line = Text.join "/" below ∨ line = "./" ++ Text.join "/" below

instance (below : List String) (line : String) : Decidable (Spells below line) :=
  inferInstanceAs (Decidable (_ ∨ _))

theorem pairwise_pythonFiles (printed : List String) : (pythonFiles printed).Pairwise (· < ·) :=
  Text.pairwise_mergeSort (Text.nodup_eraseDups _)

/-! ## The lister that is asked -/

section Asked

variable {run : Lister → Attempt} {state : State} {lister : Lister} {output : String}

/-- The lister is not known to be missing, it runs, it ends with status zero, and this is what it
prints. -/
def Gives (run : Lister → Attempt) (state : State) (lister : Lister) (output : String) : Prop :=
  lister ∉ state.missing ∧ ∃ errors : String, run lister = .ran output.toUTF8 errors.toUTF8 0

/-- The lister does not give a listing, and the next one is tried. -/
inductive PassesOn (run : Lister → Attempt) (state : State) (lister : Lister) : Prop
  | known (missing : lister ∈ state.missing)
  | missing (absent : run lister = .notInstalled)
  | fails {reason : String} (fails : run lister = .cannotRun reason)
  | exits {output errors : String} {status : Int}
      (ran : run lister = .ran output.toUTF8 errors.toUTF8 status) (other : status ≠ 0)

/-- The lister is run, and what it prints is no text. -/
def Garbles (run : Lister → Attempt) (state : State) (lister : Lister) : Prop :=
  lister ∉ state.missing ∧ ∃ output errors status, run lister = .ran output errors status ∧
    (String.fromUTF8? output = none ∨ String.fromUTF8? errors = none)

/-- What is known of a lister does not depend on what came of others. -/
theorem PassesOn.of_same {after : State} (passes : PassesOn run state lister)
    (same : lister ∉ state.missing ↔ lister ∉ after.missing) : PassesOn run after lister := by
  cases passes with
  | known missing => exact .known (by simpa using not_congr same |>.mp (by simpa using missing))
  | missing absent => exact .missing absent
  | fails fails => exact .fails fails
  | exits ran other => exact .exits ran other

/-- A lister prints what is no text, before another one succeeds. -/
inductive Garbled (run : Lister → Attempt) (state : State) : Prop
  | fd (garbles : Garbles run state .fd)
  | rg (passed : PassesOn run state .fd) (garbles : Garbles run state .rg)

/-- There is no listing: a lister prints what is no text, or neither of them gives a listing and the
walk fails. -/
inductive Fails (run : Lister → Attempt) (tree : FileTree) (repo : Path) (state : State) :
    Fault → Prop
  | output (garbled : Garbled run state) : Fails run tree repo state .undecodable
  | walk {cause : SystemError} (first : PassesOn run state .fd) (second : PassesOn run state .rg)
      (fails : Listing.walk tree repo = .error cause) : Fails run tree repo state (.system cause)

/-- The lines name every source outside the excluded directories, and nothing but sources. -/
structure Covers (tree : FileTree) (repo : Path) (printed : List String) : Prop where
  complete : ∀ below, IsPythonFile tree repo below → ¬IsExcluded below →
    ∃ line ∈ printed, Spells below line
  sound : ∀ line ∈ printed, ∃ below, IsPythonFile tree repo below ∧ Spells below line

end Asked

end Listing

end Catalog
