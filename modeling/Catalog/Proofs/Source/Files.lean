import Catalog.Proofs.FileTree.Rewriting
import Catalog.Proofs.Scan.Records
import Catalog.Proofs.Text.Dotted

/-!
# Only source files are read

Every file that is loaded as a unit, and every file in which a module is looked up, has a name with
the extension of sources. So a file with any other name can be put into the tree without a trace:
the same files are listed, the same units are loaded, and every module is found, or missing, as
before.
-/

namespace Catalog

namespace Text

/-- A text without a separator that is added at the end belongs to the last piece. -/
theorem splitChars_append_of_not_mem {sep : Char} (cs : List Char) {tail : List Char}
    (absent : sep ∉ tail) :
    ∃ pieces last, splitChars sep cs = pieces ++ [last] ∧
      splitChars sep (cs ++ tail) = pieces ++ [last ++ tail] := by
  induction cs with
  | nil => exact ⟨[], [], rfl, splitChars_of_not_mem absent⟩
  | cons c rest ih =>
    obtain ⟨pieces, last, cut, cut'⟩ := ih
    rw [List.cons_append]
    by_cases same : c = sep
    · subst same
      refine ⟨[] :: pieces, last, ?_, ?_⟩
      · rw [splitChars_cons_self, cut, List.cons_append]
      · rw [splitChars_cons_self, cut', List.cons_append]
    · cases pieces with
      | nil =>
        exact ⟨[], c :: last, splitChars_cons_of_ne same cut, splitChars_cons_of_ne same cut'⟩
      | cons first pieces =>
        exact ⟨(c :: first) :: pieces, last, splitChars_cons_of_ne same cut,
          splitChars_cons_of_ne same cut'⟩

end Text

namespace Path

/-- The name of a source file. -/
def isSourceName (name : String) : Bool := Text.endsWith name ".py"

theorem isSourceName_append (s : String) : isSourceName (s ++ ".py") = true := by
  rw [isSourceName, Text.endsWith, String.toList_append]
  exact List.isSuffixOf_iff_suffix.mpr (List.suffix_append _ _)

/-- The last name of a text with the extension of sources has that extension. -/
theorem isSourceName_getLast {s : String} (source : isSourceName s = true) :
    ∃ init name, names s = init ++ [name] ∧ isSourceName name = true := by
  obtain ⟨stem, whole⟩ := List.isSuffixOf_iff_suffix.mp source
  obtain ⟨pieces, last, -, cut⟩ :=
    @Text.splitChars_append_of_not_mem '/' stem ".py".toList (by decide)
  have name : String.ofList (last ++ ".py".toList) = String.ofList last ++ ".py" := by
    rw [String.ofList_append, String.ofList_toList]
  have kept : (String.ofList last ++ ".py" != "" && String.ofList last ++ ".py" != ".") = true := by
    have ends : (String.ofList last ++ ".py").length = last.length + 3 := by simp; rfl
    simp only [Bool.and_eq_true, bne_iff_ne]
    constructor
    · intro same
      simp [same] at ends
    · intro same
      have one : ".".length = 1 := rfl
      rw [same, one] at ends
      omega
  refine ⟨(pieces.map String.ofList).filter fun name => name != "" && name != ".",
    String.ofList last ++ ".py", ?_, isSourceName_append _⟩
  rw [names, Text.split, ← whole, cut, List.map_append, List.map_singleton, name,
    List.filter_append, List.filter_singleton, kept]
  rfl

theorem isSourceName_div {s : String} (source : isSourceName s = true) (p : Path) :
    isSourceName (p / s).name = true := by
  obtain ⟨init, name, cut, source⟩ := isSourceName_getLast source
  have last : (p / s).name = name := by
    change (p.append (ofString s)).name = name
    rw [append]
    split
    · simp [Path.name, ofString, cut, List.getLastD_eq_getLast?]
    · simp [Path.name, ofString, cut, List.getLastD_eq_getLast?]
  rw [last, source]

end Path

namespace SourceSet

theorem isSourceName_candidates {base : Path} {m : String} :
    ∀ candidate ∈ candidates base m, Path.isSourceName candidate.1.name = true := by
  have last (parts : List String) {name : String} (source : Path.isSourceName name = true) :
      Path.isSourceName ((parts ++ [name]).foldl (· / ·) base).name = true := by
    rw [List.foldl_append]
    exact Path.isSourceName_div source _
  rw [candidates, List.forall_mem_cons, List.forall_mem_singleton]
  exact ⟨last _ (by decide), last _ (Path.isSourceName_append _)⟩

end SourceSet

/-! ## A tree with a file that is no source -/

namespace FileTree.Fills

variable {before after : FileTree} {dir : List String} {name : String} {bytes : ByteArray}
  (fills : before.Fills after dir name bytes) (noSource : Path.isSourceName name = false)
include fills noSource

theorem name_ne {path : Path} (source : Path.isSourceName path.name = true) : path.name ≠ name := by
  rintro rfl
  rw [noSource] at source
  cases source

theorem readModule {path : Path} (source : Path.isSourceName path.name = true) (m : String)
    (isPackage : Bool) :
    SourceSet.readModule after m path isPackage = SourceSet.readModule before m path isPackage := by
  rw [SourceSet.readModule, SourceSet.readModule]
  rcases fills.readText (fills.name_ne noSource source) with same | ⟨e, -, led, leads⟩
  · rw [same]
  · rw [led, leads]

theorem readFirst (m : String) {candidates : List (Path × Bool)}
    (sources : ∀ candidate ∈ candidates, Path.isSourceName candidate.1.name = true) :
    SourceSet.readFirst after m candidates = SourceSet.readFirst before m candidates := by
  induction candidates with
  | nil => rfl
  | cons candidate rest ih =>
    obtain ⟨source, sources⟩ := List.forall_mem_cons.mp sources
    rw [SourceSet.readFirst, SourceSet.readFirst, fills.isFile (fills.name_ne noSource source),
      fills.readModule noSource source, ih sources]

theorem find (searchPaths : List Path) (m : String) :
    SourceSet.find after searchPaths m = SourceSet.find before searchPaths m := by
  apply fills.readFirst noSource
  intro candidate member
  obtain ⟨base, -, member⟩ := List.mem_flatMap.mp member
  exact SourceSet.isSourceName_candidates candidate member

/-- Every query runs as before. -/
theorem run {α : Type} (q : Query α) (s : SourceSet) :
    SourceSet.run after q s = SourceSet.run before q s := by
  have outside (s : SourceSet) (m : String) :
      SourceSet.outsideUnit after s m = SourceSet.outsideUnit before s m := by
    rw [SourceSet.outsideUnit, SourceSet.outsideUnit, fills.find noSource]
  induction q generalizing s with
  | done | fail => rfl
  | ask m next ih =>
    rw [SourceSet.run, SourceSet.run, outside]
    rcases SourceSet.outsideUnit before s m with ⟨_ | answer, s'⟩
    · rfl
    · exact ih answer s'

/-- A set of sources is scanned as before. -/
theorem ofSources (o : ScanOptions) (sources : SourceSet) :
    Scan.ofSources after o sources = Scan.ofSources before o sources := by
  have unit (s : Scan) (u : SourceUnit) :
      Scan.scanUnit after o s u = Scan.scanUnit before o s u := by
    rw [Scan.scanUnit, Scan.scanUnit, fills.run noSource]
  have units (s : Scan) (us : List SourceUnit) :
      Scan.scanUnits after o s us = Scan.scanUnits before o s us := by
    induction us generalizing s with
    | nil => rfl
    | cons u rest ih =>
      rw [Scan.scanUnits, Scan.scanUnits, unit]
      rcases Scan.scanUnit before o s u with ⟨_ | ⟨⟩, s'⟩
      · rfl
      · exact ih s'
  rw [Scan.ofSources, Scan.ofSources, units]

/-! ## Loading -/

theorem loadFile (repo : Path) (roots : List String) (index : Nat) {path : String}
    (source : Path.isSourceName path = true) :
    SourceSet.loadFile after repo roots index path =
      SourceSet.loadFile before repo roots index path := by
  unfold SourceSet.loadFile
  rcases fills.readText (fills.name_ne noSource (Path.isSourceName_div source repo)) with
    same | ⟨e, nowhere, led, leads⟩
  · rw [same]
  · rw [led, leads]
    rcases nowhere with rfl | rfl | rfl <;> rfl

theorem loadFiles (repo : Path) (roots : List String) (s : SourceSet) {paths : List String}
    (sources : ∀ path ∈ paths, Path.isSourceName path = true) :
    SourceSet.loadFiles after repo roots s paths =
      SourceSet.loadFiles before repo roots s paths := by
  induction paths generalizing s with
  | nil => rfl
  | cons path rest ih =>
    obtain ⟨source, sources⟩ := List.forall_mem_cons.mp sources
    rw [SourceSet.loadFiles_cons, SourceSet.loadFiles_cons,
      fills.loadFile noSource repo roots _ source, ih _ sources]
    rcases SourceSet.loadFile before repo roots s.units.length path with _ | (u | warning)
    · rfl
    · exact ih (s.add u) sources
    · rfl

omit noSource in
theorem directories (repo : Path) (paths : List String) :
    SourceSet.directories after repo paths = SourceSet.directories before repo paths := by
  induction paths with
  | nil => rfl
  | cons path rest ih =>
    unfold SourceSet.directories
    rw [fills.isDir, ih]

end FileTree.Fills

namespace Listing

theorem isSourceName_of_mem_pythonFiles {paths : List String} :
    ∀ path ∈ pythonFiles paths, Path.isSourceName path = true := by
  intro path member
  rw [pythonFiles, sortedUnique, List.mem_mergeSort, List.mem_eraseDups, List.mem_filter] at member
  exact member.2

theorem met?_eq_none {dir : List String} {name : String}
    (noSource : Path.isSourceName name = false) (repo : Path) (base : List String)
    (entry : Entry) : met? repo base (dir ++ [name], entry) = none := by
  have last : Text.endsWith (((dir ++ [name]).drop base.length).getLastD "") ".py" = false := by
    by_cases all : (dir ++ [name]).length ≤ base.length
    · rw [List.drop_eq_nil_of_le all]
      decide
    · have short : base.length ≤ dir.length := by
        rw [List.length_append, List.length_singleton] at all
        omega
      rw [List.drop_append_of_le_length short, List.getLastD_eq_getLast?, List.getLast?_concat]
      exact noSource
  simp only [met?, last, Bool.and_false, Bool.false_and, Bool.false_eq_true, ↓reduceIte]

/-- A walk finds no file that is no source. -/
theorem walk_insert {tree : FileTree} {dir : List String} {name : String} {bytes : ByteArray}
    (fills : tree.Fills (tree.insert (dir ++ [name]) (.file bytes)) dir name bytes)
    (noSource : Path.isSourceName name = false) (repo : Path) :
    walk (tree.insert (dir ++ [name]) (.file bytes)) repo = walk tree repo := by
  have entries (base : List String) :
      (tree.insert (dir ++ [name]) (.file bytes)).entries.filterMap (met? repo base) =
        tree.entries.filterMap (met? repo base) := by
    rw [FileTree.insert, List.filterMap_cons, met?_eq_none noSource, FileTree.erase,
      List.filterMap_filter]
    refine List.filterMap_congr fun item _ => ?_
    split
    · rfl
    · rename_i same
      obtain ⟨location, entry⟩ := item
      obtain rfl : location = dir ++ [name] := by simpa using same
      exact (met?_eq_none noSource repo base entry).symm
  by_cases isDir : ∃ base, tree.stat repo = .ok (base, .dir)
  · obtain ⟨base, led⟩ := isDir
    rw [walk, walk, fills.stat_dir.mpr led, led]
    simp only [entries]
  · have nowhere {t : FileTree} (isDir : ¬∃ base, t.stat repo = .ok (base, .dir)) :
        walk t repo = .ok [] := by
      rw [walk]
      split
      · rename_i base led
        exact absurd ⟨base, led⟩ isDir
      · rfl
    rw [nowhere isDir, nowhere]
    rintro ⟨base, led⟩
    exact isDir ⟨base, fills.stat_dir.mp led⟩

end Listing

end Catalog
