import Catalog.Proofs.Command.Rescan
import Catalog.Proofs.Record.Faults
import Catalog.Proofs.Scan.Units
import Catalog.Proofs.Source.Listing

/-!
# Every source is accounted for

Loading takes the sources one by one, and each of them becomes a unit or is one of the failed with
a warning of its own. Which of the two it is follows from the file alone, so the paths of the units
and the failed paths divide the listing between them. Scanning takes the units one by one, and each
is passed over or scanned. What is counted there adds up to the listing, provided that the scan
ends; and that is so exactly if no unit that is scanned has a search that ends in a fault.
-/

namespace Catalog

open Syntax Resolve

/-! ## Loading -/

namespace SourceSet

variable {tree : FileTree} {repo : Path} {roots : List String}

/-- The file is read as a module. -/
def IsModule (tree : FileTree) (repo : Path) (roots : List String) (path : String) : Bool :=
  (reading tree repo roots path).isSome

/-- The warning says that the file at the path is no module. -/
def Complains (path warning : String) : Prop :=
  ∃ cause, warning = path ++ ": could not " ++ cause

theorem complains_of_loadFile {index : Nat} {path warning : String}
    (loaded : loadFile tree repo roots index path = .ok (.failed warning)) :
    Complains path warning := by
  unfold loadFile at loaded
  split at loaded
  · cases loaded
  · cases loaded
    exact ⟨"read source (" ++ Failure.detail ++ ")", by simp only [String.append_assoc]; rfl⟩
  · split at loaded
    · cases loaded
    · cases loaded
    · rename_i e _ _
      cases loaded
      exact ⟨"parse (" ++ (e.name ++ (": " ++ (Failure.detail ++ ")"))),
        by simp only [String.append_assoc]; rfl⟩

/-- The units stand for the files that are modules, in their order. -/
theorem paths_of_loadFiles {start s : SourceSet} {paths warnings : List String}
    (loaded : loadFiles tree repo roots start paths = .ok (s, warnings)) :
    s.units.map SourceUnit.path =
      start.units.map SourceUnit.path ++ paths.filter (IsModule tree repo roots) := by
  have units := congrArg (List.map SourceUnit.path) (units_of_loadFiles loaded)
  rw [List.map_append, List.map_map, List.map_map, List.map_filterMap] at units
  refine units.trans (congrArg _ ?_)
  rw [← List.filterMap_eq_filter]
  refine List.filterMap_congr fun p _ => ?_
  rw [Option.guard, IsModule]
  cases read : reading tree repo roots p with
  | none => rfl
  | some u =>
    rw [Option.map_some, (of_reading read).1]
    rfl

/-- The other files have failed, in their order, and each has left a warning. -/
theorem failed_of_loadFiles {start s : SourceSet} {paths warnings : List String}
    (loaded : loadFiles tree repo roots start paths = .ok (s, warnings)) :
    s.failed = start.failed ++ paths.filter (fun p => !IsModule tree repo roots p) ∧
      List.Forall₂ Complains (paths.filter fun p => !IsModule tree repo roots p) warnings := by
  replace loaded := loadsFiles_of_loadFiles loaded
  induction loaded with
  | nil => exact ⟨(List.append_nil _).symm, .nil⟩
  | @unit _ _ path _ _ _ found _ ih =>
    have isModule : IsModule tree repo roots path = true := by
      rw [IsModule, reading_of_loadFile found]
      rfl
    rw [List.filter_cons_of_neg (by simp [isModule])]
    exact ih
  | @failed _ _ path _ _ _ found _ ih =>
    have isModule : IsModule tree repo roots path = false := by
      rw [IsModule, reading_of_loadFile found]
      rfl
    rw [List.filter_cons_of_pos (by simp [isModule])]
    obtain ⟨failed, complaints⟩ := ih
    refine ⟨?_, .cons (complains_of_loadFile found) complaints⟩
    rw [failed, List.append_assoc, List.singleton_append]

theorem exists_directories_iff {searchPaths : List String} :
    (∃ found, directories tree repo searchPaths = .ok found) ↔
      ∀ path ∈ searchPaths, ∃ isDir, tree.isDir (repo / path) = .ok isDir := by
  induction searchPaths with
  | nil => exact iff_of_true ⟨[], rfl⟩ (List.forall_mem_nil _)
  | cons path rest ih =>
    unfold directories
    rw [List.forall_mem_cons, ← ih]
    cases tested : tree.isDir (repo / path) with
    | error e => simp
    | ok isDir => cases directories tree repo rest <;> simp

end SourceSet

namespace FileTree

/-- Only a name of the path itself can be invalid. -/
theorem readText_invalid_iff {tree : FileTree} {path : Path} :
    tree.readText path = .error (.system .invalidName) ↔ isInvalid path = true := by
  have valid {last : Bool} {links : Nat} {here todo : List String} :
      tree.followFrom last links here todo ≠ .error .invalidName := by
    fun_induction followFrom tree last links here todo with grind
  rw [readText, stat, follow]
  by_cases invalid : isInvalid path = true
  · rw [if_pos invalid]
    exact iff_of_true rfl invalid
  · rw [if_neg invalid]
    refine iff_of_false ?_ invalid
    by_cases long : maxPathBytes < path.text.utf8ByteSize
    · rw [if_pos long]
      simp
    rw [if_neg long]
    cases led : tree.followFrom true maxLinks [] path.parts with
    | error e =>
      rintro ⟨⟩
      exact valid led
    | ok found =>
      rcases found with ⟨location, _ | bytes | _ | _ | _⟩
      · simp
      · cases decoded : String.fromUTF8? bytes <;> simp [decoded]
      · simp
      · simp
      · simp

/-- A file does not end the loading if its name is valid and the parser has room for its text. -/
theorem proceeds_iff {tree : FileTree} {path : Path} :
    (∀ cause, ¬SourceSet.EndsLoading tree path cause) ↔
      isInvalid path = false ∧ ¬tree.Exhausts path := by
  constructor
  · intro proceeds
    refine ⟨?_, fun exhausts => proceeds _ (.text exhausts)⟩
    by_contra invalid
    exact proceeds _ (.name (readText_invalid_iff.mpr (by simpa using invalid)))
  · rintro ⟨valid, room⟩ cause (invalid | exhausts)
    · rw [readText_invalid_iff.mp invalid] at valid
      cases valid
    · exact room exhausts

end FileTree

/-! ## Scanning -/

namespace Scan

variable {tree : FileTree} {o : ScanOptions} {sources : SourceSet} {u : SourceUnit}

/-- A unit that does not end the scan is counted once. -/
theorem scanUnit_counts {s after : Scan} (ended : scanUnit tree o s u = (.ok (), after)) :
    (o.isIrrelevant u = true ∧ after.result.unitsScanned = s.result.unitsScanned ∧
        after.result.unitsSkipped = s.result.unitsSkipped + 1) ∨
      (o.isIrrelevant u = false ∧ after.result.unitsScanned = s.result.unitsScanned + 1 ∧
        after.result.unitsSkipped = s.result.unitsSkipped) := by
  by_cases irrelevant : o.isIrrelevant u = true
  · rw [scanUnit_of_irrelevant irrelevant] at ended
    cases ended
    exact .inl ⟨irrelevant, rfl, rfl⟩
  · have relevant : o.isIrrelevant u = false := by simpa using irrelevant
    cases gives : own tree o s.sources u with
    | error cause =>
      have failed := scanUnit_of_fault relevant gives
      rw [ended] at failed
      cases failed
    | ok given =>
      obtain ⟨left, scanned, -⟩ := scanUnit_of_own relevant gives
      rw [scanned] at ended
      cases ended
      exact .inr ⟨relevant, rfl, rfl⟩

theorem scanUnits_counts {units : List SourceUnit} {s after : Scan}
    (ended : scanUnits tree o s units = (.ok (), after)) :
    after.result.unitsScanned = s.result.unitsScanned + (selected o units).length ∧
      after.result.unitsScanned + after.result.unitsSkipped =
        s.result.unitsScanned + s.result.unitsSkipped + units.length := by
  induction units generalizing s with
  | nil =>
    cases ended
    exact ⟨rfl, rfl⟩
  | cons u rest ih =>
    rw [scanUnits] at ended
    rcases scanned : scanUnit tree o s u with ⟨cause | ⟨⟩, next⟩
    · rw [scanned] at ended
      cases ended
    · rw [scanned] at ended
      obtain ⟨scans, total⟩ := ih ended
      rw [List.length_cons]
      rcases scanUnit_counts scanned with ⟨irrelevant, kept, more⟩ | ⟨relevant, more, kept⟩
      · rw [selected_cons_of_irrelevant rest irrelevant]
        omega
      · rw [selected_cons_of_relevant rest relevant, List.length_cons]
        omega

theorem ofSources_counts {s : Scan} (ended : ofSources tree o sources = (.ok (), s)) :
    s.result.unitsScanned = (selected o sources.units).length ∧
      s.result.unitsScanned + s.result.unitsSkipped =
        sources.units.length + sources.failed.length := by
  rw [ofSources] at ended
  split at ended
  · rename_i after scanned
    cases ended
    obtain ⟨scans, total⟩ := scanUnits_counts scanned
    change after.result.unitsScanned = _ ∧
      after.result.unitsScanned + after.result.unitsSkipped = _
    simp only [Nat.zero_add] at scans total
    omega
  · rename_i other
    exact absurd ended (other _)

/-- The scan ends exactly if the search of each unit that is scanned ends without a fault. -/
theorem ofSources_ends_iff :
    (ofSources tree o sources).1 = .ok () ↔
      ∀ u ∈ selected o sources.units, ∃ found, own tree o sources u = .ok found := by
  have ends : (ofSources tree o sources).1 = .ok () ↔
      ∃ given, ownAll tree o sources sources.units = .ok given := by
    rw [ofSources_own]
    cases ownAll tree o sources sources.units with
    | error cause => exact iff_of_false nofun nofun
    | ok given => exact iff_of_true rfl ⟨given, rfl⟩
  rw [ends]
  simp only [ownAll, mapM_eq_ok_iff]
  induction selected o sources.units with
  | nil => exact iff_of_true ⟨[], .nil⟩ (List.forall_mem_nil _)
  | cons u rest ih =>
    refine Iff.trans ?_ ((and_congr_right fun _ => ih).trans List.forall_mem_cons.symm)
    constructor
    · rintro ⟨_, _ | ⟨first, more⟩⟩
      exact ⟨⟨_, first⟩, _, more⟩
    · rintro ⟨⟨_, first⟩, _, more⟩
      exact ⟨_, .cons first more⟩

/-- What a scan that has ended counted and found. -/
structure Tallied (tree : FileTree) (o : ScanOptions) (sources : SourceSet) (s : Scan) : Prop where
  scanned : s.result.unitsScanned = (selected o sources.units).length
  total : s.result.unitsScanned + s.result.unitsSkipped =
    sources.units.length + sources.failed.length
  /-- Each unit that is scanned gives at most one record, and warnings of its own. -/
  given : ∃ given : List (Option Record × List String),
    List.Forall₂ (fun u found => own tree o sources u = .ok found) (selected o sources.units)
        given ∧
      s.result.records = given.filterMap Prod.fst ∧
      s.result.warnings = given.flatMap Prod.snd ++ s.sources.outsideFailures
  /-- A unit in which references are nested too deep is one of these. -/
  deep : ∀ u ∈ selected o sources.units, ∀ warnings,
    (SourceSet.run tree (unitRecord sources.units o u).collect sources).1 =
        .ok (.error .tooDeep, warnings) →
      own tree o sources u = .ok (none, warnings ++ [nestingWarning u])

theorem tallied_of_ofSources {s : Scan} (ended : ofSources tree o sources = (.ok (), s)) :
    Tallied tree o sources s := by
  obtain ⟨scanned, total⟩ := ofSources_counts ended
  refine ⟨scanned, total, ?_, ?_⟩
  · have own := ofSources_own tree o sources
    rw [ended] at own
    cases gives : ownAll tree o sources sources.units with
    | error cause =>
      rw [gives] at own
      cases own
    | ok given =>
      have result := result_of_own gives
      rw [ended] at result
      exact ⟨given, mapM_eq_ok_iff.mp gives, result⟩
  · intro u _ warnings deep
    rw [own, deep]
    rfl

end Scan

/-! ## A run -/

namespace Run

variable {context : Context} {w : World} {repo : Path} {roots : List String}
  {files : Option (List String)} {searchPaths : List String}

/-- The files that loading is offered, those of a listing if none are given, and the warnings of the
listing. -/
def offered (context : Context) (tree : FileTree) (repo : Path) :
    Option (List String) → Except Fault (List String) × List String
  | some files => (.ok files, [])
  | none =>
    let listing := Listing.list context.lister tree repo {}
    (listing.1, listing.2.1.warnings)

/-- The sources that are to be loaded, if there is a listing. -/
def Sources (context : Context) (tree : FileTree) (repo : Path) (files : Option (List String))
    (paths : List String) : Prop :=
  ∃ listed, (offered context tree repo files).1 = .ok listed ∧ Listing.pythonFiles listed = paths

theorem gives_loadSources_offered_iff {sources : SourceSet} {warnings : List String}
    {after : FileTree} :
    Gives context (loadSources repo roots files searchPaths) w (sources, warnings) after ↔
      after = w.tree ∧ ∃ paths directories loaded, Sources context w.tree repo files paths ∧
        SourceSet.directories w.tree repo searchPaths = .ok directories ∧
        SourceSet.loadFiles w.tree repo roots { searchPaths := directories } paths =
          .ok (sources, loaded) ∧
        warnings = (offered context w.tree repo files).2 ++ loaded := by
  cases files with
  | none =>
    simp only [Gives, loadSources, listSources, exec_bind_eq_ok, exec_read, exec_tree,
      exec_reportAll, exec_pure, exec_ofSystem_eq_ok, exec_report, exec_ofFault_eq_ok,
      Prod.mk.injEq, Except.ok.injEq, ↓existsAndEq, true_and, and_true, World.mk.injEq,
      exists_const, Sources, offered]
    constructor
    · rintro ⟨listing, directories, ⟨sources, loaded⟩, listed, found, loads, ⟨rfl, rfl⟩, rfl⟩
      exact ⟨rfl, directories, loaded, listing, listed, found, loads, rfl⟩
    · rintro ⟨rfl, directories, loaded, listing, listed, found, loads, rfl⟩
      exact ⟨listing, directories, (sources, _), listed, found, loads, ⟨rfl, rfl⟩, rfl⟩
  | some files =>
    simp only [Gives, loadSources, exec_bind_eq_ok, exec_tree, exec_pure, exec_ofSystem_eq_ok,
      exec_report, exec_ofFault_eq_ok, Prod.mk.injEq, Except.ok.injEq, ↓existsAndEq, true_and,
      and_true, World.mk.injEq, exists_const, Sources, offered]
    constructor
    · rintro ⟨directories, ⟨sources, loaded⟩, found, loads, ⟨rfl, rfl⟩, rfl⟩
      exact ⟨rfl, directories, loaded, found, loads, rfl⟩
    · rintro ⟨rfl, directories, loaded, found, loads, rfl⟩
      exact ⟨directories, (sources, _), found, loads, ⟨rfl, rfl⟩, rfl⟩

theorem exists_loadSources_iff :
    (∃ loaded after, Gives context (loadSources repo roots files searchPaths) w loaded after) ↔
      (∀ path ∈ searchPaths, ∃ isDir, w.tree.isDir (repo / path) = .ok isDir) ∧
        ∃ paths, Sources context w.tree repo files paths ∧ ∀ path ∈ paths,
          FileTree.isInvalid (repo / path) = false ∧ ¬w.tree.Exhausts (repo / path) := by
  simp only [← FileTree.proceeds_iff, ← SourceSet.exists_directories_iff]
  constructor
  · rintro ⟨⟨sources, warnings⟩, after, gives⟩
    obtain ⟨-, paths, directories, loaded, listed, found, loads, -⟩ :=
      gives_loadSources_offered_iff.mp gives
    exact ⟨⟨directories, found⟩, paths, listed, SourceSet.exists_loadFiles_iff.mp ⟨_, _, loads⟩⟩
  · rintro ⟨⟨directories, found⟩, paths, listed, proceeds⟩
    have loads : ∃ sources loaded, SourceSet.loadFiles w.tree repo roots
        { searchPaths := directories } paths = .ok (sources, loaded) :=
      SourceSet.exists_loadFiles_iff.mpr proceeds
    obtain ⟨sources, loaded, loads⟩ := loads
    exact ⟨(sources, _), _, gives_loadSources_offered_iff.mpr
      ⟨rfl, paths, directories, loaded, listed, found, loads, rfl⟩⟩

/-- What loading leaves of the sources at the given paths. -/
structure Accounted (tree : FileTree) (repo : Path) (roots paths discovered : List String)
    (sources : SourceSet) (warnings : List String) : Prop where
  ordered : paths.Pairwise (· < ·)
  units : sources.units.map SourceUnit.path = paths.filter (SourceSet.IsModule tree repo roots)
  failed : sources.failed = paths.filter fun p => !SourceSet.IsModule tree repo roots p
  warned : ∃ complaints, warnings = discovered ++ complaints ∧
    List.Forall₂ SourceSet.Complains sources.failed complaints
  index : ∀ m u, indexed? sources.units m = some u ↔
    m ≠ "" ∧ u.moduleName = m ∧
      ∃ before after, sources.units = before ++ u :: after ∧ ∀ v ∈ before, v.moduleName ≠ m

theorem accounted_of_loadFiles {tree : FileTree} {directories : List Path} {sources : SourceSet}
    {paths loaded : List String} (discovered : List String) (ordered : paths.Pairwise (· < ·))
    (files : SourceSet.loadFiles tree repo roots { searchPaths := directories } paths =
      .ok (sources, loaded)) :
    Accounted tree repo roots paths discovered sources (discovered ++ loaded) := by
  obtain ⟨failed, complaints⟩ := SourceSet.failed_of_loadFiles files
  exact {
    ordered
    units := SourceSet.paths_of_loadFiles files
    failed
    warned := ⟨loaded, rfl, by rw [failed]; exact complaints⟩
    index := fun _ _ => indexed?_eq_some_iff }

theorem Accounted.length {tree : FileTree} {paths discovered warnings : List String}
    {sources : SourceSet}
    (accounted : Accounted tree repo roots paths discovered sources warnings) :
    sources.units.length + sources.failed.length = paths.length := by
  rw [← List.length_map SourceUnit.path, accounted.units, accounted.failed,
    ← List.length_eq_length_filter_add]

/-- Every source is accounted for. Loading ends exactly if the search paths can be looked at, there
is a listing, its paths are names that a file can have, and the parser has room for the texts. Then
each source is one unit or has failed with one warning. A scan of the units ends exactly if none of
those that are scanned has a search that ends in a fault, and then the units that are scanned and
those that are passed over, with the files that failed, are as many as the sources; the records and
the warnings are what the scanned units give, in their order. -/
theorem sources_accounted (context : Context) (w : World) (repo : Path) (roots : List String)
    (files : Option (List String)) (searchPaths : List String) :
    ((∃ loaded after, Gives context (loadSources repo roots files searchPaths) w loaded after) ↔
      (∀ path ∈ searchPaths, ∃ isDir, w.tree.isDir (repo / path) = .ok isDir) ∧
        ∃ paths, Sources context w.tree repo files paths ∧ ∀ path ∈ paths,
          FileTree.isInvalid (repo / path) = false ∧ ¬w.tree.Exhausts (repo / path)) ∧
    ∀ sources warnings after,
      Gives context (loadSources repo roots files searchPaths) w (sources, warnings) after →
      ∃ paths, Sources context w.tree repo files paths ∧
        Accounted w.tree repo roots paths (offered context w.tree repo files).2 sources warnings ∧
        ∀ o,
          ((Scan.ofSources w.tree o sources).1 = .ok () ↔
            ∀ u ∈ Scan.selected o sources.units,
              ∃ found, Scan.own w.tree o sources u = .ok found) ∧
          ∀ s, Scan.ofSources w.tree o sources = (.ok (), s) →
            Scan.Tallied w.tree o sources s ∧
            s.result.unitsScanned + s.result.unitsSkipped = paths.length := by
  refine ⟨exists_loadSources_iff, ?_⟩
  intro sources warnings after gives
  obtain ⟨-, paths, directories, loaded, listed, -, loads, rfl⟩ :=
    gives_loadSources_offered_iff.mp gives
  obtain ⟨_, -, rfl⟩ := id listed
  have accounted := accounted_of_loadFiles (offered context w.tree repo files).2
    (Listing.pairwise_pythonFiles _) loads
  refine ⟨_, listed, accounted, fun o => ⟨Scan.ofSources_ends_iff, fun s ended => ?_⟩⟩
  have tallied := Scan.tallied_of_ofSources ended
  exact ⟨tallied, tallied.total.trans accounted.length⟩

end Run

end Catalog
