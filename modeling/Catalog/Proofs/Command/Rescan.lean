import Catalog.Proofs.Command.Output
import Catalog.Proofs.Record.RoundTrip
import Catalog.Proofs.Scan.Conflicts
import Catalog.Proofs.Source.Files
import Catalog.Proofs.Source.Reached
import Catalog.Proofs.Text.Sorted
import Mathlib.Data.List.Pairwise

/-!
# Scanning again

A scan changes the tree that the next scan reads: the snapshot is a new file in it, and it is the
published snapshot that the records are compared with. Neither is seen in the result. The snapshot
is no source, so the same units are loaded and the same modules are found; and it holds the records
themselves, so each of them has the author that was published for its id.
-/

namespace Catalog

namespace Run

variable {α β : Type} {context : Context} {w v : World}

/-! ## The steps of a run -/

theorem exec_bind_eq_ok {run : Run α} {next : α → Run β} {b : β} :
    (run >>= next).exec context w = (.ok b, v) ↔
      ∃ a u, run.exec context w = (.ok a, u) ∧ (next a).exec context u = (.ok b, v) := by
  rw [exec_bind]
  rcases run.exec context w with ⟨e | a, u⟩ <;> simp

@[simp] theorem exec_pure (a : α) : (pure a : Run α).exec context w = (.ok a, w) := rfl

@[simp] theorem exec_read : (read : Run Context).exec context w = (.ok context, w) := rfl

@[simp] theorem exec_tree : tree.exec context w = (.ok w.tree, w) := rfl

@[simp] theorem exec_report (message : String) (done : Bool) :
    (report message done).exec context w =
      (.ok (), { w with log := w.log ++ [{ message, done }] }) := rfl

@[simp] theorem exec_reportAll (log : List Progress) :
    (reportAll log).exec context w = (.ok (), { w with log := w.log ++ log }) := rfl

@[simp] theorem exec_ofExcept (result : Except Failure α) :
    (ofExcept result).exec context w = (result, w) := by
  cases result <;> rfl

theorem exec_ofFault_eq_ok {result : Except Fault α} {a : α} :
    (ofFault result).exec context w = (.ok a, v) ↔ result = .ok a ∧ w = v := by
  cases result with
  | ok b => exact (Prod.mk.injEq ..).to_iff.trans (by simp)
  | error e => exact ⟨nofun, nofun⟩

theorem exec_ofSystem_eq_ok {result : Except SystemError α} {a : α} :
    (ofSystem result).exec context w = (.ok a, v) ↔ result = .ok a ∧ w = v := by
  cases result with
  | ok b => exact (Prod.mk.injEq ..).to_iff.trans (by simp)
  | error e => exact ⟨nofun, nofun⟩

@[simp] theorem exec_change (step : FileTree → FileTree × Except Failure Unit) :
    (change step).exec context w = ((step w.tree).2, { w with tree := (step w.tree).1 }) := by
  rw [change, exec_bind, exec_tree]
  dsimp only
  rcases step w.tree with ⟨after, e | ⟨⟩⟩ <;> rfl

/-- The run gives a value and leaves a tree; what it reports is left open. -/
def Gives (context : Context) (run : Run α) (w : World) (a : α) (after : FileTree) : Prop :=
  ∃ log, run.exec context w = (.ok a, { tree := after, log })

variable {repo output : Path} {o : ScanOptions} {sources : SourceSet} {warnings : List String}

/-- The source set of a repository and the warnings of loading it, as a property of the tree. -/
def Loads (context : Context) (tree : FileTree) (repo : Path) (o : ScanOptions)
    (sources : SourceSet) (warnings : List String) : Prop :=
  ∃ files directories loaded,
    (Listing.list context.lister tree repo {}).1 = .ok files ∧
    SourceSet.directories tree repo (o.searchPaths.getD context.installed) = .ok directories ∧
    SourceSet.loadFiles tree repo o.sourceRoots { searchPaths := directories }
      (Listing.pythonFiles files) = .ok (sources, loaded) ∧
    warnings = (Listing.list context.lister tree repo {}).2.1.warnings ++ loaded

theorem gives_loadSources_iff {after : FileTree} :
    Gives context (loadSources repo o.sourceRoots none (o.searchPaths.getD context.installed)) w
      (sources, warnings) after ↔
      after = w.tree ∧ Loads context w.tree repo o sources warnings := by
  simp only [Gives, loadSources, listSources, exec_bind_eq_ok, exec_read, exec_tree,
    exec_reportAll, exec_pure, exec_ofSystem_eq_ok, exec_report, exec_ofFault_eq_ok,
    Prod.mk.injEq, Except.ok.injEq, ↓existsAndEq, true_and, and_true, World.mk.injEq,
    exists_const]
  constructor
  · rintro ⟨files, directories, ⟨sources, loaded⟩, listed, found, loads, ⟨rfl, rfl⟩, rfl⟩
    exact ⟨rfl, files, directories, loaded, listed, found, loads, rfl⟩
  · rintro ⟨rfl, files, directories, loaded, listed, found, loads, rfl⟩
    exact ⟨files, directories, (sources, loaded), listed, found, loads, ⟨rfl, rfl⟩, rfl⟩

/-- What a scan gives, as a property of the tree: the sources are loaded and scanned, the records
are compared with the published ones, and the new snapshot is written. -/
theorem gives_scan_iff {result : ScanResult} {after : FileTree} :
    Gives context (scan repo o output) w result after ↔
      ∃ sources loaded s conflicts log, Loads context w.tree repo o sources loaded ∧
        Scan.ofSources w.tree o sources = (.ok (), s) ∧
        Conflicts.check w.tree o.existingIdPolicy s.result.records output = .ok (conflicts, log) ∧
        Snapshot.save w.tree output (Record.sortById s.result.records) = (after, .ok ()) ∧
        result = { s.result with
          records := Record.sortById s.result.records
          warnings := loaded ++ s.result.warnings ++ conflicts } := by
  simp only [Gives, scan, scanSources, exec_bind_eq_ok, exec_read, exec_tree, exec_reportAll,
    exec_pure, exec_report, exec_ofFault_eq_ok, exec_ofExcept, exec_change, Prod.mk.injEq,
    Except.ok.injEq, ↓existsAndEq, true_and, and_true, World.mk.injEq, exists_const]
  generalize w.log ++ [_] = reported
  constructor
  · rintro ⟨⟨sources, loaded⟩, ⟨tree, log⟩, _, ⟨conflicts, _⟩, _, ran, scanned, checked, saved, rfl,
      rfl⟩
    obtain ⟨rfl, loads⟩ := gives_loadSources_iff.mp ⟨log, ran⟩
    exact ⟨sources, loaded, _, conflicts, _, loads, Prod.ext scanned rfl, checked,
      Prod.ext rfl saved, rfl⟩
  · rintro ⟨sources, loaded, s, conflicts, log, loads, scanned, checked, saved, rfl⟩
    obtain ⟨progress, ran⟩ :=
      (gives_loadSources_iff (w := { tree := w.tree, log := reported })).mpr ⟨rfl, loads⟩
    refine ⟨(sources, loaded), _, (), (conflicts, log), (), ran, ?_⟩
    simp only [scanned]
    exact ⟨trivial, checked, congrArg Prod.snd saved, trivial, congrArg Prod.fst saved⟩

end Run

/-! ## Sorted records -/

namespace Record

theorem sortById_perm (records : List Record) : (sortById records).Perm records :=
  List.mergeSort_perm records _

/-- Records with different ids are sorted strictly. -/
theorem sortById_pairwise {records : List Record} (nodup : (records.map Record.id).Nodup) :
    (sortById records).Pairwise fun a b => a.id < b.id :=
  Text.pairwise_mergeSort_key nodup

end Record

/-! ## The published snapshot -/

namespace Snapshot

open FileTree

/-- A snapshot is written without a carriage return. -/
theorem not_mem_render (records : List Record) : '\r' ∉ (render records).toList := by
  rw [render, Yaml.Printer.sequence]
  split
  · decide
  · rw [String.toList_ofList]
    have written := Yaml.Lexer.all_items (isTable_entries records)
    intro member
    have bad := List.all_eq_true.mp written '\r' member
    exact absurd bad (by decide)

/-- A path at which a snapshot was looked for leads to a file or to nothing. -/
theorem blind_of_load {tree : FileTree} {path : Path} {loaded : Option (List Record)}
    (done : load tree path = .ok loaded) :
    Blind (tree.follow true path) ∧ tree.follow true path ≠ .error .tooManyLinks := by
  rw [load, readText, stat] at done
  cases outcome : tree.follow true path with
  | error e =>
    rw [outcome] at done
    cases e with
    | notFound => exact ⟨.nowhere (.inl rfl), by simp⟩
    | _ => cases done
  | ok place =>
    obtain ⟨location, found⟩ := place
    rw [outcome] at done
    cases found with
    | none => exact ⟨.ends location rfl, by simp⟩
    | some entry =>
      cases entry with
      | file bytes => exact ⟨.ends location rfl, by simp⟩
      | dir | link | special => cases done

end Snapshot

namespace Run

open FileTree

variable {context : Context} {tree after : FileTree} {repo output : Path} {o : ScanOptions}
  {sources : SourceSet} {warnings : List String} {text : String}

/-- A repository is loaded as before when a file that is no source was written. -/
theorem loads_of_overwrites (rewritten : tree.Overwrites after output text)
    (noSource : Path.isSourceName output.name = false) (policy : String)
    (loads : Loads context tree repo o sources warnings) :
    Loads context after repo { o with existingIdPolicy := policy } sources warnings := by
  obtain ⟨dir, replaced, fills, -, rfl⟩ := rewritten.fills
  have list : Listing.list context.lister (tree.insert (dir ++ [output.name]) (.file text.toUTF8))
      repo {} = Listing.list context.lister tree repo {} := by
    rw [Listing.list, Listing.list, Listing.walk_insert fills noSource]
  obtain ⟨files, directories, loaded, listed, found, loads, rfl⟩ := loads
  refine ⟨files, directories, loaded, ?_, ?_, ?_, ?_⟩
  · rw [list, listed]
  · rw [fills.directories, found]
  · rw [fills.loadFiles noSource _ _ _ Listing.isSourceName_of_mem_pythonFiles, loads]
  · rw [list]

/-- The records are compared with the snapshot that holds them, and none of them conflicts. -/
theorem check_again {records : List Record} {source policy : String}
    (rewritten : tree.Overwrites after output (Snapshot.render (Record.sortById records)))
    (nodup : (records.map Record.id).Nodup)
    (kept : Snapshot.parse source (Snapshot.render (Record.sortById records)) =
      .ok (Record.sortById records))
    (known : policy ∈ Failure.policies) :
    Conflicts.check after policy records output = .ok ([], []) := by
  have load : Snapshot.load after output = .ok (some (Record.sortById records)) := by
    rw [Snapshot.load, rewritten.readText (Snapshot.not_mem_render _)]
    rw [Snapshot.parse_render] at kept
    change (Snapshot.parse output.text _).map some = _
    rw [Snapshot.parse_render, kept]
    rfl
  exact Conflicts.check_eq_ok.mpr
    (.agreed known nodup load (Conflicts.changes_nil_of_perm (Record.sortById_perm records) nodup))

/-- A scan that gives its result gives the records of the scanned units, sorted by ids that are
different and not empty. Unless the snapshot is a source or a link leads to it, the same scan can be
run again: under every policy for published ids it gives the same records, reports no changed
author, and leaves the tree as it is. An external lister gives the same listing both times: it is
asked for sources, and the snapshot is none. -/
theorem rescan_stable (context : Context) (tree : FileTree) (repo output : Path) (o : ScanOptions)
    (result : ScanResult) (after : World)
    (first : (scan repo o output).start context tree = (.ok result, after)) :
    ∃ sources loaded s conflicts,
      ((loadSources repo o.sourceRoots none (o.searchPaths.getD context.installed)).start context
        tree).1 = .ok (sources, loaded) ∧
      Scan.ofSources tree o sources = (.ok (), s) ∧
      result.records.Perm s.result.records ∧
      (result.records.Pairwise fun a b => a.id < b.id) ∧
      (∀ r ∈ result.records, r.id ≠ "") ∧
      result.warnings = loaded ++ s.result.warnings ++ conflicts ∧
      (Path.isSourceName output.name = false → tree.isDir output.parent = .ok true →
        ¬tree.IsLinkTarget output →
        ∀ source, Snapshot.parse source (Snapshot.render result.records) = .ok result.records →
        ∀ policy ∈ Failure.policies, ∃ log,
          (scan repo { o with existingIdPolicy := policy } output).start context after.tree =
            (.ok { result with warnings := loaded ++ s.result.warnings },
              { tree := after.tree, log })) := by
  have gives : Gives context (scan repo o output) { tree } result after.tree := ⟨after.log, first⟩
  obtain ⟨sources, loaded, s, conflicts, _, loads, scanned, checked, saved, rfl⟩ :=
    gives_scan_iff.mp gives
  obtain ⟨nodup, published, load⟩ := Conflicts.of_check checked
  obtain ⟨log, ran⟩ := gives_loadSources_iff.mpr ⟨rfl, loads⟩
  refine ⟨sources, loaded, s, conflicts, congrArg Prod.fst ran, scanned, Record.sortById_perm _,
    Record.sortById_pairwise nodup, ?_, rfl, ?_⟩
  · intro r member
    have member := (Record.sortById_perm s.result.records).mem_iff.mp member
    obtain ⟨found, records, -, sound, -⟩ := Scan.result_records_ofSources tree o sources
    rw [scanned] at records
    rw [records] at member
    obtain ⟨p, inside, rfl⟩ := List.mem_map.mp member
    exact (sound p inside).2.id_ne_empty
  · intro noSource parent unlinked source kept policy known
    have wrote : tree.writeText output (Snapshot.render (Record.sortById s.result.records)) =
        (after.tree, .ok ()) := by
      rw [Snapshot.save] at saved
      split at saved
      · rename_i wrote
        cases saved
        exact wrote
      · cases saved
      · cases saved
    obtain ⟨blind, enough⟩ := Snapshot.blind_of_load load
    have rewritten : tree.Overwrites after.tree output
        (Snapshot.render (Record.sortById s.result.records)) :=
      ⟨stat_of_isDir parent, wrote, blind, enough, unlinked⟩
    obtain ⟨dir, replaced, fills, -, -⟩ := rewritten.fills
    refine gives_scan_iff.mpr ⟨sources, loaded, s, [], [],
      loads_of_overwrites rewritten noSource policy loads, ?_,
      check_again rewritten nodup kept known, ?_, ?_⟩
    · rw [fills.ofSources noSource, ← scanned]
      exact Scan.ofSources_of_sameSearch ⟨rfl, rfl, rfl, rfl⟩ fun _ => rfl
    · rw [Snapshot.save, rewritten.again]
    · simp

/-! ## Repositories of a few texts -/

section

variable {texts : List (String × String)}

/-- The snapshot of the repositories that hold a few texts. -/
def snapshot : Path := { parts := ["out.yaml"] }

theorem stat_ofTexts (texts : List (String × String)) :
    (FileTree.ofTexts texts).stat {} = .ok ([], .dir) := by
  have fits : Fits {} := by decide
  rw [stat, fits.follow, followFrom]
  rfl

theorem isDir_ofTexts (texts : List (String × String)) :
    (FileTree.ofTexts texts).isDir {} = .ok true := by
  rw [isDir, test, stat_ofTexts]
  rfl

theorem follow_ofTexts (free : (FileTree.ofTexts texts).find? ["out.yaml"] = none) (last : Bool) :
    (FileTree.ofTexts texts).follow last snapshot = .ok (["out.yaml"], none) := by
  have fits : Fits snapshot := by decide
  rw [fits.follow, snapshot, followFrom_none (by decide) (by decide) free]
  rfl

theorem not_isLinkTarget_ofTexts (texts : List (String × String)) (path : Path) :
    ¬(FileTree.ofTexts texts).IsLinkTarget path := by
  rintro ⟨l, target, _, _, _, link, -, -⟩
  cases l with
  | nil => cases link
  | cons name rest =>
    obtain ⟨before, after, entries, -⟩ := List.lookup_eq_some_iff.mp link
    have member : (name :: rest, Entry.link target) ∈ (FileTree.ofTexts texts).entries := by
      simp [entries]
    simp [FileTree.ofTexts] at member

/-- A scan of texts whose records have different ids succeeds. -/
theorem gives_scan_ofTexts {s : Scan} (distinct : (texts.map Prod.fst).Nodup)
    (simple : ∀ f ∈ texts, isSimple f.1 f.2 = true)
    (parsed : ∀ f ∈ texts.zipIdx, (SourceUnit.parse ["."] f.2 f.1.1 f.1.2).isOk = true)
    {found : List String} (walks : Listing.walk (FileTree.ofTexts texts) {} = .ok found)
    (listed : Listing.pythonFiles found = texts.map Prod.fst)
    (free : (FileTree.ofTexts texts).find? ["out.yaml"] = none)
    (scanned : Scan.ofSources (FileTree.ofTexts texts) { sourceRoots := ["."] }
      (SourceSet.ofTexts texts) = (.ok (), s))
    (nodup : (s.result.records.map Record.id).Nodup)
    (spares : Spares snapshot ((FileTree.ofTexts texts).freshName [] "out.yaml")) :
    ∃ after, Gives { workingDir := {}, installed := [] } (scan {} { sourceRoots := ["."] } snapshot)
      { tree := FileTree.ofTexts texts }
      { s.result with records := Record.sortById s.result.records } after := by
  have loads : Loads { workingDir := {}, installed := [] } (FileTree.ofTexts texts) {}
      { sourceRoots := ["."] } (SourceSet.ofTexts texts) [] := by
    have asked : Listing.firstSuccess (fun _ => .notInstalled) {} [.fd, .rg] =
        (.ok none, { missing := [.fd, .rg] }) := rfl
    refine ⟨found, [], [], ?_, rfl, ?_, ?_⟩ <;>
      simp only [Listing.list, asked, walks, List.append_nil]
    rw [listed]
    exact SourceSet.loadFiles_ofTexts
      (fun f member => readText_ofTexts distinct member (simple f member)) parsed
  have missing : Snapshot.load (FileTree.ofTexts texts) snapshot = .ok none := by
    rw [Snapshot.load, readText, stat, follow_ofTexts free]
  have checked : ∃ log, Conflicts.check (FileTree.ofTexts texts) "warn" s.result.records snapshot =
      .ok ([], log) := by
    exact ⟨_, Conflicts.check_eq_ok.mpr
      (.missing (by decide) nodup (Conflicts.load_eq_none_iff.mp missing))⟩
  obtain ⟨log, checked⟩ := checked
  have wrote (text : String) := (@writeText_iff _ _ snapshot text _ (stat_ofTexts texts)).mpr
    ⟨rfl, spares, _, _, follow_ofTexts free false, by simp, rfl⟩
  refine ⟨_, gives_scan_iff.mpr ⟨SourceSet.ofTexts texts, [], s, [], log, loads, scanned, checked,
    by rw [Snapshot.save, wrote], ?_⟩⟩
  simp

end

/-- A repository with one file, which registers an adapter. -/
def adapter : List (String × String) :=
  [("p.py", "from meloshub import adapter\ndef f(): return adapter.Metadata(id='a')\n" ++
    "adapter.register(f())\n")]

/-- The scan ended well and has these records. -/
def scansTo (records : List Record) : Except Fault Unit × Scan → Bool
  | (.ok (), s) => s.result.records == records
  | _ => false

/-- The adapter is scanned, and scanned again where any changed author would be an error. -/
theorem rescan_stable_adapter :
    ∃ result after, (scan {} { sourceRoots := ["."] } snapshot).start
        { workingDir := {}, installed := [] } (FileTree.ofTexts adapter) = (.ok result, after) ∧
      result.records = [{ id := "a" }] ∧
      ∃ log again, (scan {} { sourceRoots := ["."], existingIdPolicy := "error" } snapshot).start
          { workingDir := {}, installed := [] } after.tree =
        (.ok again, { tree := after.tree, log }) ∧ again.records = [{ id := "a" }] := by
  have facts : scansTo [{ id := "a" }] (Scan.ofSources (FileTree.ofTexts adapter)
      { sourceRoots := ["."] } (SourceSet.ofTexts adapter)) = true := by
    decide +kernel
  obtain ⟨s, scanned, records⟩ : ∃ s, Scan.ofSources (FileTree.ofTexts adapter)
      { sourceRoots := ["."] } (SourceSet.ofTexts adapter) = (.ok (), s) ∧
      s.result.records = [{ id := "a" }] := by
    rw [scansTo.eq_def] at facts
    split at facts
    · rename_i s scanned
      exact ⟨s, scanned, beq_iff_eq.mp facts⟩
    · cases facts
  have walks : Listing.walk (FileTree.ofTexts adapter) {} = .ok ["p.py"] := by
    rw [Listing.walk, stat_ofTexts]
    decide +kernel
  obtain ⟨after, log, first⟩ := gives_scan_ofTexts (by decide) (by decide +kernel)
    (by decide +kernel) walks (by decide +kernel) (by decide) scanned (by rw [records]; decide)
    (by decide +kernel)
  have sorted : Record.sortById [({ id := "a" } : Record)] = [{ id := "a" }] := by
    decide +kernel
  have kept : Snapshot.parse "" (Snapshot.render [{ id := "a" }]) = .ok [{ id := "a" }] :=
    (Snapshot.parse_render_iff "" _).2.mpr (by simp [Record.entries])
  obtain ⟨_, _, _, _, -, -, -, -, -, -, again⟩ := rescan_stable _ (FileTree.ofTexts adapter) {}
    snapshot { sourceRoots := ["."] } _ { tree := after, log } first
  obtain ⟨log', second⟩ := again (by decide) (isDir_ofTexts adapter)
    (not_isLinkTarget_ofTexts adapter snapshot) "" (by rw [records, sorted]; exact kept) "error"
    (by decide)
  exact ⟨_, _, first, by rw [records, sorted], log', _, second, by rw [records, sorted]⟩

end Run

end Catalog
