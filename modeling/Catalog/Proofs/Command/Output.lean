import Catalog.Proofs.Command.Contract
import Catalog.Proofs.FileTree.Write

/-!
# Output is written whole or not at all

Both runs read the tree until they know what to write, and write once. So every failure before the
write leaves the tree as it is, and a failure of the write itself leaves no file behind. The main
statement, `output_all_or_nothing`, covers every way in which a scan or a comparison can end.
-/

namespace Catalog.Run

open FileTree

variable {context : Context} {t : FileTree}

theorem reads_listSources (repo : Path) :
    Reads context t (listSources repo) fun _ => True :=
  .bind .read fun _ _ => .bind .tree fun _ _ => .bind .reportAll fun _ _ =>
    .bind .ofFault fun _ _ => .pure trivial

theorem reads_loadSources (repo : Path) (roots : List String) (files : Option (List String))
    (searchPaths : List String) :
    Reads context t (loadSources repo roots files searchPaths) fun _ => True := by
  unfold loadSources
  extract_lets withFiles
  have read (found : List String × List String) :
      Reads context t (withFiles found) fun _ => True := by
    refine .bind .tree fun _ _ => .bind .ofSystem fun _ _ => .bind .report fun _ _ => ?_
    refine .bind .tree fun _ _ => .bind .ofFault fun _ _ => ?_
    exact .bind .report fun _ _ => .pure trivial
  cases files with
  | some files => exact .bind (R := fun _ => True) (.pure trivial) fun found _ => read found
  | none => exact .bind (reads_listSources repo) fun found _ => read found

theorem reads_scanSources (o : ScanOptions) (sources : SourceSet) :
    Reads context t (scanSources o sources) fun result =>
      ∃ s, Scan.ofSources t o sources = (.ok (), s) ∧ result = s.result := by
  refine .bind .tree ?_
  rintro _ rfl
  rcases scanned : Scan.ofSources _ o sources with ⟨outcome, s⟩
  refine .bind .reportAll fun _ _ => .bind .ofFault ?_
  rintro ⟨⟩ rfl
  exact .pure ⟨s, rfl, rfl⟩

theorem reads_loadOld (path : Path) :
    Reads context t (loadOld path) fun records =>
      ∃ loaded, Snapshot.load t path = .ok loaded ∧ records = loaded.getD [] := by
  refine .bind .tree ?_
  rintro _ rfl
  refine .bind .ofExcept fun loaded done => ?_
  cases loaded with
  | some records => exact .pure ⟨_, done, rfl⟩
  | none => exact .bind .report fun _ _ => .pure ⟨_, done, rfl⟩

theorem reads_loadNew (path : Path) :
    Reads context t (loadNew path) fun records => Snapshot.load t path = .ok (some records) := by
  refine .bind .tree ?_
  rintro _ rfl
  refine .bind .ofExcept fun loaded done => ?_
  cases loaded with
  | some records => exact .pure done
  | none => exact .throw

/-! ## Writing the result -/

/-- An operation that writes a text and only names its failures differently publishes the text, or
fails and changes no file. -/
theorem contract_write {step : FileTree → FileTree × Except Failure Unit} {output : Path}
    {text : String}
    (done : ∀ after, t.writeText output text = (after, .ok ()) → step t = (after, .ok ()))
    (fails : ∀ after e, t.writeText output text = (after, .error e) →
      ∃ failure, step t = (after, .error failure)) :
    Contract context (fun w => w.tree = t) (change step)
      (fun _ w => ∃ location replaced, t.Published w.tree output text location replaced)
      (fun _ w => t.SameFiles w.tree) := by
  rcases writeText_cases t output text with
    ⟨after, e, failed, same⟩ | ⟨after, location, replaced, wrote, published⟩
  · obtain ⟨failure, failed⟩ := fails after e failed
    refine .change ?_ ?_
    · rintro w after' outcome rfl
      rw [failed] at outcome
      cases outcome
    · rintro e' w after' outcome rfl
      rw [failed] at outcome
      cases outcome
      exact same
  · have wrote := done after wrote
    refine .change ?_ ?_
    · rintro w after' outcome rfl
      rw [wrote] at outcome
      cases outcome
      exact ⟨location, replaced, published⟩
    · rintro e' w after' outcome rfl
      rw [wrote] at outcome
      cases outcome

theorem contract_save (output : Path) (records : List Record) :
    Contract context (fun w => w.tree = t) (change fun tree => Snapshot.save tree output records)
      (fun _ w => ∃ location replaced,
        t.Published w.tree output (Snapshot.render records) location replaced)
      (fun _ w => t.SameFiles w.tree) := by
  refine contract_write (fun after wrote => ?_) (fun after e failed => ?_)
  · rw [Snapshot.save, wrote]
  · rw [Snapshot.save, failed]
    cases e <;> exact ⟨_, rfl⟩

theorem contract_saveReport (output : Path) (r : ChangeReport) :
    Contract context (fun w => w.tree = t) (change (saveReport r output))
      (fun _ w => ∃ location replaced, t.Published w.tree output r.render location replaced)
      (fun _ w => t.SameFiles w.tree) := by
  refine contract_write (fun after wrote => ?_) (fun after e failed => ?_)
  · rw [saveReport, wrote]
  · rw [saveReport, failed]
    cases e <;> exact ⟨_, rfl⟩

/-! ## Whole runs -/

/-- The records are those that a scan of the repository finds in the tree `t`, sorted by id. -/
def ScannedIn (context : Context) (t : FileTree) (repo : Path) (o : ScanOptions)
    (records : List Record) : Prop :=
  ∃ w sources warnings s, w.tree = t ∧
    ((loadSources repo o.sourceRoots none (o.searchPaths.getD context.installed)).exec context
      w).1 = .ok (sources, warnings) ∧
    Scan.ofSources t o sources = (.ok (), s) ∧ records = Record.sortById s.result.records

theorem contract_scan (context : Context) (t : FileTree) (repo : Path) (o : ScanOptions)
    (output : Path) :
    Contract context (fun w => w.tree = t) (scan repo o output)
      (fun result w => ScannedIn context t repo o result.records ∧ ∃ location replaced,
        t.Published w.tree output (Snapshot.render result.records) location replaced)
      (fun _ w => t.SameFiles w.tree) := by
  have unchanged (e : Failure) (w : World) (same : w.tree = t) : t.SameFiles w.tree :=
    same ▸ (AddsDirs.refl t).sameFiles
  refine Reads.report.andThen (fun _ _ => ?_) unchanged
  refine Reads.read.andThen ?_ unchanged
  rintro _ rfl
  refine (reads_loadSources _ _ _ _).outcome.andThen ?_ unchanged
  rintro ⟨sources, warnings⟩ ⟨-, w, loaded⟩
  refine (reads_scanSources o sources).andThen ?_ unchanged
  rintro result ⟨s, scanned, rfl⟩
  refine Reads.tree.andThen (fun _ _ => ?_) unchanged
  refine Reads.ofExcept.andThen (fun _ _ => ?_) unchanged
  refine Reads.reportAll.andThen (fun _ _ => ?_) unchanged
  refine Reads.report.andThen (fun _ _ => ?_) unchanged
  refine (contract_save output _).bind fun _ => .bind (.report (Q := fun _ w =>
    ∃ location replaced, t.Published w.tree output _ location replaced) fun _ _ => id) fun _ => ?_
  exact .pure fun _ published =>
    ⟨⟨w, sources, warnings, s, loaded.1, loaded.2, scanned, rfl⟩, published⟩

theorem contract_diff (context : Context) (t : FileTree) (old new output : Path) :
    Contract context (fun w => w.tree = t) (diff old new output)
      (fun r w => (∃ loaded records, Snapshot.load t old = .ok loaded ∧
          Snapshot.load t new = .ok (some records) ∧
          r = ChangeReport.compare (loaded.getD []) records) ∧
        ∃ location replaced, t.Published w.tree output r.render location replaced)
      (fun _ w => t.SameFiles w.tree) := by
  have unchanged (e : Failure) (w : World) (same : w.tree = t) : t.SameFiles w.tree :=
    same ▸ (AddsDirs.refl t).sameFiles
  refine (reads_loadOld old).andThen ?_ unchanged
  rintro _ ⟨loaded, before, rfl⟩
  refine (reads_loadNew new).andThen (fun records after => ?_) unchanged
  refine (contract_saveReport output _).bind fun _ => .bind (.report (Q := fun _ w =>
    ∃ location replaced, t.Published w.tree output _ location replaced) fun _ _ => id) fun _ => ?_
  exact .pure fun _ published => ⟨⟨loaded, records, before, after, rfl⟩, published⟩

/-- A run that fails leaves every file as it was, and no file that was not there. A run that
succeeds creates or changes one file, the one that its output path names, and that file holds the
whole new text. -/
theorem output_all_or_nothing (context : Context) (tree : FileTree) (repo old new output : Path)
    (o : ScanOptions) :
    (match (scan repo o output).start context tree with
      | (.ok result, after) => ScannedIn context tree repo o result.records ∧
          ∃ location replaced, tree.Published after.tree output
            (Snapshot.render result.records) location replaced
      | (.error _, after) => tree.SameFiles after.tree) ∧
    (match (diff old new output).start context tree with
      | (.ok report, after) => (∃ loaded records, Snapshot.load tree old = .ok loaded ∧
            Snapshot.load tree new = .ok (some records) ∧
            report = ChangeReport.compare (loaded.getD []) records) ∧
          ∃ location replaced, tree.Published after.tree output report.render location replaced
      | (.error _, after) => tree.SameFiles after.tree) := by
  constructor
  · have ends := contract_scan context tree repo o output { tree } rfl
    rw [start_eq_exec]
    revert ends
    rcases (scan repo o output).exec context { tree } with ⟨_ | _, _⟩ <;> exact id
  · have ends := contract_diff context tree old new output { tree } rfl
    rw [start_eq_exec]
    revert ends
    rcases (diff old new output).exec context { tree } with ⟨_ | _, _⟩ <;> exact id

end Catalog.Run
