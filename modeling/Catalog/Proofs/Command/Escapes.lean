import Catalog.Command.Line
import Catalog.Proofs.Command.Plan
import Catalog.Proofs.Command.Rescan
import Catalog.Proofs.Source.Listing

/-!
# How commands end

A command that is accepted gives the status 0, 1 or 2, or it is aborted by a fault. The files that
it reads may hold anything: a snapshot that is no list of records gives the status 1, and a
configuration that is no object leaves a warning. `Escapes` has every case in which a fault comes
before that.
-/

namespace Catalog

namespace Run

variable {α β : Type} {context : Context} {w v : World} {e : Failure} {repo output : Path}
  {o : ScanOptions}

/-! ## Runs that fail -/

/-- The run fails; what it reports and does before is left open. -/
def Fails (context : Context) (run : Run α) (w : World) (e : Failure) : Prop :=
  ∃ v, run.exec context w = (.error e, v)

/-- Loading the sources of a repository ends in the fault: there is no listing, a search path cannot
be looked at, or one of the files ends the loading. -/
inductive LoadEscapes (context : Context) (tree : FileTree) (repo : Path) (o : ScanOptions) :
    Fault → Prop
  | listing {cause : Fault} (fails : Listing.Fails context.lister tree repo {} cause) :
      LoadEscapes context tree repo o cause
  | searchPaths {cause : SystemError} {files : List String}
      (listed : (Listing.list context.lister tree repo {}).1 = .ok files)
      (fails : SourceSet.directories tree repo (o.searchPaths.getD context.installed) =
        .error cause) : LoadEscapes context tree repo o (.system cause)
  | files {cause : Fault} {files : List String} {directories : List Path}
      {before after : List String} {path : String}
      (listed : (Listing.list context.lister tree repo {}).1 = .ok files)
      (found : SourceSet.directories tree repo (o.searchPaths.getD context.installed) =
        .ok directories)
      (paths : Listing.pythonFiles files = before ++ path :: after)
      (proceeds : ∀ p ∈ before, ∀ other, ¬ SourceSet.EndsLoading tree (repo / p) other)
      (ends : SourceSet.EndsLoading tree (repo / path) cause) :
      LoadEscapes context tree repo o cause

end Run

namespace Command

variable {context : Context} {tree : FileTree} {cause : Fault} {e : Failure}

/-! ## What commands read -/

/-- The paths of a comparison, which are all given. -/
structure DiffPaths (context : Context) (tree : FileTree) (flags : DiffFlags)
    (old new output : Path) : Prop where
  given : (flags.old.isEmpty || flags.new.isEmpty) = false
  output : ScanFlags.resolvePath tree context.workingDir flags.output = .ok output
  old : ScanFlags.resolvePath tree context.workingDir flags.old = .ok old
  new : ScanFlags.resolvePath tree context.workingDir flags.new = .ok new

/-- The plan of a scan for the repository that the flags name. -/
structure Plans (context : Context) (tree : FileTree) (flags : ScanFlags) (repo : Path)
    (plan : ScanPlan) : Prop where
  here : repository tree context.workingDir flags.repo = .ok (repo, true)
  made : ScanPlan.make tree context.workingDir repo flags = .ok plan

/-- The scan that is made as planned. -/
structure Scans (context : Context) (tree : FileTree) (flags : ScanFlags) (repo : Path)
    (plan : ScanPlan) (s : Scan) : Prop extends Plans context tree flags repo plan where
  scanned : ∃ sources loaded, Run.Loads context tree repo plan.options sources loaded ∧
    Scan.ofSources tree plan.options sources = (.ok (), s)

/-- The command reads the snapshot at the path. -/
inductive Consults (context : Context) (tree : FileTree) : Invocation → Path → Prop
  | old {flags : DiffFlags} {old new output : Path}
      (paths : DiffPaths context tree flags old new output) :
      Consults context tree (.diff flags) old
  | new {flags : DiffFlags} {old new output : Path} {found : Option (List Record)}
      (paths : DiffPaths context tree flags old new output)
      (read : Snapshot.load tree old = .ok found) : Consults context tree (.diff flags) new
  /-- The published snapshot, before it is replaced. -/
  | published {flags : ScanFlags} {repo : Path} {plan : ScanPlan} {s : Scan}
      (scans : Scans context tree flags repo plan s)
      (known : Failure.policies.contains plan.options.existingIdPolicy = true)
      (different : Conflicts.duplicate? [] s.result.records = none) :
      Consults context tree (.scan flags) plan.output

theorem Consults.given {flags : DiffFlags} {path : Path}
    (consults : Consults context tree (.diff flags) path) :
    (flags.old.isEmpty || flags.new.isEmpty) = false := by
  cases consults with
  | old paths => exact paths.given
  | new paths _ => exact paths.given

theorem Consults.here {flags : ScanFlags} {path : Path}
    (consults : Consults context tree (.scan flags) path) :
    ∃ repo, repository tree context.workingDir flags.repo = .ok (repo, true) := by
  cases consults with
  | published scans _ _ => exact ⟨_, scans.here⟩

/-- The command is aborted by the fault. -/
inductive Escapes (context : Context) (tree : FileTree) : Invocation → Fault → Prop
  | snapshot {invocation : Invocation} {path : Path} {cause : Fault}
      (consults : Consults context tree invocation path)
      (escapes : Snapshot.Escapes tree path cause) : Escapes context tree invocation cause
  | paths {flags : DiffFlags} {cause : Fault}
      (given : (flags.old.isEmpty || flags.new.isEmpty) = false)
      (fails : FirstError (ScanFlags.resolvePath tree context.workingDir)
        [flags.output, flags.old, flags.new] cause) : Escapes context tree (.diff flags) cause
  | report {flags : DiffFlags} {old new output : Path} {found : Option (List Record)}
      {records : List Record} (paths : DiffPaths context tree flags old new output)
      (read : Snapshot.load tree old = .ok found)
      (read' : Snapshot.load tree new = .ok (some records))
      (invalid : (tree.writeText output
        (ChangeReport.compare (found.getD []) records).render).2 = .error .invalidName) :
      Escapes context tree (.diff flags) (.system .invalidName)
  | repository {flags : ScanFlags} {cause : Fault}
      (fails : repository tree context.workingDir flags.repo = .error cause) :
      Escapes context tree (.scan flags) cause
  | config {flags : ScanFlags} {repo : Path} {cause : Fault}
      (here : Command.repository tree context.workingDir flags.repo = .ok (repo, true))
      (escapes : RepoConfig.Escapes tree repo cause) : Escapes context tree (.scan flags) cause
  | searchPaths {flags : ScanFlags} {repo : Path} {loaded : RepoConfig.Loaded} {cause : Fault}
      (here : Command.repository tree context.workingDir flags.repo = .ok (repo, true))
      (configured : RepoConfig.load tree repo = .ok loaded)
      (fails : ScanFlags.searchPaths tree context.workingDir repo flags loaded.config =
        .error cause) : Escapes context tree (.scan flags) cause
  | output {flags : ScanFlags} {repo : Path} {loaded : RepoConfig.Loaded}
      {searchPaths : Option (List String)} {cause : Fault}
      (here : Command.repository tree context.workingDir flags.repo = .ok (repo, true))
      (configured : RepoConfig.load tree repo = .ok loaded)
      (found : ScanFlags.searchPaths tree context.workingDir repo flags loaded.config =
        .ok searchPaths)
      (fails : ScanFlags.outputPath tree repo flags loaded.config = .error cause) :
      Escapes context tree (.scan flags) cause
  | loading {flags : ScanFlags} {repo : Path} {plan : ScanPlan} {cause : Fault}
      (plans : Plans context tree flags repo plan)
      (fails : Run.LoadEscapes context tree repo plan.options cause) :
      Escapes context tree (.scan flags) cause
  | scanning {flags : ScanFlags} {repo : Path} {plan : ScanPlan} {sources : SourceSet}
      {loaded : List String} {cause : Fault} (plans : Plans context tree flags repo plan)
      (loads : Run.Loads context tree repo plan.options sources loaded)
      (fails : (Scan.ofSources tree plan.options sources).1 = .error cause) :
      Escapes context tree (.scan flags) cause
  | save {flags : ScanFlags} {repo : Path} {plan : ScanPlan} {s : Scan}
      {checked : List String × List Progress} (scans : Scans context tree flags repo plan s)
      (passes : Conflicts.check tree plan.options.existingIdPolicy s.result.records plan.output =
        .ok checked)
      (invalid : (tree.writeText plan.output
        (Snapshot.render (Record.sortById s.result.records))).2 = .error .invalidName) :
      Escapes context tree (.scan flags) (.system .invalidName)

theorem Escapes.given {flags : DiffFlags} (escapes : Escapes context tree (.diff flags) cause) :
    (flags.old.isEmpty || flags.new.isEmpty) = false := by
  cases escapes with
  | snapshot consults _ => exact consults.given
  | paths given _ => exact given
  | report paths _ _ _ => exact paths.given

end Command

/-! ## Texts whose escapes are kept -/

namespace Command

variable {context : Context} {tree : FileTree} {cause : Fault} {e : Failure}

/-! ## Outcomes -/

/-- The root directory. -/
def root : Path := { root := "/" }

end Command

end Catalog
