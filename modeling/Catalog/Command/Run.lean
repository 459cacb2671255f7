import Catalog.Record.Changes
import Catalog.Scan.Basic
import Catalog.Scan.Conflicts

/-!
# Runs

A run works on a file tree, reports its progress, and may fail. What it did to the tree and what it
reported before a failure stays.

The two runs are a scan of a repository, which ends with a new snapshot, and a comparison of two
snapshots, which ends with a report.
-/

namespace Catalog

/-- What a run depends on besides the file tree. -/
structure Context where
  workingDir : Path
  /-- Where packages are installed. -/
  installed : List String
  /-- What comes of running an external lister. Writing a snapshot makes no difference to it. -/
  lister : Listing.Lister → Listing.Attempt := fun _ => .notInstalled

/-- What a run changes. -/
structure World where
  tree : FileTree
  log : List Progress := []

/-- A run that gives a value or fails. -/
abbrev Run := ReaderT Context (ExceptT Failure (StateM World))

namespace Run

/-- Reports progress. -/
def report (message : String) (done : Bool) : Run Unit :=
  modify fun w => { w with log := w.log ++ [{ message, done }] }

/-- Progress that was made elsewhere. -/
def reportAll (log : List Progress) : Run Unit :=
  modify fun w => { w with log := w.log ++ log }

/-- The file tree as it is now. -/
def tree : Run FileTree := return (← get).tree

def ofExcept {α : Type} : Except Failure α → Run α
  | .ok a => return a
  | .error e => throw e

def ofFault {α : Type} : Except Fault α → Run α
  | .ok a => return a
  | .error cause => throw (.fault cause)

def ofSystem {α : Type} : Except SystemError α → Run α
  | .ok a => return a
  | .error cause => throw (.fault (.system cause))

/-- An operation on the file tree. -/
def change (step : FileTree → FileTree × Except Failure Unit) : Run Unit := do
  let (tree, result) := step (← Run.tree)
  modify fun w => { w with tree }
  ofExcept result

/-- The outcome of a run, and the world after it. -/
def start {α : Type} (run : Run α) (context : Context) (tree : FileTree) :
    Except Failure α × World :=
  StateT.run (ExceptT.run (ReaderT.run run context)) { tree }

/-! ## Loading -/

/-- The listing of a repository, with the warnings of making it. -/
def listSources (repo : Path) : Run (List String × List String) := do
  let context ← read
  let (files, state, log) := Listing.list context.lister (← tree) repo {}
  reportAll log
  return (← ofFault files, state.warnings)

/-- The source set of a repository, with the warnings of loading it. The files are those of the
listing if none are given. -/
def loadSources (repo : Path) (roots : List String) (files : Option (List String))
    (searchPaths : List String) : Run (SourceSet × List String) := do
  let (files, listWarnings) ← match files with
    | some files => pure (files, [])
    | none => listSources repo
  let directories ← ofSystem (SourceSet.directories (← tree) repo searchPaths)
  let paths := Listing.pythonFiles files
  report ("Parsing " ++ toString paths.length ++ " Python files...") false
  let start : SourceSet := { searchPaths := directories }
  let (sources, warnings) ← ofFault (SourceSet.loadFiles (← tree) repo roots start paths)
  report ("Parsed " ++ toString sources.units.length ++ " modules") true
  return (sources, listWarnings ++ warnings)

/-! ## Scanning -/

/-- Scans a source set. -/
def scanSources (o : ScanOptions) (sources : SourceSet) : Run ScanResult := do
  let (outcome, scan) := Scan.ofSources (← tree) o sources
  reportAll scan.log
  ofFault outcome
  return scan.result

/-- Scans a repository and writes the records, sorted by id, to the snapshot `output`. -/
def scan (repo : Path) (o : ScanOptions) (output : Path) : Run ScanResult := do
  report ("Starting metadata scan in: " ++ repo.text) false
  let searchPaths := o.searchPaths.getD (← read).installed
  let (sources, loadWarnings) ← loadSources repo o.sourceRoots none searchPaths
  let result ← scanSources o sources
  let (conflicts, log) ←
    ofExcept (Conflicts.check (← tree) o.existingIdPolicy result.records output)
  reportAll log
  report "Conflict check passed." true
  let records := Record.sortById result.records
  change fun tree => Snapshot.save tree output records
  report ("Successfully generated metadata for " ++ toString records.length ++
    " adapters into " ++ output.text) true
  return { result with records, warnings := loadWarnings ++ result.warnings ++ conflicts }

/-! ## Comparing -/

/-- The records of the old snapshot, which may be missing. -/
def loadOld (path : Path) : Run (List Record) := do
  match ← ofExcept (Snapshot.load (← tree) path) with
  | some records => return records
  | none =>
    report ("Old metadata file '" ++ path.text ++
      "' not found. Assuming all new adapters are 'Added'.") false
    return []

/-- The records of the new snapshot. -/
def loadNew (path : Path) : Run (List Record) := do
  match ← ofExcept (Snapshot.load (← tree) path) with
  | some records => return records
  | none => throw (.missingSnapshot path.text)

/-- Writes a report. -/
def saveReport (r : ChangeReport) (output : Path) (tree : FileTree) :
    FileTree × Except Failure Unit :=
  match tree.writeText output r.render with
  | (tree, .ok ()) => (tree, .ok ())
  | (tree, .error .invalidName) => (tree, .error (.fault (.system .invalidName)))
  | (tree, .error _) => (tree, .error (.unwritableReport output.text))

/-- Compares two snapshots and writes the report to `output`. -/
def diff (old new output : Path) : Run ChangeReport := do
  let oldRecords ← loadOld old
  let newRecords ← loadNew new
  let r := ChangeReport.compare oldRecords newRecords
  change (saveReport r output)
  report ("Successfully generated change report to " ++ output.text) true
  return r

end Run

end Catalog
