import Catalog.Command.Arguments
import Catalog.Text.Preview

/-!
# Commands

A command prints a summary when it succeeds. A failure of its own is printed as a JSON object and
gives the exit status.
-/

namespace Catalog

/-- The first items of a list; a negative number counts from its end. -/
def sample {α : Type} (n : Int) (xs : List α) : List α :=
  if n < 0 then xs.take (xs.length + n).toNat else xs.take n.toNat

/-- What the summary of a scan says about warnings. -/
def warningLines (maxSample : Int) (warnings : List String) : List String :=
  if warnings.isEmpty then []
  else
    "WARNINGS:" :: (sample maxSample warnings).map (fun w => "  " ++ Text.preview 240 w) ++
      (if maxSample < warnings.length then
        ["  ... " ++ toString (warnings.length - maxSample) ++ " more"]
      else [])

/-- A summary of a scan for the reader of a command. -/
def ScanResult.summary (r : ScanResult) (output : String) (configName : Option String)
    (warnings : List String) (maxSample : Int) : String :=
  Text.join "\n" <|
    ["OUTPUT: " ++ output] ++
    ((ScanFlags.given configName).map fun name => "CONFIG: " ++ name).toList ++
    ["UNITS_SCANNED: " ++ toString r.unitsScanned,
     "UNITS_SKIPPED: " ++ toString r.unitsSkipped,
     "ADAPTERS: " ++ toString r.records.length] ++
    (sample maxSample r.records).map (fun record => "  " ++ record.id ++ ": " ++ record.title) ++
    warningLines maxSample warnings

namespace Command

/-- A failure that a command finds before its run starts. -/
def errorLine (message : String) : String :=
  (Json.obj [("error", .str message)]).compact ++ "\n"

/-- How a command line says what can be asked for. -/
def help : String :=
  "usage: catalog (scan | diff) [options]\n\n" ++
  "  scan  trace registrations and write the snapshot of all records\n" ++
  "  diff  compare two snapshots and write a report of the changes\n"

/-- What a command prints, and its exit status. -/
structure Answer where
  code : Nat
  output : String := ""
  errors : String := ""
  deriving DecidableEq, Repr

/-- How a command line ends. -/
inductive Outcome where
  /-- The command line is not carried out. -/
  | refused (refusal : Refusal)
  | answered (answer : Answer)
  /-- Something happened that the tool does not expect; what was printed before stays. -/
  | aborted (cause : Fault) (errors : String)
  deriving DecidableEq, Repr

/-- The outcome of a run that gives a summary. -/
def finish : Except Failure String × World → Outcome × FileTree
  | (result, world) =>
    let printed := Progress.render world.log
    let outcome := match result with
      | .ok summary => .answered { code := 0, output := summary ++ "\n", errors := printed }
      | .error (.fault cause) => .aborted cause printed
      | .error failure =>
        let code := (failure.kind?.map FailureKind.exitCode).getD 1
        .answered { code, errors := printed ++ errorLine failure.message }
    (outcome, world.tree)

/-- Scans a repository as the flags and its configuration say. -/
def scanRun (repo : Path) (flags : ScanFlags) : Run String := do
  let plan ← Run.ofFault (ScanPlan.make (← Run.tree) (← read).workingDir repo flags)
  let result ← Run.scan repo plan.options plan.output
  return result.summary plan.output.text plan.loaded.name
    (plan.loaded.warnings ++ result.warnings) flags.maxSample

/-- Compares two snapshots as the flags say. -/
def diffRun (flags : DiffFlags) : Run String := do
  let resolve (value : String) : Run Path := do
    Run.ofFault (ScanFlags.resolvePath (← Run.tree) (← read).workingDir value)
  let output ← resolve flags.output
  let old ← resolve flags.old
  let new ← resolve flags.new
  let r ← Run.diff old new output
  return r.summary output.text

/-- A directory as it is named on the command line. -/
def repository (tree : FileTree) (workingDir : Path) (name : String) : Except Fault (Path × Bool) :=
  match tree.resolve (workingDir / name) with
  | .error .tooManyLinks => .error .linkLoop
  | .error cause => .error (.system cause)
  | .ok repo =>
    match tree.isDir repo with
    | .error cause => .error (.system cause)
    | .ok isDir => .ok (repo, isDir)

/-- Carries out a scan. -/
def scan (context : Context) (tree : FileTree) (flags : ScanFlags) : Outcome × FileTree :=
  match repository tree context.workingDir flags.repo with
  | .error cause => (.aborted cause "", tree)
  | .ok (repo, false) =>
    (.answered { code := 2, errors := errorLine ("repo not found: " ++ repo.text) }, tree)
  | .ok (repo, true) => finish ((scanRun repo flags).start context tree)

/-- Carries out a comparison. -/
def diff (context : Context) (tree : FileTree) (flags : DiffFlags) : Outcome × FileTree :=
  if flags.old.isEmpty || flags.new.isEmpty then
    (.answered
      { code := 2, errors := errorLine "Both --old and --new file paths are required." }, tree)
  else finish ((diffRun flags).start context tree)

/-- Carries out a command line on a file tree. -/
def run (context : Context) (tree : FileTree) (words : List String) : Outcome × FileTree :=
  match Arguments.parse words with
  | .error refusal => (.refused refusal, tree)
  | .ok (.scan flags) => scan context tree flags
  | .ok (.diff flags) => diff context tree flags
  | .ok .nothing => (.answered { code := 1, output := help }, tree)

end Command

end Catalog
