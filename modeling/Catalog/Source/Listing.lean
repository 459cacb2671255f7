import Catalog.Failure
import Catalog.Path.Relevance
import Catalog.Progress

/-!
# Listing the sources of a repository

Two external listers are tried in turn; what the first of them that succeeds prints is the
listing. When neither does, the directories are walked. Either way the listing holds the Python
files outside the excluded directories, sorted and without repetition.

A lister that is not installed is remembered and not asked again. One that cannot be run, or that
ends with a status other than zero, leaves a warning. What a lister prints has to be text; if it is
not, there is no listing at all. Nor is there one if a walk meets a path that is too long to be
asked for.
-/

namespace Catalog.Listing

/-- An external lister. -/
inductive Lister where
  | fd
  | rg
  deriving DecidableEq, Repr

/-- The name of the lister's program. -/
def Lister.name : Lister → String
  | fd => "fd"
  | rg => "rg"

/-- The command line of a lister. -/
def Lister.command : Lister → List String
  | fd =>
    ["fd", "--type", "f", "--hidden", "--no-ignore-vcs", "--extension", "py"] ++
      Path.excludedNames.flatMap fun name => ["--exclude", name]
  | rg =>
    ["rg", "--files", "--hidden", "--no-ignore-vcs", "-g", "*.py"] ++
      Path.excludedNames.flatMap fun name => ["-g", "!**/" ++ name ++ "/**"]

/-- What came of running a lister. -/
inductive Attempt where
  | notInstalled
  | cannotRun (reason : String)
  /-- It ran to its end, and printed these bytes. -/
  | ran (output errors : ByteArray) (status : Int)

/-- Sorted by code points, each text once. -/
def sortedUnique (xs : List String) : List String :=
  xs.eraseDups.mergeSort fun a b => decide (a ≤ b)

/-- The form in which a listed path is kept: slashes between the names, and no `./` before
them. -/
def tidy (path : String) : String :=
  let path := Text.replaceChar '\\' '/' path
  if Text.beginsWith path "./" then Text.drop 2 path else path

/-- The Python files among the paths, sorted. -/
def pythonFiles (paths : List String) : List String :=
  sortedUnique ((paths.map tidy).filter fun path => Text.endsWith path ".py")

/-- The lines that a lister printed, without blanks around them and without the empty ones. -/
def outputLines (output : String) : List String :=
  ((Text.lines output).map Text.strip).filter (· != "")

/-- The warning for a lister that ended with a status other than zero. -/
def statusWarning (lister : Lister) (errors : String) (status : Int) : String :=
  let reason := match Text.lines (Text.strip errors) with
    | first :: _ => ": " ++ first
    | [] => ""
  lister.name ++ " exited with status " ++ toString status ++ " while listing sources" ++ reason

/-- What is known after trying listers: the warnings, and the listers that are not installed. -/
structure State where
  warnings : List String := []
  missing : List Lister := []
  deriving DecidableEq, Repr

/-- Tries one lister. -/
def tryLister (run : Lister → Attempt) (state : State) (lister : Lister) :
    Except Fault (Option (List String)) × State :=
  if state.missing.contains lister then (.ok none, state)
  else
    match run lister with
    | .notInstalled => (.ok none, { state with missing := state.missing ++ [lister] })
    | .cannotRun reason =>
      (.ok none, { state with warnings := state.warnings ++
        ["could not run " ++ lister.name ++ " to list sources (" ++ reason ++ ")"] })
    | .ran output errors status =>
      match String.fromUTF8? output, String.fromUTF8? errors with
      | some output, some errors =>
        if status == 0 then (.ok (some (outputLines output)), state)
        else
          (.ok none, { state with warnings := state.warnings ++
            [statusWarning lister errors status] })
      | _, _ => (.error .undecodable, state)

/-- The first lister of the list that succeeds, with the lines it printed. -/
def firstSuccess (run : Lister → Attempt) (state : State) :
    List Lister → Except Fault (Option (Lister × List String)) × State
  | [] => (.ok none, state)
  | lister :: rest =>
    match tryLister run state lister with
    | (.error cause, state) => (.error cause, state)
    | (.ok (some printed), state) => (.ok (some (lister, printed)), state)
    | (.ok none, state) => firstSuccess run state rest

/-- What a walk from `base` meets at a location under the name of a source, with the names that
lead there. A walk does not go into excluded directories, nor into those with too long a path. -/
def met? (repo : Path) (base : List String) (item : List String × Entry) :
    Option (List String × Entry) :=
  let below := item.1.drop base.length
  if base.isPrefixOf item.1 && Text.endsWith (below.getLastD "") ".py" && !item.2.isDir &&
      !below.dropLast.any Path.isExcludedName && FileTree.isShort (repo.extend below.dropLast) then
    some (below, item.2)
  else none

/-- The sources that a walk through the directories finds. Links are not followed. What is met is
asked for with its whole path, to see whether it is a link; the path may be too long for that. -/
def walk (tree : FileTree) (repo : Path) : Except SystemError (List String) :=
  match tree.stat repo with
  | .ok (base, .dir) =>
    let met := tree.entries.filterMap (met? repo base)
    if met.all fun item => FileTree.isShort (repo.extend item.1) then
      let sources := (met.filter fun item => !item.2.isLink).map fun item => Text.join "/" item.1
      .ok (sources.mergeSort fun a b => decide (a ≤ b))
    else .error .nameTooLong
  | _ => .ok []

/-- The listing of a repository, with the progress lines of making it. -/
def list (run : Lister → Attempt) (tree : FileTree) (repo : Path) (state : State) :
    Except Fault (List String) × State × List Progress :=
  let start : Progress := { message := "Discovering Python sources..." }
  match firstSuccess run state [.fd, .rg] with
  | (.error cause, state) => (.error cause, state, [start])
  | (.ok (some (lister, printed)), state) =>
    let files := (pythonFiles printed).filter fun path => !Path.inExcludedDir path
    (.ok files, state, [start,
      { message := "Found " ++ toString files.length ++ " Python sources with " ++ lister.name
        done := true }])
  | (.ok none, state) =>
    match walk tree repo with
    | .error cause => (.error (.system cause), state, [start])
    | .ok files =>
      (.ok files, state, [start,
        { message := "Found " ++ toString files.length ++ " Python sources (directory walk)"
          done := true }])

end Catalog.Listing
