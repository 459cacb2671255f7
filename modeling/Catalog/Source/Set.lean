import Catalog.Progress
import Catalog.Resolve.Query
import Catalog.Source.Listing

/-!
# Source sets

A source set holds the units of a repository, and what is known of modules outside of it. Those
are looked up in a list of directories when a query asks for them, at most once each; what was
found, or that nothing was found, is kept.
-/

namespace Catalog

open Syntax

/-- The units of a repository, and the modules that were looked up outside of it. -/
structure SourceSet where
  units : List SourceUnit := []
  /-- The files that could not be read as modules. -/
  failed : List String := []
  searchPaths : List Path := []
  /-- The modules outside of the repository that were asked for. -/
  outside : List (String × Option SourceUnit) := []
  /-- Why modules outside of the repository could not be loaded. -/
  outsideFailures : List String := []
  deriving Inhabited

namespace SourceSet

/-- The set with one more unit. -/
def add (s : SourceSet) (u : SourceUnit) : SourceSet :=
  { s with units := s.units ++ [u] }

/-! ## Modules outside of the repository -/

/-- What came of looking a module up. -/
inductive Found where
  | missing
  | unit (u : SourceUnit)
  /-- There is a file, and it is no module; the warning says why. -/
  | broken (warning : String)

/-- The files in which a module may stand below a directory, and whether it is a package there. -/
def candidates (base : Path) (m : String) : List (Path × Bool) :=
  let parts := Dotted.segments m
  let last := parts.getLastD ""
  [((parts ++ ["__init__.py"]).foldl (· / ·) base, true),
   ((parts.dropLast ++ [last ++ ".py"]).foldl (· / ·) base, false)]

/-- Reads the file of a module. A text for which its parser has no room is no failure of the
module; it ends the run. -/
def readModule (tree : FileTree) (m : String) (path : Path) (isPackage : Bool) :
    Except Fault Found :=
  let broken (cause : String) : Found :=
    .broken (path.text ++ ": could not load " ++ m ++ " (" ++ cause ++ ": " ++ Failure.detail ++
      ")")
  match tree.readText path with
  | .error .undecodable => .ok (broken "UnicodeDecodeError")
  | .error (.system _) => .ok (broken "OSError")
  | .ok text =>
    match SourceUnit.ofText (.searchPath m) path.text { name := m, isPackage } text with
    | .ok u => .ok (.unit u)
    | .error .exhausted => .error .outOfMemory
    | .error e => .ok (broken e.name)

/-- Reads the first of the candidates that is a file. -/
def readFirst (tree : FileTree) (m : String) : List (Path × Bool) → Except Fault Found
  | [] => .ok .missing
  | (path, isPackage) :: rest =>
    match tree.isFile path with
    | .error e => .error (.system e)
    | .ok true => readModule tree m path isPackage
    | .ok false => readFirst tree m rest

/-- Looks a module up in directories, the first one first. -/
def find (tree : FileTree) (searchPaths : List Path) (m : String) : Except Fault Found :=
  readFirst tree m (searchPaths.flatMap fun base => candidates base m)

/-- The unit of a module outside of the repository. A module that was asked for before is not
looked up again. -/
def outsideUnit (tree : FileTree) (s : SourceSet) (m : String) :
    Except Fault (Option SourceUnit) × SourceSet :=
  match s.outside.lookup m with
  | some answer => (.ok answer, s)
  | none =>
    let keep (answer : Option SourceUnit) : SourceSet :=
      { s with outside := (m, answer) :: s.outside }
    match find tree s.searchPaths m with
    | .error cause => (.error cause, keep none)
    | .ok .missing => (.ok none, keep none)
    | .ok (.unit u) => (.ok (some u), keep (some u))
    | .ok (.broken warning) =>
      (.ok none, { keep none with outsideFailures := s.outsideFailures ++ [warning] })

/-- Runs a query: its questions are answered from what is known, and from the directories. -/
def run {α : Type} (tree : FileTree) : Query α → SourceSet → Except Fault α × SourceSet
  | .done a, s => (.ok a, s)
  | .fail cause, s => (.error cause, s)
  | .ask m next, s =>
    match outsideUnit tree s m with
    | (.ok answer, s) => run tree (next answer) s
    | (.error cause, s) => (.error cause, s)

/-! ## Loading -/

/-- What reading one file of the repository gave. -/
inductive Loaded where
  | unit (u : SourceUnit)
  /-- There is no module; the warning says why. -/
  | failed (warning : String)

/-- Reads a file of the repository as a unit. A text for which its parser has no room is not among
the failed ones; it ends the run. -/
def loadFile (tree : FileTree) (repo : Path) (roots : List String) (index : Nat) (path : String) :
    Except Fault Loaded :=
  match tree.readText (repo / path) with
  | .error (.system .invalidName) => .error (.system .invalidName)
  | .error _ => .ok (.failed (path ++ ": could not read source (" ++ Failure.detail ++ ")"))
  | .ok text =>
    match SourceUnit.parse roots index path text with
    | .ok u => .ok (.unit u)
    | .error .exhausted => .error .outOfMemory
    | .error e =>
      .ok (.failed (path ++ ": could not parse (" ++ e.name ++ ": " ++ Failure.detail ++ ")"))

/-- Reads files of the repository, one after another. The warnings are those of files that failed,
in the same order. -/
def loadFiles (tree : FileTree) (repo : Path) (roots : List String) :
    SourceSet → List String → Except Fault (SourceSet × List String)
  | s, [] => .ok (s, [])
  | s, path :: rest =>
    match loadFile tree repo roots s.units.length path with
    | .error cause => .error cause
    | .ok (.unit u) => loadFiles tree repo roots (s.add u) rest
    | .ok (.failed warning) =>
      match loadFiles tree repo roots { s with failed := s.failed ++ [path] } rest with
      | .error cause => .error cause
      | .ok (s, warnings) => .ok (s, warning :: warnings)

/-- The directories among the search paths; relative ones are taken from the repository. -/
def directories (tree : FileTree) (repo : Path) : List String → Except SystemError (List Path)
  | [] => .ok []
  | path :: rest =>
    match tree.isDir (repo / path) with
    | .error e => .error e
    | .ok isDir =>
      match directories tree repo rest with
      | .error e => .error e
      | .ok found => .ok (if isDir then (repo / path) :: found else found)

end SourceSet

end Catalog
