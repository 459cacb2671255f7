import Catalog.Command.Run
import Catalog.Json.Parser

/-!
# The configuration of a repository

A repository may hold a JSON file with options. An entry of the wrong kind is as good as none, and
a file that is no JSON object only leaves a warning.
-/

namespace Catalog

/-- The entries of a configuration that are well formed. -/
structure RepoConfig where
  registryModule : Option String := none
  registerFunction : Option String := none
  metadataType : Option String := none
  output : Option String := none
  initFunctions : Option (List String) := none
  excludeGlobs : Option (List String) := none
  sourceRoots : Option (List String) := none
  searchPaths : Option (List String) := none
  includeTests : Option Bool := none
  existingIdPolicy : Option String := none
  deriving DecidableEq, Repr

namespace RepoConfig

/-- The names of configuration files, in the order in which they are tried. -/
def fileNames : List String := [".metagen.json", "metagen.json"]

/-- A text without blanks around it, if anything is left. -/
def stripped? (s : String) : Option String :=
  let s := Text.strip s
  if s.isEmpty then none else some s

/-- A text entry. -/
def textEntry? (payload : Json) (key : String) : Option String :=
  match payload.get? key with
  | some (.str s) => stripped? s
  | _ => none

/-- The texts in a value: one text, or those of a list. -/
def texts : Json → List String
  | .str s => (stripped? s).toList
  | .arr items => items.filterMap fun item =>
    match item with
    | .str s => stripped? s
    | _ => none
  | _ => []

/-- A list entry. -/
def listEntry? (payload : Json) (key : String) : Option (List String) :=
  (payload.get? key).map texts

/-- A truth value entry. -/
def boolEntry? (payload : Json) (key : String) : Option Bool :=
  match payload.get? key with
  | some (.bool b) => some b
  | _ => none

/-- The configuration that an object gives, with the warnings. -/
def ofObject (fileName : String) (payload : Json) : RepoConfig × List String :=
  let policy := textEntry? payload "existing_id_policy"
  let known := policy.filter Failure.policies.contains
  ({ registryModule := textEntry? payload "registry_module"
     registerFunction := textEntry? payload "register_function"
     metadataType := textEntry? payload "metadata_type"
     output := textEntry? payload "output"
     initFunctions := listEntry? payload "init_functions"
     excludeGlobs := listEntry? payload "exclude_globs"
     sourceRoots := listEntry? payload "source_roots"
     searchPaths := listEntry? payload "search_paths"
     includeTests := boolEntry? payload "include_tests"
     existingIdPolicy := known },
   match policy, known with
   | some policy, none =>
     ["Invalid " ++ fileName ++ ": unknown existing_id_policy " ++ Text.quoted policy]
   | _, _ => [])

/-- The configuration in a text, with the warnings. -/
def ofText (fileName text : String) : Except Fault (RepoConfig × List String) :=
  match Json.parse text with
  | .error .malformed =>
    .ok ({}, ["Failed to parse " ++ fileName ++ ": " ++ Failure.detail])
  | .error .tooManyDigits => .error .tooManyDigits
  | .error .tooDeep => .error .tooDeep
  | .ok (.obj members) => .ok (ofObject fileName (.obj members))
  | .ok _ => .ok ({}, ["Invalid " ++ fileName ++ ": expected a JSON object"])

/-- The configuration in a file, with the warnings. -/
def ofFile (tree : FileTree) (fileName : String) (path : Path) :
    Except Fault (RepoConfig × List String) :=
  match tree.readText path with
  | .error .undecodable => .error .undecodable
  | .error (.system .invalidName) => .error (.system .invalidName)
  | .error (.system _) =>
    .ok ({}, ["Failed to parse " ++ fileName ++ ": " ++ Failure.detail])
  | .ok text => ofText fileName text

/-- A configuration with the name of its file and the warnings. -/
structure Loaded where
  config : RepoConfig := {}
  name : Option String := none
  warnings : List String := []

/-- The configuration in the first of the files that exists. -/
def loadFirst (tree : FileTree) (repo : Path) : List String → Except Fault Loaded
  | [] => .ok {}
  | fileName :: rest =>
    match tree.pathExists (repo / fileName) with
    | .error cause => .error (.system cause)
    | .ok false => loadFirst tree repo rest
    | .ok true =>
      (ofFile tree fileName (repo / fileName)).map fun (config, warnings) =>
        { config, name := some fileName, warnings }

/-- The configuration of a repository. -/
def load (tree : FileTree) (repo : Path) : Except Fault Loaded :=
  loadFirst tree repo fileNames

end RepoConfig

/-- The options that a command line gives for a scan. -/
structure ScanFlags where
  repo : String := "."
  output : Option String := none
  registryModule : Option String := none
  registerFunction : Option String := none
  metadataType : Option String := none
  existingIdPolicy : Option String := none
  initFunction : List String := []
  sourceRoot : List String := []
  searchPath : List String := []
  exclude : List String := []
  includeTests : Bool := false
  maxSample : Int := 30
  deriving DecidableEq, Repr

namespace ScanFlags

/-- The pieces between the commas of some values, without blanks around them and without the empty
ones. -/
def pieces (values : List String) : List String :=
  values.flatMap fun value => (Text.split ',' value).filterMap RepoConfig.stripped?

/-- A path that is absolute, or is taken from a directory and resolved. -/
def resolvePath (tree : FileTree) (base : Path) (value : String) : Except Fault Path :=
  if (Path.ofString value).isAbsolute then .ok (Path.ofString value)
  else
    match tree.resolve (base / value) with
    | .ok path => .ok path
    | .error .tooManyLinks => .error .linkLoop
    | .error cause => .error (.system cause)

/-- The texts of resolved paths. -/
def resolvePaths (tree : FileTree) (base : Path) (values : List String) :
    Except Fault (List String) :=
  values.mapM fun value => (resolvePath tree base value).map Path.text

/-- The value of a flag that is given and not empty. -/
def given (flag : Option String) : Option String :=
  flag.filter fun s => !s.isEmpty

/-- The pieces of the values of a flag, if there are any. -/
def givenList (values : List String) : Option (List String) :=
  if (pieces values).isEmpty then none else some (pieces values)

/-- Search paths are resolved: those of the configuration from the repository, those of flags from
the working directory. -/
def searchPaths (tree : FileTree) (workingDir repo : Path) (flags : ScanFlags)
    (config : RepoConfig) : Except Fault (Option (List String)) := do
  let configured ← config.searchPaths.mapM (resolvePaths tree repo)
  let flagged ← (givenList flags.searchPath).mapM (resolvePaths tree workingDir)
  return flagged <|> configured

/-- The options of a scan: flags come before the configuration, and that before the defaults.
Patterns of excluded files are added to those of the configuration. -/
def options (flags : ScanFlags) (config : RepoConfig) (searchPaths : Option (List String)) :
    ScanOptions :=
  let d : ScanOptions := {}
  { registryModule := (given flags.registryModule <|> config.registryModule).getD d.registryModule
    registerFunction :=
      (given flags.registerFunction <|> config.registerFunction).getD d.registerFunction
    metadataType := (given flags.metadataType <|> config.metadataType).getD d.metadataType
    initFunctions := (givenList flags.initFunction <|> config.initFunctions).getD d.initFunctions
    excludeGlobs := config.excludeGlobs.getD d.excludeGlobs ++ pieces flags.exclude
    sourceRoots := (givenList flags.sourceRoot <|> config.sourceRoots).getD d.sourceRoots
    includeTests := flags.includeTests || config.includeTests.getD d.includeTests
    existingIdPolicy :=
      (given flags.existingIdPolicy <|> config.existingIdPolicy).getD d.existingIdPolicy
    searchPaths := searchPaths <|> d.searchPaths }

/-- The name of the snapshot if none is given. -/
def defaultOutput : String := "adapters.yaml"

/-- Where the snapshot is written. -/
def outputPath (tree : FileTree) (repo : Path) (flags : ScanFlags) (config : RepoConfig) :
    Except Fault Path :=
  resolvePath tree repo ((given flags.output <|> config.output).getD defaultOutput)

end ScanFlags

/-- Everything that a scan of a repository is told. -/
structure ScanPlan where
  options : ScanOptions
  output : Path
  loaded : RepoConfig.Loaded

/-- The plan for a scan, from the flags and the configuration of the repository. -/
def ScanPlan.make (tree : FileTree) (workingDir repo : Path) (flags : ScanFlags) :
    Except Fault ScanPlan := do
  let loaded ← RepoConfig.load tree repo
  let searchPaths ← ScanFlags.searchPaths tree workingDir repo flags loaded.config
  let output ← ScanFlags.outputPath tree repo flags loaded.config
  return { options := flags.options loaded.config searchPaths, output, loaded }

end Catalog
