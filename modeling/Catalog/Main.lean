import Catalog.Command.Line

/-!
# The program

Reads what a command line may need from the disk into a file tree, carries the command line out on
the tree, prints what it says, and writes the files that it changed. It runs no external lister, so
that sources are found by walking, and it does not know where packages are installed: modules
outside of the repository are looked up where the flags or the configuration say.
-/

namespace Catalog.Program

/-- The path of a location. -/
def pathText (location : List String) : String :=
  "/" ++ Text.join "/" location

/-- Puts directory entries and everything below them into a file tree, except for directories that
are to be skipped. -/
partial def readEntries (skip : String → Bool) (entries : Array IO.FS.DirEntry)
    (location : List String) (tree : FileTree) : IO FileTree := do
  let mut tree := tree
  for entry in entries do
    let below := location ++ [entry.fileName]
    match (← entry.path.symlinkMetadata).type with
    | .dir =>
      if !skip entry.fileName then
        tree ← readEntries skip (← entry.path.readDir) below (tree.insert below .dir)
    | .file => tree := tree.insert below (.file (← IO.FS.readBinFile entry.path))
    | .symlink => tree := tree.insert below (.link (← IO.FS.realPath entry.path).toString)
    | .other => tree := tree.insert below .special
  return tree

/-- Puts what stands at a path, and the directories above it, into a file tree. -/
def readPath (skip : String → Bool) (workingDir : Path) (tree : FileTree) (name : String) :
    IO FileTree := do
  let location := match tree.resolve (workingDir / name) with
    | .ok path => path.parts
    | .error _ => []
  let above := (List.range (location.length - 1)).map fun n => location.take (n + 1)
  let tree := above.foldl (fun tree names => tree.insert names .dir) tree
  let real ← IO.FS.realPath (pathText location)
  if ← real.isDir then
    readEntries skip (← real.readDir) location
      (if location.isEmpty then tree else tree.insert location .dir)
  else if ← real.pathExists then
    return tree.insert location (.file (← IO.FS.readBinFile (pathText location)))
  else return tree

/-- The paths that a command line names. -/
def namedPaths : Invocation → List String
  | .scan flags => flags.output.toList ++ ScanFlags.pieces flags.searchPath
  | .diff flags => [flags.old, flags.new, flags.output].filter fun name => !name.isEmpty
  | .nothing => []

/-- The file tree that a command line needs. -/
def readTree (workingDir : Path) (invocation : Invocation) : IO FileTree := do
  let nothing : String → Bool := fun _ => false
  let mut tree : FileTree := {}
  for name in namedPaths invocation do
    tree ← readPath nothing workingDir tree name
  if let .scan flags := invocation then
    tree ← readPath Path.isExcludedName workingDir tree flags.repo
    if let .ok (repo, true) := Command.repository tree workingDir flags.repo then
      if let .ok loaded := RepoConfig.load tree repo then
        for name in loaded.config.searchPaths.getD [] do
          tree ← readPath nothing repo tree name
  return tree

/-- Writes the files that differ. A file takes its place whole. -/
def writeChanges (before after : FileTree) : IO Unit := do
  for (location, entry) in after.entries do
    if let .file bytes := entry then
      if before.find? location != some entry then
        IO.FS.createDirAll (pathText location.dropLast)
        let name := FileTree.temporaryName (location.getLastD "") 0
        let temporary := pathText (location.dropLast ++ [name])
        IO.FS.writeBinFile temporary bytes
        IO.FS.rename temporary (pathText location)

/-- Prints what a command line says, and gives its exit status. -/
def printOutcome : Command.Outcome → IO UInt32
  | .refused .help => do
    IO.print Command.help
    return 0
  | .refused .usage => do
    IO.eprint Command.help
    return 2
  | .answered answer => do
    IO.eprint answer.errors
    IO.print answer.output
    return answer.code.toUInt32
  | .aborted _ errors => do
    IO.eprint errors
    return 1

/-- Carries out a command line. -/
def run (words : List String) : IO UInt32 := do
  let workingDir := Path.ofString (← IO.currentDir).toString
  match Arguments.parse words with
  | .error refusal => printOutcome (.refused refusal)
  | .ok invocation =>
    let before ← readTree workingDir invocation
    let (outcome, after) := Command.run { workingDir, installed := [] } before words
    writeChanges before after
    printOutcome outcome

end Catalog.Program

def main (words : List String) : IO UInt32 :=
  Catalog.Program.run words
