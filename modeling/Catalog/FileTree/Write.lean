import Catalog.FileTree.Basic

/-!
# Writing a file whole or not at all

The text first goes to a temporary file beside the target, which then takes the target's place in
one step. If that step fails the temporary file is removed. Directories above the target are made
as needed; those that were made stay when the writing fails later.
-/

namespace Catalog.FileTree

/-- A tree after an operation that may have failed. -/
abbrev Step := FileTree × Except SystemError Unit

/-- A directory at a path whose parent exists, or the directory that is already there. -/
def makeDir (tree : FileTree) (path : Path) : Step :=
  match tree.follow false path with
  | .ok (location, none) => (tree.insert location .dir, .ok ())
  | .ok (_, some _) =>
    match tree.isDir path with
    | .ok true => (tree, .ok ())
    | _ => (tree, .error .alreadyExists)
  | .error e => (tree, .error e)

/-- A directory at the path whose names are given last name first, with all directories above
it. -/
def makeDirsFrom (tree : FileTree) (root : String) : List String → Step
  | [] => (tree, .ok ())
  | name :: above =>
    let path : Path := { root, parts := (name :: above).reverse }
    match tree.makeDir path with
    | (_, .error .notFound) =>
      match makeDirsFrom tree root above with
      | (tree', .ok ()) => tree'.makeDir path
      | failed => failed
    | step => step

/-- A directory at the path, with all directories above it. -/
def makeDirs (tree : FileTree) (path : Path) : Step :=
  tree.makeDirsFrom path.root path.parts.reverse

/-- The name of a temporary file for the target `name`: a dot, the name, eight characters and an
extension. -/
def temporaryName (name : String) (n : Nat) : String :=
  let digits := Nat.toDigits 10 n
  "." ++ name ++ "." ++ String.ofList (List.replicate (8 - digits.length) '0' ++ digits) ++ ".tmp"

/-- A temporary name that is not taken in the directory. -/
def freshName (tree : FileTree) (dir : List String) (name : String) : String :=
  let free (n : Nat) : Bool := (tree.find? (dir ++ [temporaryName name n])).isNone
  temporaryName name (((List.range (tree.entries.length + 1)).find? free).getD 0)

/-- The file at the location `source` takes the place of the entry at the path `target`. -/
def rename (tree : FileTree) (source : List String) (bytes : ByteArray) (target : Path) : Step :=
  match tree.follow false target with
  | .error e => (tree, .error e)
  | .ok (_, some .dir) => (tree, .error .isDirectory)
  | .ok (location, _) => ((tree.erase source).insert location (.file bytes), .ok ())

/-- Writes the bytes to the file at a path. -/
def writeBytes (tree : FileTree) (path : Path) (bytes : ByteArray) : Step :=
  match tree.makeDirs path.parent with
  | (tree, .error e) => (tree, .error e)
  | (tree, .ok ()) =>
    match tree.stat path.parent with
    | .error e => (tree, .error e)
    | .ok (dir, _) =>
      let name := tree.freshName dir path.name
      if maxNameBytes < name.utf8ByteSize ||
          maxPathBytes < (path.parent / name).text.utf8ByteSize then
        (tree, .error .nameTooLong)
      else
        let source := dir ++ [name]
        match (tree.insert source (.file bytes)).rename source bytes path with
        | (tree, .ok ()) => (tree, .ok ())
        | (tree, .error e) => (tree.erase source, .error e)

/-- Writes a text to the file at a path. -/
def writeText (tree : FileTree) (path : Path) (text : String) : Step :=
  if isInvalid path then (tree, .error .invalidName) else tree.writeBytes path text.toUTF8

end Catalog.FileTree
