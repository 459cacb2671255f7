import Catalog.Path.Basic
import Catalog.Text.Blank

/-!
# File trees

A file tree is a finite map from locations to entries. A location is the list of names from the
root of the tree down; it never contains a link that is to be followed. `FileTree.follow` turns a
path into a location, entry by entry, the way a file system does: it fails if the whole path is too
long, at the first name that is missing, is too long, or has something above it that is no
directory, and when it meets too many links.
-/

namespace Catalog

/-- What stands at a location. -/
inductive Entry where
  | file (bytes : ByteArray)
  | dir
  | link (target : String)
  /-- A pipe, a socket or a device. There is nothing to be read from it. -/
  | special
  deriving Inhabited

namespace Entry

instance : DecidableEq Entry
  | file a, file b =>
    match ByteArray.instDecidableEq a b with
    | isTrue h => isTrue (congrArg file h)
    | isFalse h => isFalse fun e => h (file.inj e)
  | link a, link b =>
    match decEq a b with
    | isTrue h => isTrue (congrArg link h)
    | isFalse h => isFalse fun e => h (link.inj e)
  | dir, dir => isTrue rfl
  | special, special => isTrue rfl
  | file _, dir => isFalse nofun
  | file _, link _ => isFalse nofun
  | file _, special => isFalse nofun
  | dir, file _ => isFalse nofun
  | dir, link _ => isFalse nofun
  | dir, special => isFalse nofun
  | link _, file _ => isFalse nofun
  | link _, dir => isFalse nofun
  | link _, special => isFalse nofun
  | special, file _ => isFalse nofun
  | special, dir => isFalse nofun
  | special, link _ => isFalse nofun

def isFile : Entry → Bool
  | file _ => true
  | _ => false

def isDir : Entry → Bool
  | dir => true
  | _ => false

def isLink : Entry → Bool
  | link _ => true
  | _ => false

end Entry

/-- The entries of a tree. The root is a directory and has no entry of its own. -/
structure FileTree where
  entries : List (List String × Entry) := []
  deriving Inhabited

/-- Why an operation on a tree failed. -/
inductive SystemError where
  | notFound
  | notDirectory
  | isDirectory
  | alreadyExists
  | nameTooLong
  | tooManyLinks
  | invalidName
  | notReadable
  deriving DecidableEq, Repr

namespace FileTree

/-- The entry at a location. -/
def find? (tree : FileTree) : List String → Option Entry
  | [] => some .dir
  | name :: rest => tree.entries.lookup (name :: rest)

/-- The tree without the entry at a location. -/
def erase (tree : FileTree) (location : List String) : FileTree :=
  { entries := tree.entries.filter fun item => item.1 != location }

/-- The tree with an entry put at a location, in place of the one there. -/
def insert (tree : FileTree) (location : List String) (entry : Entry) : FileTree :=
  { entries := (location, entry) :: (tree.erase location).entries }

/-- The longest name, in bytes of its UTF-8 form. -/
def maxNameBytes : Nat := 255

/-- The longest path that can be asked for, in bytes of its UTF-8 form. -/
def maxPathBytes : Nat := 4095

/-- The path is short enough to be asked for. -/
def isShort (path : Path) : Bool := path.text.utf8ByteSize ≤ maxPathBytes

/-- The most links that one path may lead through. -/
def maxLinks : Nat := 40

/-- The location that the names `todo` lead to from the location `here`, and the entry there. The
last name may be missing; then there is no entry. A link that is the last name is followed only
if `last` says so. -/
def followFrom (tree : FileTree) (last : Bool) (links : Nat) (here : List String) :
    List String → Except SystemError (List String × Option Entry)
  | [] => .ok (here, tree.find? here)
  | name :: rest =>
    if name == ".." then followFrom tree last links here.dropLast rest
    else if maxNameBytes < name.utf8ByteSize then .error .nameTooLong
    else
      match tree.find? (here ++ [name]) with
      | none => if rest.isEmpty then .ok (here ++ [name], none) else .error .notFound
      | some .dir => followFrom tree last links (here ++ [name]) rest
      | some (.link target) =>
        if rest.isEmpty && !last then .ok (here ++ [name], some (.link target))
        else
          match links with
          | 0 => .error .tooManyLinks
          | links + 1 =>
            let path := Path.ofString target
            followFrom tree last links (if path.isAbsolute then [] else here) (path.parts ++ rest)
      | some leaf =>
        if rest.isEmpty then .ok (here ++ [name], some leaf) else .error .notDirectory
termination_by todo => (links, todo.length)

/-- A path with a character that no name may hold. -/
def isInvalid (path : Path) : Bool :=
  path.parts.any fun name => name.toList.contains '\x00'

/-- The location of a path and the entry there; `last` says whether a link that is the last name
is followed. -/
def follow (tree : FileTree) (last : Bool) (path : Path) :
    Except SystemError (List String × Option Entry) :=
  if isInvalid path then .error .invalidName
  else if maxPathBytes < path.text.utf8ByteSize then .error .nameTooLong
  else followFrom tree last maxLinks [] path.parts

/-- The entry that a path leads to. -/
def stat (tree : FileTree) (path : Path) : Except SystemError (List String × Entry) :=
  match tree.follow true path with
  | .ok (location, some entry) => .ok (location, entry)
  | .ok (_, none) => .error .notFound
  | .error e => .error e

/-- Asks whether the entry at a path has a property. A path that leads nowhere has none; only a
name or a path that is too long is an error. -/
def test (tree : FileTree) (property : Entry → Bool) (path : Path) : Except SystemError Bool :=
  match tree.stat path with
  | .ok (_, entry) => .ok (property entry)
  | .error .nameTooLong => .error .nameTooLong
  | .error _ => .ok false

/-- The path leads to a file. -/
def isFile (tree : FileTree) (path : Path) : Except SystemError Bool :=
  tree.test Entry.isFile path

/-- The path leads to a directory. -/
def isDir (tree : FileTree) (path : Path) : Except SystemError Bool :=
  tree.test Entry.isDir path

/-- The path leads to an entry. -/
def pathExists (tree : FileTree) (path : Path) : Except SystemError Bool :=
  tree.test (fun _ => true) path

/-- Why a text could not be read. -/
inductive ReadError where
  | system (cause : SystemError)
  | undecodable
  deriving DecidableEq, Repr

/-- The text of the file at a path, with line feeds as its only line ends. -/
def readText (tree : FileTree) (path : Path) : Except ReadError String :=
  match tree.stat path with
  | .error e => .error (.system e)
  | .ok (_, .file bytes) =>
    match String.fromUTF8? bytes with
    | some s => .ok (Text.unifyBreaks s)
    | none => .error .undecodable
  | .ok (_, .special) => .error (.system .notReadable)
  | .ok (_, _) => .error (.system .isDirectory)

/-- The location that the names `todo` lead to from `here`, where names that do not exist are
taken as they are. -/
def resolveFrom (tree : FileTree) (links : Nat) (here : List String) :
    List String → Except SystemError (List String)
  | [] => .ok here
  | name :: rest =>
    if name == ".." then resolveFrom tree links here.dropLast rest
    else
      match tree.find? (here ++ [name]) with
      | some (.link target) =>
        match links with
        | 0 => .error .tooManyLinks
        | links + 1 =>
          let path := Path.ofString target
          resolveFrom tree links (if path.isAbsolute then [] else here) (path.parts ++ rest)
      | _ => resolveFrom tree links (here ++ [name]) rest
termination_by todo => (links, todo.length)

/-- The path without links and without `..`. It need not lead to an entry. -/
def resolve (tree : FileTree) (path : Path) : Except SystemError Path :=
  if isInvalid path then .error .invalidName
  else (tree.resolveFrom maxLinks [] path.parts).map fun parts => { root := "/", parts }

/-- Entries are files or directories or links of one location each, so looking up what was put
there gives it back. -/
@[simp] theorem find?_insert_self (tree : FileTree) (name : String) (rest : List String)
    (entry : Entry) : (tree.insert (name :: rest) entry).find? (name :: rest) = some entry := by
  simp [insert, find?]

end FileTree

end Catalog
