import Catalog.Text.Basic

/-!
# Paths

A path is a root and the names below it. Reading a path drops empty names and the name `.`, and
keeps `..`, which only a look at the file tree can resolve.
-/

namespace Catalog

/-- A path: its root (empty for a relative path) and the names below the root. -/
structure Path where
  root : String := ""
  parts : List String := []
  deriving DecidableEq, Repr, Inhabited

namespace Path

/-- Exactly two leading slashes are a root of their own; any other number of them is one slash. -/
def rootOf (s : String) : String :=
  if Text.beginsWith s "//" && !Text.beginsWith s "///" then "//"
  else if Text.beginsWith s "/" then "/"
  else ""

/-- The names between the slashes of a text, without the empty ones and without `.`. -/
def names (s : String) : List String :=
  (Text.split '/' s).filter fun name => name != "" && name != "."

/-- The path that a text spells. -/
def ofString (s : String) : Path :=
  { root := rootOf s, parts := names s }

/-- The text of a path. The empty path is written `.`. -/
def text (p : Path) : String :=
  if p.root.isEmpty && p.parts.isEmpty then "." else p.root ++ Text.join "/" p.parts

/-- The last name of a path, or the empty text if there is none. -/
def name (p : Path) : String :=
  p.parts.getLastD ""

/-- The path without its last name. -/
def parent (p : Path) : Path :=
  { p with parts := p.parts.dropLast }

def isAbsolute (p : Path) : Bool :=
  !p.root.isEmpty

/-- The path with more names below it. -/
def extend (p : Path) (names : List String) : Path :=
  { p with parts := p.parts ++ names }

/-- The path `q` seen from `p`: `q` itself if it is absolute. -/
def append (p q : Path) : Path :=
  if q.isAbsolute then q else { p with parts := p.parts ++ q.parts }

instance : HDiv Path String Path where
  hDiv p s := p.append (ofString s)

/-- The last name of the path that a text spells. -/
def fileName (s : String) : String :=
  (names s).getLastD ""

@[simp] theorem text_single (name : String) : ({ parts := [name] } : Path).text = name := by
  simp [text, Text.join]

@[simp] theorem parent_append_name (p : Path) (name : String) :
    ({ p with parts := p.parts ++ [name] } : Path).parent = p := by
  simp [parent]

end Path

end Catalog
