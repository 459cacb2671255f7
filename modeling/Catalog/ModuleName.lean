import Catalog.Text.Basic

/-!
# Module names

A file below a source root is a module: its path from the root, with dots for slashes and without
the extension. The file `__init__.py` of a directory is the package that the directory names.

A dotted name is a text; its segments are the pieces between the dots. Relative imports count
packages upwards from the one that holds the importing module.
-/

namespace Catalog

namespace Dotted

/-- The segments of a dotted name. -/
def segments (s : String) : List String :=
  Text.split '.' s

/-- The dotted name of the given segments. -/
def ofSegments (parts : List String) : String :=
  Text.join "." parts

/-- The text `suffix` names the trailing segments of `value`. -/
def endsIn (value suffix : String) : Bool :=
  !value.isEmpty && !suffix.isEmpty && (value == suffix || Text.endsWith value ("." ++ suffix))

/-- The first segment. -/
def head (s : String) : String :=
  (segments s).headD ""

/-- The name without its last segment; empty if there is only one. -/
def parent (s : String) : String :=
  ofSegments (segments s).dropLast

end Dotted

namespace ModuleName

/-- One step in bringing the names of a path into normal form; `stack` holds the names so far,
the last one first. -/
def normalStep (absolute : Bool) (stack : List String) (name : String) : List String :=
  if name == "" || name == "." then stack
  else if name != ".." then name :: stack
  else
    match stack with
    | [] => if absolute then [] else [".."]
    | last :: earlier => if last == ".." then ".." :: stack else earlier

/-- The names of a path with `.` removed and every `..` cancelled against the name before it. -/
def normalNames (s : String) : List String :=
  ((Text.split '/' s).foldl (normalStep (Text.beginsWith s "/")) []).reverse

/-- A source root as the text with which the paths below it begin: empty for the repository
itself, and otherwise ending in a slash. -/
def rootPrefix (root : String) : String :=
  match normalNames root with
  | [] => ""
  | names => Text.join "/" names ++ "/"

/-- The longest source root above the path; of two that are equally long the first one. -/
def sourceRoot? (path : String) (roots : List String) : Option String :=
  roots.foldl
    (fun best root =>
      let start := rootPrefix root
      if !Text.beginsWith path start then best
      else
        match best with
        | none => some start
        | some longest => if longest.length < start.length then some start else best)
    none

/-- A module's dotted name, and whether it is a package. -/
structure Identity where
  name : String
  isPackage : Bool
  deriving DecidableEq, Repr, Inhabited

/-- The module that the file at `path` is. -/
def ofPath (path : String) (roots : List String) : Identity :=
  let start := (sourceRoot? path roots).getD ""
  let rel := Text.drop start.length path
  let rel := if Text.endsWith rel ".py" then Text.dropEnd 3 rel else rel
  let parts := (Text.split '/' rel).filter (· != "")
  let isPackage := parts.getLast? == some "__init__"
  { name := Dotted.ofSegments (if isPackage then parts.dropLast else parts), isPackage }

/-- The package that holds a module; a package holds itself. -/
def Identity.package (m : Identity) : String :=
  if m.isPackage then m.name else Dotted.parent m.name

/-- The absolute name of the module that an import names. Level zero is an absolute import; level
one starts at the package itself, and each further level one package higher. There is none if
the climb leaves the top package, or if nothing is named. -/
def absolute? (module : Option String) (level : Int) (package : String) : Option String :=
  let module := module.getD ""
  let nonempty (s : String) : Option String := if s.isEmpty then none else some s
  if level ≤ 0 then nonempty module
  else
    let base := if package.isEmpty then [] else Dotted.segments package
    let up := (level - 1).toNat
    if base.length < up then none
    else
      let kept := base.take (base.length - up)
      nonempty (Dotted.ofSegments (if module.isEmpty then kept else kept ++ Dotted.segments module))

end ModuleName

end Catalog
