/-!
# Progress lines

A run reports what it is about to do and what it has done, one line each.
-/

namespace Catalog

/-- A progress line. -/
structure Progress where
  message : String
  done : Bool := false
  deriving DecidableEq, Repr

namespace Progress

/-- The line as it is shown. -/
def text (line : Progress) : String :=
  (if line.done then "  [done] " else "  [....] ") ++ line.message ++ "\n"

/-- All lines, one after another. -/
def render (log : List Progress) : String :=
  log.foldl (fun shown line => shown ++ line.text) ""

end Progress

end Catalog
