import Catalog.Path.Glob

/-!
# Paths that are not scanned

Test modules, and files that an exclusion pattern selects, never register anything. The sources
under a few well-known directories are not listed at all.
-/

namespace Catalog.Path

/-- Directories whose contents are not sources of the repository, in alphabetical order. -/
def excludedNames : List String :=
  [".git", ".hg", ".mypy_cache", ".nox", ".pytest_cache", ".ruff_cache", ".svn", ".tox", ".venv",
   "__pycache__", "build", "dist", "env", "node_modules", "site-packages", "venv"]

/-- A directory of this name is left out of the listing. -/
def isExcludedName (name : String) : Bool :=
  excludedNames.contains name || Text.endsWith name ".egg-info"

/-- A directory above the last name of the path is left out of the listing. -/
def inExcludedDir (path : String) : Bool :=
  (names path).dropLast.any isExcludedName

/-- A path of a test: under a test directory, or named like a test module. -/
def isTest (path : String) : Bool :=
  let whole := Text.lower path
  let last := Text.lower (fileName path)
  Text.contains whole "/test/" || Text.beginsWith whole "test/" ||
    Text.contains whole "/tests/" || Text.beginsWith whole "tests/" ||
    Text.beginsWith last "test_" || Text.endsWith last "_test.py" || last == "conftest.py"

/-- A path that is not scanned under the given exclusions. -/
def isIrrelevant (excludeGlobs : List String) (includeTests : Bool) (path : String) : Bool :=
  Glob.selectsAny path excludeGlobs || (!includeTests && isTest path)

end Catalog.Path
