import Catalog.Path.Relevance
import Catalog.Source.Unit

/-!
# Options of a scan

Where the registry stands, how its functions are called, and which files are scanned.
-/

namespace Catalog

/-- What a scan looks for, and where. -/
structure ScanOptions where
  registryModule : String := "meloshub.adapter"
  registerFunction : String := "register"
  metadataType : String := "Metadata"
  initFunctions : List String := ["init"]
  excludeGlobs : List String := ["tools/*", "*/tools/*"]
  sourceRoots : List String := ["src", "."]
  includeTests : Bool := false
  existingIdPolicy : String := "warn"
  /-- Where modules outside of the repository are looked up; if it is missing, where packages are
  installed. -/
  searchPaths : Option (List String) := none
  deriving DecidableEq, Repr

namespace ScanOptions

/-- The qualified name of the function that registers. -/
def registerTarget (o : ScanOptions) : String :=
  o.registryModule ++ "." ++ o.registerFunction

/-- The qualified name of the class of metadata. -/
def metadataTarget (o : ScanOptions) : String :=
  o.registryModule ++ "." ++ o.metadataType

/-- The unit is not scanned. -/
def isIrrelevant (o : ScanOptions) (u : SourceUnit) : Bool :=
  u.isEmpty || Path.isIrrelevant o.excludeGlobs o.includeTests u.path

end ScanOptions

end Catalog
