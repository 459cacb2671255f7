import Catalog.Scan.Constructor
import Catalog.Scan.Metadata
import Catalog.Source.Set

/-!
# Scanning

A unit gives at most one record: the first registration whose constructor holds a record. A set of
units is scanned unit by unit. A unit in which references are nested too deep is passed over with
a warning.
-/

namespace Catalog

open Syntax

namespace Scan

/-- The warning for a constructor without a record. -/
def emptyWarning (o : ScanOptions) (u : SourceUnit) (declaration : Node) : String :=
  u.location declaration.line ++ ": constructor " ++ Constructor.declaredName declaration ++
    " has no " ++ o.metadataType ++ " literal with a non-empty id"

/-- The record of a registration, or a warning that says why there is none. -/
def recordOf (units : List SourceUnit) (o : ScanOptions) (u : SourceUnit) (r : Registration) :
    Query (Except String Record) :=
  match Constructor.trace u r with
  | .error warning => return .error warning
  | .ok declaration => do
    match ← Metadata.find? units o.metadataTarget u (Constructor.declaredBody declaration) with
    | some record => return .ok record
    | none => return .error (emptyWarning o u declaration)

/-- The first record of some registrations. Each registration before it leaves a warning. -/
def firstRecord (units : List SourceUnit) (o : ScanOptions) (u : SourceUnit) :
    List Registration → Tracing (Option Record)
  | [] => return none
  | r :: rest => do
    match ← Tracing.query (recordOf units o u r) with
    | .ok record => return some record
    | .error warning =>
      Tracing.warn warning
      firstRecord units o u rest

/-- The record of a unit. -/
def unitRecord (units : List SourceUnit) (o : ScanOptions) (u : SourceUnit) :
    Tracing (Option Record) := do
  firstRecord units o u (← Registration.all units o u)

end Scan

/-- What a scan gives. -/
structure ScanResult where
  records : List Record := []
  warnings : List String := []
  unitsScanned : Nat := 0
  unitsSkipped : Nat := 0
  deriving DecidableEq, Repr

/-- A scan under way: the set of sources, what was found, and the progress lines. -/
structure Scan where
  sources : SourceSet
  result : ScanResult := {}
  log : List Progress := []

namespace Scan

/-- The warning for a unit in which references are nested too deep. -/
def nestingWarning (u : SourceUnit) : String :=
  u.path ++ ": expression nesting too deep to trace"

/-- The scan with one unit passed over. -/
def skip (s : Scan) : Scan :=
  { s with result := { s.result with unitsSkipped := s.result.unitsSkipped + 1 } }

/-- The scan with one unit scanned, what came of it, and its warnings. -/
def keep (s : Scan) (sources : SourceSet) (record : Option Record) (warnings : List String) :
    Scan :=
  { sources
    result :=
      { s.result with
        records := s.result.records ++ record.toList
        warnings := s.result.warnings ++ warnings
        unitsScanned := s.result.unitsScanned + 1 }
    log := s.log ++ record.toList.map fun r =>
      { message := "Found metadata for adapter: " ++ r.id, done := true } }

/-- Scans one unit. -/
def scanUnit (tree : FileTree) (o : ScanOptions) (s : Scan) (u : SourceUnit) :
    Except Fault Unit × Scan :=
  if o.isIrrelevant u then (.ok (), s.skip)
  else
    match SourceSet.run tree (unitRecord s.sources.units o u).collect s.sources with
    | (.error cause, sources) => (.error cause, s.keep sources none [])
    | (.ok (.ok record, warnings), sources) => (.ok (), s.keep sources record warnings)
    | (.ok (.error .tooDeep, warnings), sources) =>
      (.ok (), s.keep sources none (warnings ++ [nestingWarning u]))
    | (.ok (.error cause, warnings), sources) => (.error cause, s.keep sources none warnings)

/-- Scans units one after another. -/
def scanUnits (tree : FileTree) (o : ScanOptions) :
    Scan → List SourceUnit → Except Fault Unit × Scan
  | s, [] => (.ok (), s)
  | s, u :: rest =>
    match scanUnit tree o s u with
    | (.ok (), s) => scanUnits tree o s rest
    | failed => failed

/-- The scan with the warnings about modules outside of the repository. -/
def finish (s : Scan) : Scan :=
  { s with
    result := { s.result with warnings := s.result.warnings ++ s.sources.outsideFailures } }

/-- Scans a set of sources. Files that could not be read as modules count as passed over. -/
def ofSources (tree : FileTree) (o : ScanOptions) (sources : SourceSet) :
    Except Fault Unit × Scan :=
  let start : Scan := { sources, result := { unitsSkipped := sources.failed.length } }
  match scanUnits tree o start sources.units with
  | (.ok (), s) => (.ok (), s.finish)
  | failed => failed

end Scan

end Catalog
