import Catalog.FileTree.Basic
import Catalog.Text.Quoted
import Catalog.Yaml.Error

/-!
# Failures

What can end a run, as causes, with the wording of each in one place. A failure of the tool's own
has a message and an exit status. A fault is something that the tool does not expect, such as a
name that no file can have; it ends the run without a message.
-/

namespace Catalog

/-- Something that ends a run without a message. -/
inductive Fault where
  /-- Expressions or references are nested too deep. -/
  | tooDeep
  /-- A chain of names leads on without end. -/
  | endless
  /-- Links lead on to each other without end. -/
  | linkLoop
  /-- The parser of sources has no room for a text. -/
  | outOfMemory
  | system (cause : SystemError)
  | undecodable
  | tooManyDigits
  | yaml (cause : Yaml.Error)
  deriving DecidableEq, Repr

/-- The kinds of failure that have a message. -/
inductive FailureKind where
  | config
  | snapshot
  | duplicateId
  | conflict
  | output
  deriving DecidableEq, Repr

/-- What ends a run. -/
inductive Failure where
  | unknownPolicy (policy : String)
  | missingSnapshot (path : String)
  | unreadableSnapshot (path : String)
  | malformedSnapshot (source : String)
  | notAList (source kind : String)
  | notAMapping (source : String) (index : Nat)
  /-- A field of a record is not text; the place is the source and the number of the entry. -/
  | badField (place : Option (String × Nat)) (key kind : String)
  | duplicateId (id : String)
  | authorConflict (id previous author : String)
  | unwritableSnapshot (path : String)
  | unwritableReport (path : String)
  | fault (cause : Fault)
  deriving DecidableEq, Repr

namespace Failure

/-- Stands for the wording of a parser or of the file system. -/
def detail : String := "<detail>"

/-- The policies for ids that are published already. -/
def policies : List String := ["warn", "error", "ignore"]

/-- The wording of a changed author. -/
def authorMessage (id previous author : String) : String :=
  "adapter Id '" ++ id ++ "' is already published by author '" ++ previous ++
    "' but is now claimed by '" ++ author ++ "'"

/-- The wording of a failure. -/
def message : Failure → String
  | unknownPolicy policy =>
    "unknown existing-id policy " ++ Text.quoted policy ++ "; expected one of " ++
      Text.join ", " policies
  | missingSnapshot path => "Error reading new metadata file: " ++ path ++ " does not exist"
  | unreadableSnapshot path => "could not read existing file " ++ path ++ ": " ++ detail
  | malformedSnapshot source => "could not parse existing yaml file " ++ source ++ ": " ++ detail
  | notAList source kind => source ++ ": expected a list of metadata records, got " ++ kind
  | notAMapping source index => source ++ ": entry " ++ toString index ++ " is not a mapping"
  | badField place key kind =>
    let start := match place with
      | some (source, index) => source ++ ": entry " ++ toString index ++ ": "
      | none => ""
    start ++ "field '" ++ key ++ "' must be a string, got " ++ kind
  | duplicateId id => "duplicate adapter Id '" ++ id ++ "' found in the current scan"
  | authorConflict id previous author => authorMessage id previous author
  | unwritableSnapshot path => "Error writing output file " ++ path ++ ": " ++ detail
  | unwritableReport path => "Error writing output report file " ++ path ++ ": " ++ detail
  | fault _ => ""

/-- The kind of a failure that has a message. -/
def kind? : Failure → Option FailureKind
  | unknownPolicy _ => some .config
  | missingSnapshot _ => some .config
  | unreadableSnapshot _ => some .snapshot
  | malformedSnapshot _ => some .snapshot
  | notAList _ _ => some .snapshot
  | notAMapping _ _ => some .snapshot
  | badField _ _ _ => some .snapshot
  | duplicateId _ => some .duplicateId
  | authorConflict _ _ _ => some .conflict
  | unwritableSnapshot _ => some .output
  | unwritableReport _ => some .output
  | fault _ => none

end Failure

/-- The exit status of a failure. -/
def FailureKind.exitCode : FailureKind → Nat
  | config => 2
  | _ => 1

end Catalog
