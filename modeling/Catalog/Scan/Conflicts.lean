import Catalog.Progress
import Catalog.Record.Snapshot

/-!
# Conflicts with the published snapshot

An id may occur once in a scan. An id that is published already is expected, since the snapshot is
made anew each time; if its author changed, the policy says what happens.
-/

namespace Catalog.Conflicts

/-- The id of the first record whose id occurred before. -/
def duplicate? : (seen : List String) → List Record → Option String
  | _, [] => none
  | seen, r :: rest => if seen.contains r.id then some r.id else duplicate? (r.id :: seen) rest

/-- The published record of an id: the last one in the snapshot. -/
def published? (existing : List Record) (id : String) : Option Record :=
  existing.reverse.find? fun r => r.id == id

/-- The published author of a record's id, if it is another one. -/
def otherAuthor? (existing : List Record) (r : Record) : Option String :=
  match published? existing r.id with
  | some previous => if previous.author == r.author then none else some previous.author
  | none => none

/-- What the policy makes of records with changed authors: a message after the warnings for each of
them, or a failure at the first one. -/
def judge (policy : String) (existing : List Record) :
    (warnings : List String) → List Record → Except Failure Unit × List String
  | warnings, [] => (.ok (), warnings)
  | warnings, r :: rest =>
    match otherAuthor? existing r with
    | none => judge policy existing warnings rest
    | some previous =>
      if policy == "error" then (.error (.authorConflict r.id previous r.author), warnings)
      else if policy == "warn" then
        judge policy existing (warnings ++ [Failure.authorMessage r.id previous r.author]) rest
      else judge policy existing warnings rest

/-- The progress line for a snapshot that does not exist. -/
def missingNotice (existing : Path) : Progress :=
  { message := "No existing " ++ existing.name ++ " file found, skipping conflict check."
    done := true }

/-- Checks records against each other and against the snapshot at a path. Gives the progress lines,
and the warnings with those of the check after them. -/
def examine (tree : FileTree) (policy : String) (records : List Record) (existing : Path)
    (warnings : List String) : Except Failure (List Progress) × List String :=
  if !Failure.policies.contains policy then (.error (.unknownPolicy policy), warnings)
  else
    match duplicate? [] records with
    | some id => (.error (.duplicateId id), warnings)
    | none =>
      match Snapshot.load tree existing with
      | .error e => (.error e, warnings)
      | .ok none => (.ok [missingNotice existing], warnings)
      | .ok (some published) =>
        let (outcome, warnings) := judge policy published warnings records
        (outcome.map fun () => [], warnings)

/-- The warnings and the progress lines of a check, if it does not fail. -/
def check (tree : FileTree) (policy : String) (records : List Record) (existing : Path) :
    Except Failure (List String × List Progress) :=
  let (outcome, warnings) := examine tree policy records existing []
  outcome.map (warnings, ·)

end Catalog.Conflicts
