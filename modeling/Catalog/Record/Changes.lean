import Catalog.Json.Printer
import Catalog.Record.Snapshot

/-!
# Changes between two snapshots

Each list of records is read as a map from ids to records, where the last record of an id counts.
The report names the records that were added, removed and updated, each list sorted by id.
-/

namespace Catalog

/-- A record before and after a change. -/
structure Update where
  before : Record
  after : Record
  deriving DecidableEq, Repr

/-- What changed from one snapshot to another. -/
structure ChangeReport where
  added : List Record := []
  removed : List Record := []
  updated : List Update := []
  deriving DecidableEq, Repr

namespace ChangeReport

/-- The last record of an id. -/
def find? (records : List Record) (id : String) : Option Record :=
  records.reverse.find? fun record => record.id == id

/-- The ids of a list of records, sorted, each once. -/
def ids (records : List Record) : List String :=
  ((records.map Record.id).eraseDups).mergeSort fun a b => decide (a ≤ b)

/-- The report of what changed from the old records to the new ones. -/
def compare (old new : List Record) : ChangeReport :=
  { added := (ids new).filterMap fun id =>
      if (find? old id).isNone then find? new id else none
    removed := (ids old).filterMap fun id =>
      if (find? new id).isNone then find? old id else none
    updated := (ids old).filterMap fun id =>
      match find? old id, find? new id with
      | some before, some after =>
        if Snapshot.canonicalText before == Snapshot.canonicalText after then none
        else some { before, after }
      | _, _ => none }

/-- Nothing changed. -/
def isEmpty (r : ChangeReport) : Bool :=
  r.added.isEmpty && r.removed.isEmpty && r.updated.isEmpty

/-- A record as a JSON object. -/
def recordJson (r : Record) : Json :=
  .obj (r.entries.map fun (key, value) => (key, .str value))

/-- The report as a JSON object. -/
def toJson (r : ChangeReport) : Json :=
  .obj
    [("added", .arr (r.added.map recordJson)),
     ("removed", .arr (r.removed.map recordJson)),
     ("updated", .arr (r.updated.map fun u =>
        .obj [("before", recordJson u.before), ("after", recordJson u.after)]))]

/-- The report as the text of a file. -/
def render (r : ChangeReport) : String :=
  r.toJson.pretty ++ "\n"

/-- A summary of the report for the reader of a command. -/
def summary (r : ChangeReport) (output : String) : String :=
  Text.join "\n" <|
    ["OUTPUT: " ++ output,
     "ADDED: " ++ toString r.added.length,
     "REMOVED: " ++ toString r.removed.length,
     "UPDATED: " ++ toString r.updated.length] ++
    r.added.map (fun record => "  + " ++ record.id) ++
    r.removed.map (fun record => "  - " ++ record.id) ++
    r.updated.map fun update => "  ~ " ++ update.after.id

end ChangeReport

end Catalog
