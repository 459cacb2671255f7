import Catalog.FileTree.Write
import Catalog.Record.Basic
import Catalog.Yaml.Printer
import Catalog.Yaml.Value

/-!
# Snapshots

A snapshot is a list of records, published as a YAML file.
-/

namespace Catalog.Snapshot

/-- The name of the kind of a value. -/
def kindName : Yaml.Value → String
  | .null => "NoneType"
  | .bool _ => "bool"
  | .int _ => "int"
  | .float _ => "float"
  | .str _ => "str"
  | .bytes => "bytes"
  | .date => "date"
  | .datetime => "datetime"
  | .list _ => "list"
  | .dict _ => "dict"
  | .set => "set"
  | .pair => "tuple"

/-- A value as a field of a record. -/
def fieldValue : Yaml.Value → FieldValue
  | .null => .null
  | .int n => .int n
  | .float x => .float x
  | .str s => .text s
  | value => .other (kindName value)

/-- The value under a key; of a repeated key the last one counts. -/
def lookupKey (entries : List (Yaml.Value × Yaml.Value)) (key : String) : Option FieldValue :=
  (entries.reverse.find? fun (k, _) =>
    match k with
    | .str s => s == key
    | _ => false).map fun (_, value) => fieldValue value

/-- The record of one entry of a snapshot. -/
def entryRecord (source : String) (index : Nat) : Yaml.Value → Except Failure Record
  | .dict entries =>
    match Record.ofFields (lookupKey entries) with
    | .error (.badField none key kind) => .error (.badField (some (source, index)) key kind)
    | result => result
  | _ => .error (.notAMapping source index)

/-- The records of the entries from number `index` on. -/
def entryRecords (source : String) : Nat → List Yaml.Value → Except Failure (List Record)
  | _, [] => .ok []
  | index, entry :: rest => do
    let record ← entryRecord source index entry
    let records ← entryRecords source (index + 1) rest
    return record :: records

/-- A document shows a list, its entries, and their fields. -/
def documentDepth : Nat := 3

/-- The records that a text holds. The source is named in failures. -/
def parse (source text : String) : Except Failure (List Record) :=
  match Yaml.load documentDepth text with
  | .error .malformed => .error (.malformedSnapshot source)
  | .error cause => .error (.fault (.yaml cause))
  | .ok .null => .ok []
  | .ok (.list items) => entryRecords source 0 items
  | .ok value => .error (.notAList source (kindName value))

/-- The text of a list of records. -/
def render (records : List Record) : String :=
  Yaml.Printer.sequence (records.map Record.entries)

/-- The text of a single record, with its keys in alphabetical order. -/
def canonicalText (r : Record) : String :=
  Yaml.Printer.mapping (r.entries.mergeSort fun a b => decide (a.1 ≤ b.1))

/-- The records of the snapshot at a path, or none if there is no file. -/
def load (tree : FileTree) (path : Path) : Except Failure (Option (List Record)) :=
  match tree.readText path with
  | .error (.system .notFound) => .ok none
  | .error (.system .invalidName) => .error (.fault (.system .invalidName))
  | .error _ => .error (.unreadableSnapshot path.text)
  | .ok text => (parse path.text text).map some

/-- Writes the records to the snapshot at a path. -/
def save (tree : FileTree) (path : Path) (records : List Record) :
    FileTree × Except Failure Unit :=
  match tree.writeText path (render records) with
  | (tree, .ok ()) => (tree, .ok ())
  | (tree, .error .invalidName) => (tree, .error (.fault (.system .invalidName)))
  | (tree, .error _) => (tree, .error (.unwritableSnapshot path.text))

end Catalog.Snapshot
