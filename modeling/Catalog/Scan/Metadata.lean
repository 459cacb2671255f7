import Catalog.Record.Basic
import Catalog.Resolve.Constant
import Catalog.Scan.Tracing

/-!
# Metadata in the source

A record is written as a call of the metadata class, with the fields as named arguments. A field
whose text cannot be found is empty, and a record without an id is none.
-/

namespace Catalog.Metadata

open Syntax

/-- The record with the field of the given name set. Other names are not fields. -/
def setField (r : Record) (name text : String) : Record :=
  match name with
  | "id" => { r with id := text }
  | "title" => { r with title := text }
  | "type" => { r with type := text }
  | "kind" => { r with type := text }
  | "version" => { r with version := text }
  | "author" => { r with author := text }
  | "description" => { r with description := text }
  | _ => r

/-- The names of fields. -/
def fieldNames : List String :=
  ["id", "title", "type", "kind", "version", "author", "description"]

/-- The record with one more argument. -/
def addArgument (units : List SourceUnit) (u : SourceUnit) (r : Record) (argument : Node) :
    Query Record :=
  match argument with
  | .keyword _ (some name) value => do
    if fieldNames.contains name then return setField r name (← Resolve.fieldText units u value)
    else return r
  | _ => return r

/-- The record that a call's named arguments give, if it has an id. -/
def ofArguments? (units : List SourceUnit) (u : SourceUnit) (arguments : List Node) :
    Query (Option Record) := do
  let r ← arguments.foldlM (addArgument units u) { id := "" }
  return if r.id.isEmpty then none else some r

/-- The record that a node gives, if it is a call of the metadata class. -/
def ofNode? (units : List SourceUnit) (target : String) (u : SourceUnit) (n : Node) :
    Query (Option Record) :=
  match n with
  | .call _ func _ keywords => do
    let q ← Resolve.qualifiedName units u func
    if ← Resolve.matchesTarget units q target then ofArguments? units u keywords
    else return none
  | _ => return none

/-- The first record in statements and everything inside of them. -/
def find? (units : List SourceUnit) (target : String) (u : SourceUnit) (body : List Node) :
    Query (Option Record) :=
  Query.firstSome (ofNode? units target u) (Node.preorder body)

end Catalog.Metadata
