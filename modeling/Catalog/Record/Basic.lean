import Catalog.Failure
import Catalog.Number.Numeral
import Catalog.Number.Shortest

/-!
# Metadata records

A record describes one adapter in six texts. In a snapshot the fields have the keys `Id`, `Title`
and so on; keys that begin with a small letter are read as well, where the other is missing.

A field that is a number is read as its text, and one without a value as the empty text. A field
of any other kind is a failure.
-/

namespace Catalog

/-- A metadata record. -/
structure Record where
  id : String
  title : String := ""
  type : String := ""
  version : String := ""
  author : String := ""
  description : String := ""
  deriving DecidableEq, Repr, Inhabited

/-- The value of a field before it is read as text. -/
inductive FieldValue where
  | null
  | text (s : String)
  | int (n : Int)
  | float (x : Binary64)
  /-- A value that is not a field, with the name of its kind. -/
  | other (kind : String)
  deriving Repr

namespace Record

/-- The fields with their keys, in the order in which they are written. -/
def entries (r : Record) : List (String × String) :=
  [("Id", r.id), ("Title", r.title), ("Type", r.type), ("Version", r.version),
   ("Author", r.author), ("Description", r.description)]

/-- A field is looked up under its key, and under its name if that key is missing. -/
def lookupField (find : String → Option FieldValue) (key name : String) : FieldValue :=
  match find key with
  | some value => value
  | none => (find name).getD .null

/-- The text of a field. -/
def fieldText (key : String) : FieldValue → Except Failure String
  | .null => .ok ""
  | .text s => .ok s
  | .int n =>
    match Numeral.integerText? n with
    | some s => .ok s
    | none => .error (.fault .tooManyDigits)
  | .float x => .ok x.text
  | .other kind => .error (.badField none key kind)

/-- The record whose fields `find` looks up. -/
def ofFields (find : String → Option FieldValue) : Except Failure Record := do
  let field (key name : String) : Except Failure String :=
    fieldText key (lookupField find key name)
  let id ← field "Id" "id"
  let title ← field "Title" "title"
  let type ← field "Type" "type"
  let version ← field "Version" "version"
  let author ← field "Author" "author"
  let description ← field "Description" "description"
  return { id, title, type, version, author, description }

/-- Sorted by id, in the order of code points; records with the same id keep their order. -/
def sortById (records : List Record) : List Record :=
  records.mergeSort fun a b => decide (a.id ≤ b.id)

end Record

end Catalog
