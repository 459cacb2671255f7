import Catalog.Number.Binary64

/-!
# JSON values

Whole numbers and floating point numbers are different values, and an object keeps its members in
the order in which their keys first appeared.
-/

namespace Catalog

/-- A JSON value. -/
inductive Json where
  | null
  | bool (value : Bool)
  | int (value : Int)
  | float (value : Binary64)
  | str (value : String)
  | arr (items : List Json)
  | obj (members : List (String × Json))
  deriving Repr, Inhabited

namespace Json

/-- The value under a key of an object. -/
def get? : Json → String → Option Json
  | obj members, key => members.lookup key
  | _, _ => none

/-- The members of an object with `key` set to `value`: a key that is already there keeps its
place. -/
def setMember (members : List (String × Json)) (key : String) (value : Json) :
    List (String × Json) :=
  if members.any fun member => member.1 == key then
    members.map fun member => if member.1 == key then (key, value) else member
  else members ++ [(key, value)]

end Json

end Catalog
