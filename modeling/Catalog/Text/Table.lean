import Catalog.Text.Basic

/-!
# Tables of characters

Data on characters is written as text: items with blanks between them, each a character or a range
of characters, an equals sign, and numbers with plus signs between them, all in base sixteen. The
tables are about characters outside of ASCII only.
-/

namespace Catalog.Text.Table

/-- The data on the characters from `first` to `last`. -/
structure Item where
  first : Nat
  last : Nat
  values : List Nat
  deriving Repr

/-- The value of a digit in base sixteen. -/
def digit (c : Char) : Nat :=
  if c.isDigit then c.toNat - 48 else c.toNat - 55

/-- The number that digits in base sixteen spell. -/
def number (s : String) : Nat :=
  s.toList.foldl (fun n c => 16 * n + digit c) 0

/-- The item that a text spells. -/
def item? (s : String) : Option Item :=
  match split '=' s with
  | [range, values] =>
    let values := (split '+' values).map number
    match split '-' range with
    | [first, last] => some { first := number first, last := number last, values }
    | [first] => some { first := number first, last := number first, values }
    | _ => none
  | _ => none

/-- The items of some lines. -/
def read (lines : List String) : List Item :=
  (lines.flatMap fun line => (split ' ' line).filterMap item?).filter fun item => 0x80 ≤ item.first

/-- The items that have values, all of them above a bound. -/
def above (bound : Nat) (items : List Item) : List Item :=
  items.filter fun item => !item.values.isEmpty && item.values.all (bound < ·)

/-- The item of a character. -/
def find? (items : List Item) (n : Nat) : Option Item :=
  items.find? fun item => item.first ≤ n && n ≤ item.last

end Catalog.Text.Table
