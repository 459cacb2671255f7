/-!
# Character classes as lists of ranges

A class of characters is a list of code point intervals, both ends included. The tables of
`Catalog.Text.Case`, `Catalog.Text.Printable` and `Catalog.Text.Identifier` are of this form.
-/

namespace Catalog.Text

/-- Intervals of code points, both ends included. -/
abbrev Ranges := List (Nat × Nat)

/-- A character belongs to the class when one of the intervals holds its code point. -/
def Ranges.contains (table : Ranges) (c : Char) : Bool :=
  table.any fun range => range.1 ≤ c.toNat && c.toNat ≤ range.2

end Catalog.Text
