/-!
# Short previews of long text

A preview shows as much of a text as fits in a number of bytes of its UTF-8 form. The form is cut
at that number of bytes, wherever this falls, and the characters are read from what is left; of a
character that was cut through nothing is shown. Text that was cut is followed by three dots.
-/

namespace Catalog.Text

/-- The characters whose UTF-8 forms stand in `bytes` from the place `i` on. A byte at which no
character begins is passed over. -/
def charsFrom (bytes : ByteArray) (i : Nat) : List Char :=
  if i < bytes.size then
    match bytes.utf8DecodeChar? i with
    | some c => c :: charsFrom bytes (i + c.utf8Size)
    | none => charsFrom bytes (i + 1)
  else []
termination_by bytes.size - i
decreasing_by
  · have := c.utf8Size_pos
    omega
  · omega

/-- The number of bytes that a limit leaves of a text of `size` bytes: a negative limit counts
from the end. -/
def bytesKept (size : Nat) (limit : Int) : Nat :=
  if limit < 0 then (size + limit).toNat else limit.toNat

/-- The text itself if it has at most `limit` bytes, and otherwise the characters of the bytes that
the limit leaves, with three dots. -/
def preview (limit : Int) (s : String) : String :=
  if s.utf8ByteSize ≤ limit then s
  else
    String.ofList (charsFrom (s.toUTF8.extract 0 (bytesKept s.utf8ByteSize limit)) 0) ++ "..."

end Catalog.Text
