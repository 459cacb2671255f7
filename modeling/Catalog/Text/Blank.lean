import Catalog.Text.Basic

/-!
# Blanks and line breaks

The white space characters, the removal of white space from the two ends of a text, and the
lines of a text. A line ends at any of the line breaking characters; a carriage return followed
by a line feed is one break.
-/

namespace Catalog.Text

/-- White space: the control characters that move the cursor, the information separators, and
the space characters of the standard. -/
def isBlank (c : Char) : Bool :=
  let n := c.toNat
  (0x09 ≤ n && n ≤ 0x0D) || (0x1C ≤ n && n ≤ 0x20) || n == 0x85 || n == 0xA0 || n == 0x1680 ||
    (0x2000 ≤ n && n ≤ 0x200A) || n == 0x2028 || n == 0x2029 || n == 0x202F || n == 0x205F ||
    n == 0x3000

/-- Characters at which a line ends. -/
def isLineBreak (c : Char) : Bool :=
  let n := c.toNat
  (0x0A ≤ n && n ≤ 0x0D) || (0x1C ≤ n && n ≤ 0x1E) || n == 0x85 || n == 0x2028 || n == 0x2029

/-- The text without white space at its two ends. -/
def strip (s : String) : String :=
  String.ofList (trimChars isBlank s.toList)

/-- The lines of `cs`, where `line` holds the characters of the current line in reverse. A break
at the end of the text opens no further line. -/
def linesFrom (line : List Char) : List Char → List (List Char)
  | [] => if line.isEmpty then [] else [line.reverse]
  | '\r' :: '\n' :: rest => line.reverse :: linesFrom [] rest
  | c :: rest =>
    if isLineBreak c then line.reverse :: linesFrom [] rest else linesFrom (c :: line) rest

/-- The lines of a text, without their breaks. -/
def lines (s : String) : List String :=
  (linesFrom [] s.toList).map String.ofList

/-- Every carriage return, alone or before a line feed, written as one line feed. -/
def unifyBreaksChars : List Char → List Char
  | [] => []
  | '\r' :: '\n' :: rest => '\n' :: unifyBreaksChars rest
  | '\r' :: rest => '\n' :: unifyBreaksChars rest
  | c :: rest => c :: unifyBreaksChars rest

/-- The text with line feeds as its only line ends. -/
def unifyBreaks (s : String) : String :=
  String.ofList (unifyBreaksChars s.toList)

end Catalog.Text
