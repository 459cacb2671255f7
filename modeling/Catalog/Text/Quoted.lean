import Catalog.Text.Basic
import Catalog.Text.Printable

/-!
# Quoted text

Text between quotes for a message: single quotes, unless the text holds a single quote and no
double quote. Backslashes, the quote itself and characters without a visible form are escaped.
-/

namespace Catalog.Text

/-- The digits of `n` in base sixteen, padded with zeros to at least `width` places. -/
def hexDigits (width n : Nat) : List Char :=
  let digits := Nat.toDigits 16 n
  List.replicate (width - digits.length) '0' ++ digits

/-- The single quote character. -/
def singleQuote : Char := Char.ofNat 0x27

/-- A character as it is written between the quotes `quote`. -/
def quoteChar (quote c : Char) : List Char :=
  if c == quote || c == '\\' then ['\\', c]
  else if c == '\t' then ['\\', 't']
  else if c == '\n' then ['\\', 'n']
  else if c == '\r' then ['\\', 'r']
  else if isPrintable c then [c]
  else if c.toNat < 0x100 then '\\' :: 'x' :: hexDigits 2 c.toNat
  else if c.toNat < 0x10000 then '\\' :: 'u' :: hexDigits 4 c.toNat
  else '\\' :: 'U' :: hexDigits 8 c.toNat

/-- The text between quotes. -/
def quoted (s : String) : String :=
  let cs := s.toList
  let quote := if cs.contains singleQuote && !cs.contains '"' then '"' else singleQuote
  String.ofList (quote :: cs.flatMap (quoteChar quote) ++ [quote])

end Catalog.Text
