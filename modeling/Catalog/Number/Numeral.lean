import Catalog.Number.Binary64
import Catalog.Text.Blank

/-!
# Reading numerals

Whole and floating point numbers as text: blanks around the numeral, a sign, single underscores
between digits, and the decimal digits of any script. A whole number in base ten has at most 4300
digits, in reading as in writing.
-/

namespace Catalog.Numeral

/-- The code points of the zeros of the scripts that have decimal digits. The ten digits of a
script follow one another. -/
def zeros : List Nat :=
  [0x30, 0x660, 0x6F0, 0x7C0, 0x966, 0x9E6, 0xA66, 0xAE6, 0xB66, 0xBE6, 0xC66, 0xCE6, 0xD66, 0xDE6,
   0xE50, 0xED0, 0xF20, 0x1040, 0x1090, 0x17E0, 0x1810, 0x1946, 0x19D0, 0x1A80, 0x1A90, 0x1B50,
   0x1BB0, 0x1C40, 0x1C50, 0xA620, 0xA8D0, 0xA900, 0xA9D0, 0xA9F0, 0xAA50, 0xABF0, 0xFF10, 0x104A0,
   0x10D30, 0x11066, 0x110F0, 0x11136, 0x111D0, 0x112F0, 0x11450, 0x114D0, 0x11650, 0x116C0,
   0x11730, 0x118E0, 0x11950, 0x11C50, 0x11D50, 0x11DA0, 0x16A60, 0x16AC0, 0x16B50, 0x1D7CE,
   0x1D7D8, 0x1D7E2, 0x1D7EC, 0x1D7F6, 0x1E140, 0x1E2F0, 0x1E950, 0x1FBF0]

/-- The value of a decimal digit of any script. -/
def decimalDigit? (c : Char) : Option Nat :=
  (zeros.find? fun first => first ≤ c.toNat && c.toNat < first + 10).map fun first =>
    c.toNat - first

/-- The value of a digit in bases up to sixteen; letters stand for ten to fifteen. -/
def digit? (c : Char) : Option Nat :=
  match decimalDigit? c with
  | some d => some d
  | none =>
    let n := c.toLower.toNat
    if 97 ≤ n && n ≤ 102 then some (n - 87) else none

/-- The digits of a numeral in the given base, with single underscores between them. The flag
says that the last character read was a digit. -/
def digitsFrom (base : Nat) : Bool → List Nat → List Char → Option (List Nat)
  | afterDigit, acc, [] => if afterDigit then some acc.reverse else none
  | afterDigit, acc, c :: rest =>
    if c == '_' then if afterDigit then digitsFrom base false acc rest else none
    else
      match digit? c with
      | some d => if d < base then digitsFrom base true (d :: acc) rest else none
      | none => none

/-- The value of a list of digits, most significant first. -/
def valueOf (base : Nat) (digits : List Nat) : Nat :=
  digits.foldl (fun total d => total * base + d) 0

/-- The most digits that a whole number in base ten may have. -/
def maxDigits : Nat := 4300

/-- The unsigned number in the given base that the characters spell. -/
def natural? (base : Nat) (cs : List Char) : Option Nat :=
  match digitsFrom base false [] cs with
  | none => none
  | some digits =>
    if base = 10 ∧ maxDigits < digits.length then none else some (valueOf base digits)

/-- The sign of a numeral and the characters after it. -/
def splitSign : List Char → Bool × List Char
  | '-' :: rest => (true, rest)
  | '+' :: rest => (false, rest)
  | cs => (false, cs)

/-- The whole number that a text spells in the given base, with blanks around it. -/
def integer? (base : Nat) (s : String) : Option Int :=
  let (negative, cs) := splitSign (Text.trimChars Text.isBlank s.toList)
  (natural? base cs).map fun n => if negative then -(n : Int) else n

/-- The letter that marks a base after a leading zero. -/
def baseMark? (base : Nat) : Option Char :=
  if base = 2 then some 'b' else if base = 8 then some 'o' else if base = 16 then some 'x' else none

/-- The digits after the mark of the base, and after an underscore behind it. -/
def afterBaseMark (base : Nat) (cs : List Char) : List Char :=
  match cs with
  | '0' :: mark :: rest =>
    if baseMark? base == some mark.toLower then
      match rest with
      | '_' :: more => more
      | _ => rest
    else cs
  | _ => cs

/-- The whole number that a text spells in the given base, where the mark of the base may stand
before its digits. -/
def markedInteger? (base : Nat) (s : String) : Option Int :=
  let (negative, cs) := splitSign (Text.trimChars Text.isBlank s.toList)
  (natural? base (afterBaseMark base cs)).map fun n => if negative then -(n : Int) else n

/-- The text of a whole number, if it has no more digits than allowed. -/
def integerText? (n : Int) : Option String :=
  if maxDigits < (Nat.toDigits 10 n.natAbs).length then none else some (toString n)

/-- Cuts the characters at the first one that satisfies `p`. -/
def cutAt (p : Char → Bool) (cs : List Char) : List Char × List Char :=
  (cs.takeWhile fun c => !p c, cs.dropWhile fun c => !p c)

/-- An optional group of digits: no character at all, or a numeral. -/
def digitGroup? (cs : List Char) : Option (List Nat) :=
  if cs.isEmpty then some [] else digitsFrom 10 false [] cs

/-- The exponent part of a floating point numeral, without its mark. -/
def exponent? (cs : List Char) : Option Int :=
  let (negative, digits) := splitSign cs
  (digitsFrom 10 false [] digits).map fun ds =>
    let n := valueOf 10 ds
    if negative then -(n : Int) else n

/-- A floating point numeral without sign: digits, a point, digits, an exponent, with at least
one digit before the exponent. -/
def decimal? (negative : Bool) (cs : List Char) : Option Binary64 :=
  let (head, tail) := cutAt (fun c => c == 'e' || c == 'E') cs
  let exponent := if tail.isEmpty then some 0 else exponent? (tail.drop 1)
  let (whole, fraction) := cutAt (· == '.') head
  match exponent, digitGroup? whole, digitGroup? (fraction.drop 1) with
  | some e, some ds, some fs =>
    if ds.isEmpty && fs.isEmpty then none
    else some (Binary64.ofDecimal negative (valueOf 10 (ds ++ fs)) (e - (fs.length : Int)))
  | _, _, _ => none

/-- The floating point number that a text spells, with blanks around it; `inf`, `infinity` and
`nan` in any case are numerals too. -/
def float? (s : String) : Option Binary64 :=
  let (negative, cs) := splitSign (Text.trimChars Text.isBlank s.toList)
  let word := String.ofList (cs.map Char.toLower)
  if word == "inf" || word == "infinity" then some (.infinite negative)
  else if word == "nan" then some .notANumber
  else decimal? negative cs

end Catalog.Numeral
