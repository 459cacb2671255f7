/-!
# Number literals

Whole numbers in four bases, floating point and imaginary numbers, with single underscores between
digits. A number ends where no letter follows, unless the letters are one of the words that may
stand directly after a number.
-/

namespace Catalog.Syntax.Number

/-- A character that can stand in a name. Whether a character outside of ASCII really can is
decided when the whole name is known. -/
def isWordChar (c : Char) : Bool :=
  c.isAlphanum || c == '_' || 0x80 ≤ c.toNat

/-- The characters begin with a word that ends there. -/
def startsWithWord (word : String) (cs : List Char) : Bool :=
  word.toList.isPrefixOf cs && !((cs.drop word.length).head?.any isWordChar)

/-- A number may end before these characters. -/
def endsHere (cs : List Char) : Bool :=
  match cs with
  | 'i' :: c :: _ => c == 'f' || c == 'n' || c == 's'
  | _ =>
    ["and", "else", "for", "or", "not"].any (startsWithWord · cs) || !cs.head?.any isWordChar

/-- The characters after digits with single underscores between them, if an underscore is never
without a digit after it. -/
def afterDigits (p : Char → Bool) : List Char → Option (List Char)
  | [] => some []
  | '_' :: c :: rest => if p c then afterDigits p rest else none
  | ['_'] => none
  | c :: rest => if p c then afterDigits p rest else some (c :: rest)

def isOctal (c : Char) : Bool := '0' ≤ c && c ≤ '7'

def isBinary (c : Char) : Bool := c == '0' || c == '1'

def isHex (c : Char) : Bool := c.isDigit || ('a' ≤ c && c ≤ 'f') || ('A' ≤ c && c ≤ 'F')

/-- The characters after the digits of a number in another base than ten. -/
def afterRadix (p : Char → Bool) (cs : List Char) : Option (List Char) :=
  let body := match cs with
    | '_' :: rest => rest
    | _ => cs
  if body.head?.any p then
    match afterDigits p body with
    | some rest => if !rest.head?.any Char.isDigit && endsHere rest then some rest else none
    | none => none
  else none

/-- What ends a decimal number: an imaginary mark, or nothing. The flag tells which. -/
def afterImaginary (cs : List Char) : Option (Bool × List Char) :=
  match cs with
  | c :: rest =>
    if c == 'j' || c == 'J' then if endsHere rest then some (true, rest) else none
    else if endsHere cs then some (false, cs) else none
  | [] => some (false, [])

/-- What follows the digits before and after the point: an exponent, an imaginary mark. -/
def afterExponent (cs : List Char) : Option (Bool × List Char) :=
  match cs with
  | e :: rest =>
    if e == 'e' || e == 'E' then
      match rest with
      | sign :: more =>
        if sign == '+' || sign == '-' then
          if more.head?.any Char.isDigit then (afterDigits Char.isDigit more).bind afterImaginary
          else none
        else if sign.isDigit then (afterDigits Char.isDigit rest).bind afterImaginary
        else if endsHere cs then some (false, cs) else none
      | [] => if endsHere cs then some (false, cs) else none
    else afterImaginary cs
  | [] => some (false, [])

/-- What follows the point of a number. -/
def afterPoint (cs : List Char) : Option (Bool × List Char) :=
  if cs.head?.any Char.isDigit then (afterDigits Char.isDigit cs).bind afterExponent
  else afterExponent cs

/-- The characters after zeros with single underscores between digits. -/
def afterZeros : List Char → Option (List Char)
  | '_' :: c :: rest =>
    if c.isDigit then if c == '0' then afterZeros rest else some (c :: rest) else none
  | ['_'] => none
  | '0' :: rest => afterZeros rest
  | cs => some cs

/-- Whole numbers in base ten have at most this many digits. -/
def maxDigits : Nat := 4300

/-- The number of digits at the beginning, underscores between them not counted. -/
def digitCount (cs : List Char) : Nat :=
  ((cs.takeWhile fun c => c.isDigit || c == '_').filter Char.isDigit).length

/-- What follows the digits before the point of a number that began with `start`. A number without
point, exponent and imaginary mark is a whole number and may not have too many digits. -/
def afterWhole (start cs : List Char) : Option (Bool × List Char) :=
  match cs with
  | '.' :: rest => afterPoint rest
  | _ =>
    match afterExponent cs with
    | some (imaginary, rest) =>
      let whole := !imaginary && !cs.head?.any fun c => c == 'e' || c == 'E'
      if whole && maxDigits < digitCount start then none else some (imaginary, rest)
    | none => none

/-- The characters after the number at the beginning, and whether it is imaginary. The first
character is a digit, or a point before a digit. -/
def scan (cs : List Char) : Option (Bool × List Char) :=
  match cs with
  | '.' :: rest => afterPoint rest
  | '0' :: mark :: rest =>
    if mark == 'x' || mark == 'X' then (afterRadix isHex rest).map (false, ·)
    else if mark == 'o' || mark == 'O' then (afterRadix isOctal rest).map (false, ·)
    else if mark == 'b' || mark == 'B' then (afterRadix isBinary rest).map (false, ·)
    else
      match afterZeros (mark :: rest) with
      | none => none
      | some body =>
        if body.head?.any Char.isDigit then
          -- digits after leading zeros need a point, an exponent or an imaginary mark
          match afterDigits Char.isDigit body with
          | none => none
          | some tail =>
            match tail with
            | '.' :: more => afterPoint more
            | c :: _ =>
              if c == 'e' || c == 'E' || c == 'j' || c == 'J' then
                match afterExponent tail with
                | some (imaginary, more) =>
                  if more.length < tail.length then some (imaginary, more) else none
                | none => none
              else none
            | [] => none
        else afterWhole [] body
  | _ => (afterDigits Char.isDigit cs).bind (afterWhole cs)

end Catalog.Syntax.Number
