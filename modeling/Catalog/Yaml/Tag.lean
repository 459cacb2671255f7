import Catalog.Number.Numeral
import Catalog.Yaml.Error

/-!
# Tags of scalars

A plain scalar has the type that its spelling shows: a truth value, a number, a timestamp, nothing
at all, or one of the two special keys; every other scalar is text. The tests below are the
spellings of each type. A single line feed at the end of a scalar does not count.
-/

namespace Catalog.Yaml.Tag

/-- The full tag of one of the standard types. -/
def standard (name : String) : String := "tag:yaml.org,2002:" ++ name

def null : String := standard "null"
def bool : String := standard "bool"
def int : String := standard "int"
def float : String := standard "float"
def str : String := standard "str"
def binary : String := standard "binary"
def timestamp : String := standard "timestamp"
def seq : String := standard "seq"
def map : String := standard "map"
def set : String := standard "set"
def omap : String := standard "omap"
def pairs : String := standard "pairs"
def merge : String := standard "merge"
def value : String := standard "value"
def indicator : String := standard "yaml"

/-- The words for truth values. -/
def truthWords : List String :=
  ["yes", "Yes", "YES", "no", "No", "NO", "true", "True", "TRUE", "false", "False", "FALSE",
   "on", "On", "ON", "off", "Off", "OFF"]

/-- The words for no value. -/
def nullWords : List String := ["", "~", "null", "Null", "NULL"]

def isDigitOrGap (c : Char) : Bool := c.isDigit || c == '_'

/-- The characters after an optional sign. -/
def afterSign (cs : List Char) : List Char := (Numeral.splitSign cs).2

/-- One part of a number in base sixty: a digit below sixty. -/
def isSixty : List Char → Bool
  | [a] => a.isDigit
  | [a, b] => '0' ≤ a && a ≤ '5' && b.isDigit
  | _ => false

/-- A digit above zero, digits and gaps, then parts in base sixty. -/
def isWhole (cs : List Char) : Bool :=
  match Text.splitChars ':' cs with
  | (first :: more) :: sixties =>
    '1' ≤ first && first ≤ '9' && more.all isDigitOrGap && sixties.all isSixty
  | _ => false

/-- The spellings of a whole number. -/
def isInt (cs : List Char) : Bool :=
  match afterSign cs with
  | ['0'] => true
  | '0' :: 'b' :: rest => !rest.isEmpty && rest.all fun c => c == '0' || c == '1' || c == '_'
  | '0' :: 'x' :: rest =>
    !rest.isEmpty && rest.all fun c =>
      isDigitOrGap c || ('a' ≤ c && c ≤ 'f') || ('A' ≤ c && c ≤ 'F')
  | '0' :: rest => rest.all fun c => ('0' ≤ c && c ≤ '7') || c == '_'
  | rest => isWhole rest

/-- An exponent with its sign, or nothing. -/
def isExponent : List Char → Bool
  | [] => true
  | e :: sign :: digits =>
    (e == 'e' || e == 'E') && (sign == '-' || sign == '+') && !digits.isEmpty &&
      digits.all Char.isDigit
  | _ => false

/-- Digits and gaps after a point, then an optional exponent. -/
def isFraction (cs : List Char) : Bool := isExponent (cs.dropWhile isDigitOrGap)

/-- Digits and gaps that begin with a digit. -/
def isDigits : List Char → Bool
  | [] => false
  | c :: rest => c.isDigit && rest.all isDigitOrGap

/-- The spellings of a floating point number. -/
def isFloat (cs : List Char) : Bool :=
  let unsigned := afterSign cs
  let word := String.ofList unsigned
  let (whole, rest) := Numeral.cutAt (· == '.') unsigned
  let decimal := isDigits whole && !rest.isEmpty && isFraction (rest.drop 1)
  let point := match cs with
    | '.' :: c :: more => c.isDigit && isFraction (c :: more)
    | _ => false
  let sixties := match Text.splitChars ':' whole with
    | first :: part :: parts =>
      isDigits first && (part :: parts).all isSixty && !rest.isEmpty &&
        (rest.drop 1).all isDigitOrGap
    | _ => false
  let infinite := word == ".inf" || word == ".Inf" || word == ".INF"
  let text := String.ofList cs
  decimal || point || sixties || infinite || text == ".nan" || text == ".NaN" || text == ".NAN"

/-- A date, and a time of day with its distance from universal time in minutes. -/
structure Timestamp where
  year : Nat
  month : Nat
  day : Nat
  /-- Month and day have two digits each. -/
  full : Bool
  time : Option (Nat × Nat × Nat)
  zone : Option Int
  deriving Repr

/-- A number of at least `least` and at most `most` digits, and the characters after it. -/
def number? (least most : Nat) (cs : List Char) : Option (Nat × Nat × List Char) :=
  let digits := (cs.take most).takeWhile Char.isDigit
  if digits.length < least then none
  else
    some (Numeral.valueOf 10 (digits.filterMap Numeral.digit?), digits.length,
      cs.drop digits.length)

/-- The zone at the end of a timestamp. -/
def zone? (cs : List Char) : Option (Option Int) :=
  match cs.dropWhile fun c => c == ' ' || c == '\t' with
  | [] => if cs.isEmpty then some none else none
  | ['Z'] => some (some 0)
  | sign :: rest =>
    if sign == '+' || sign == '-' then
      match number? 1 2 rest with
      | none => none
      | some (hours, _, rest) =>
        let minutes : Option Nat := match rest with
          | [] => some 0
          | ':' :: rest =>
            match number? 2 2 rest with
            | some (m, _, []) => some m
            | _ => none
          | _ => none
        minutes.map fun m =>
          let total : Int := hours * 60 + m
          some (if sign == '-' then -total else total)
    else none

/-- The time of day of a timestamp, after the date. -/
def time? (cs : List Char) : Option ((Nat × Nat × Nat) × Option Int) :=
  let body : Option (List Char) := match cs with
    | 'T' :: rest => some rest
    | 't' :: rest => some rest
    | c :: _ =>
      if c == ' ' || c == '\t' then some (cs.dropWhile fun c => c == ' ' || c == '\t') else none
    | [] => none
  match body with
  | none => none
  | some body =>
    match number? 1 2 body with
    | some (hour, _, ':' :: rest) =>
      match number? 2 2 rest with
      | some (minute, _, ':' :: rest) =>
        match number? 2 2 rest with
        | some (second, _, rest) =>
          let rest := match rest with
            | '.' :: digits => digits.dropWhile Char.isDigit
            | _ => rest
          (zone? rest).map fun zone => ((hour, minute, second), zone)
        | none => none
      | _ => none
    | _ => none

/-- The timestamp that the characters spell. -/
def timestamp? (cs : List Char) : Option Timestamp :=
  match number? 4 4 cs with
  | some (year, _, '-' :: rest) =>
    match number? 1 2 rest with
    | some (month, monthDigits, '-' :: rest) =>
      match number? 1 2 rest with
      | some (day, dayDigits, rest) =>
        let full := monthDigits = 2 && dayDigits = 2
        if rest.isEmpty then some { year, month, day, full, time := none, zone := none }
        else
          (time? rest).map fun (time, zone) =>
            { year, month, day, full, time := some time, zone }
      | none => none
    | _ => none
  | _ => none

/-- The spellings of a timestamp in a plain scalar: without a time of day the date is in full. -/
def isTimestamp (cs : List Char) : Bool :=
  match timestamp? cs with
  | some t => t.full || t.time.isSome
  | none => false

/-- The characters without a line feed at their end. -/
def withoutLastBreak (cs : List Char) : List Char :=
  if cs.getLast? == some '\n' then cs.dropLast else cs

/-- The tag that the spelling of a plain scalar shows. -/
def ofPlain (text : String) : String :=
  let cs := withoutLastBreak text.toList
  let word := String.ofList cs
  if truthWords.contains word then bool
  else if isFloat cs then float
  else if isInt cs then int
  else if word == "<<" then merge
  else if nullWords.contains word && text != "\n" then null
  else if isTimestamp cs then timestamp
  else if word == "=" then value
  else if word == "!" || word == "&" || word == "*" then indicator
  else str

end Catalog.Yaml.Tag
