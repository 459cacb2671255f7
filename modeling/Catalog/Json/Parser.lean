import Catalog.Json.Basic
import Catalog.Number.Numeral

/-!
# Reading JSON

The usual grammar with three more number words, `NaN`, `Infinity` and `-Infinity`. Of a repeated
key the last value counts. Reading fails for one of three causes: the text is not JSON, a whole
number has too many digits, or the values are nested too deep.
-/

namespace Catalog.Json

/-- Why a text was not read. -/
inductive ReadError where
  | malformed
  | tooManyDigits
  | tooDeep
  deriving DecidableEq, Repr

/-- Values may be nested this deep. -/
def maxDepth : Nat := 990

def isSpace (c : Char) : Bool :=
  c == ' ' || c == '\t' || c == '\n' || c == '\r'

/-- The characters after leading white space. -/
def skipSpace (cs : List Char) : List Char :=
  cs.dropWhile isSpace

/-- The characters after the word `word`, if they begin with it. -/
def afterWord? (word : String) (cs : List Char) : Option (List Char) :=
  if word.toList.isPrefixOf cs then some (cs.drop word.length) else none

/-- The value of four hexadecimal digits, and the characters after them. -/
def hex4? : List Char → Option (Nat × List Char)
  | a :: b :: c :: d :: rest =>
    let digit (x : Char) : Option Nat := if x.toNat < 0x80 then Numeral.digit? x else none
    match digit a, digit b, digit c, digit d with
    | some a, some b, some c, some d => some (((a * 16 + b) * 16 + c) * 16 + d, rest)
    | _, _, _, _ => none
  | _ => none

/-- The character of an escape of the form `\uXXXX`, where two escapes may form a pair. Half of a
pair is no character: the replacement character stands for it. -/
def unicodeEscape? (cs : List Char) : Option (Char × List Char) :=
  match hex4? cs with
  | none => none
  | some (high, rest) =>
    if 0xD800 ≤ high && high < 0xDC00 then
      match rest with
      | '\\' :: 'u' :: more =>
        match hex4? more with
        | some (low, rest') =>
          if 0xDC00 ≤ low && low < 0xE000 then
            some (Char.ofNat (0x10000 + (high - 0xD800) * 0x400 + (low - 0xDC00)), rest')
          else some ('\uFFFD', rest)
        | none => none
      | _ => some ('\uFFFD', rest)
    else if 0xDC00 ≤ high && high < 0xE000 then some ('\uFFFD', rest)
    else some (Char.ofNat high, rest)

/-- The character that a letter after a backslash stands for. -/
def simpleEscape? : Char → Option Char
  | '"' => some '"'
  | '\\' => some '\\'
  | '/' => some '/'
  | 'b' => some '\x08'
  | 'f' => some '\x0c'
  | 'n' => some '\n'
  | 'r' => some '\r'
  | 't' => some '\t'
  | _ => none

/-- The rest of a string after its opening quote; `acc` holds what was read, in reverse. -/
def stringFrom : Nat → List Char → List Char → Option (String × List Char)
  | 0, _, _ => none
  | fuel + 1, acc, cs =>
    match cs with
    | [] => none
    | '"' :: rest => some (String.ofList acc.reverse, rest)
    | '\\' :: 'u' :: rest =>
      match unicodeEscape? rest with
      | some (c, rest') => stringFrom fuel (c :: acc) rest'
      | none => none
    | '\\' :: e :: rest =>
      match simpleEscape? e with
      | some c => stringFrom fuel (c :: acc) rest
      | none => none
    | c :: rest => if c.toNat < 0x20 then none else stringFrom fuel (c :: acc) rest

def isDigit (c : Char) : Bool := c.isDigit

/-- Leading digits and the characters after them. -/
def spanDigits (cs : List Char) : List Char × List Char :=
  (cs.takeWhile isDigit, cs.dropWhile isDigit)

/-- The digits before the point: a single zero, or digits without a leading zero. -/
def wholePart? (cs : List Char) : Option (List Char × List Char) :=
  match cs with
  | '0' :: rest => some (['0'], rest)
  | c :: _ => if isDigit c then some (spanDigits cs) else none
  | [] => none

/-- The digits after a point, if a point and a digit follow. -/
def fractionPart (cs : List Char) : List Char × List Char :=
  match cs with
  | '.' :: rest =>
    match spanDigits rest with
    | ([], _) => ([], cs)
    | found => found
  | _ => ([], cs)

/-- The exponent, if one follows. -/
def exponentPart (cs : List Char) : Option Int × List Char :=
  match cs with
  | c :: rest =>
    if c == 'e' || c == 'E' then
      let (negative, digits) := Numeral.splitSign rest
      match spanDigits digits with
      | ([], _) => (none, cs)
      | (ds, more) =>
        let n := Numeral.valueOf 10 (ds.filterMap Numeral.digit?)
        (some (if negative then -(n : Int) else n), more)
    else (none, cs)
  | [] => (none, cs)

/-- A number, with or without a sign. -/
def number (cs : List Char) : Except ReadError (Json × List Char) :=
  let (negative, body) :=
    match cs with
    | '-' :: rest => (true, rest)
    | _ => (false, cs)
  match wholePart? body with
  | none => .error .malformed
  | some (whole, rest) =>
    let (fraction, rest) := fractionPart rest
    let (exponent, rest) := exponentPart rest
    let digits := (whole ++ fraction).filterMap Numeral.digit?
    if fraction.isEmpty && exponent.isNone then
      if Numeral.maxDigits < digits.length then .error .tooManyDigits
      else
        let n := Numeral.valueOf 10 digits
        .ok (.int (if negative then -(n : Int) else n), rest)
    else
      let scale := exponent.getD 0 - (fraction.length : Int)
      .ok (.float (Binary64.ofDecimal negative (Numeral.valueOf 10 digits) scale), rest)

/-- A value that is not a collection. -/
def atom (cs : List Char) : Except ReadError (Json × List Char) :=
  match cs with
  | '"' :: rest =>
    match stringFrom (rest.length + 1) [] rest with
    | some (s, rest') => .ok (.str s, rest')
    | none => .error .malformed
  | _ =>
    match afterWord? "null" cs, afterWord? "true" cs, afterWord? "false" cs, afterWord? "NaN" cs,
        afterWord? "Infinity" cs, afterWord? "-Infinity" cs with
    | some rest, _, _, _, _, _ => .ok (.null, rest)
    | _, some rest, _, _, _, _ => .ok (.bool true, rest)
    | _, _, some rest, _, _, _ => .ok (.bool false, rest)
    | _, _, _, some rest, _, _ => .ok (.float .notANumber, rest)
    | _, _, _, _, some rest, _ => .ok (.float (.infinite false), rest)
    | _, _, _, _, _, some rest => .ok (.float (.infinite true), rest)
    | none, none, none, none, none, none => number cs

mutual

/-- A value at nesting depth `depth`, with the characters after it. -/
def valueFrom : Nat → Nat → List Char → Except ReadError (Json × List Char)
  | 0, _, _ => .error .malformed
  | fuel + 1, depth, cs =>
    match cs with
    | '[' :: rest =>
      if maxDepth < depth then .error .tooDeep
      else
        match skipSpace rest with
        | ']' :: rest' => .ok (.arr [], rest')
        | body => itemsFrom fuel (depth + 1) [] body
    | '\x7b' :: rest =>
      if maxDepth < depth then .error .tooDeep
      else
        match skipSpace rest with
        | '\x7d' :: rest' => .ok (.obj [], rest')
        | body => membersFrom fuel (depth + 1) [] body
    | _ => atom cs

/-- The items of an array from the next one on; `acc` holds the earlier ones in reverse. -/
def itemsFrom : Nat → Nat → List Json → List Char → Except ReadError (Json × List Char)
  | 0, _, _, _ => .error .malformed
  | fuel + 1, depth, acc, cs =>
    match valueFrom fuel depth cs with
    | .error e => .error e
    | .ok (item, rest) =>
      match skipSpace rest with
      | ']' :: rest' => .ok (.arr (item :: acc).reverse, rest')
      | ',' :: rest' => itemsFrom fuel depth (item :: acc) (skipSpace rest')
      | _ => .error .malformed

/-- The members of an object from the next key on. -/
def membersFrom :
    Nat → Nat → List (String × Json) → List Char → Except ReadError (Json × List Char)
  | 0, _, _, _ => .error .malformed
  | fuel + 1, depth, acc, cs =>
    match cs with
    | '"' :: body =>
      match stringFrom (body.length + 1) [] body with
      | none => .error .malformed
      | some (key, afterKey) =>
        match skipSpace afterKey with
        | ':' :: afterColon =>
          match valueFrom fuel depth (skipSpace afterColon) with
          | .error e => .error e
          | .ok (value, rest) =>
            let members := setMember acc key value
            match skipSpace rest with
            | '\x7d' :: rest' => .ok (.obj members, rest')
            | ',' :: rest' => membersFrom fuel depth members (skipSpace rest')
            | _ => .error .malformed
        | _ => .error .malformed
    | _ => .error .malformed

end

/-- The value that a text spells, with white space around it. -/
def parse (s : String) : Except ReadError Json :=
  let cs := s.toList
  match valueFrom (2 * cs.length + 2) 0 (skipSpace cs) with
  | .error e => .error e
  | .ok (value, rest) => if (skipSpace rest).isEmpty then .ok value else .error .malformed

end Catalog.Json
