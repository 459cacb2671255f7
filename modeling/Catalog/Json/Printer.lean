import Catalog.Json.Basic
import Catalog.Number.Shortest
import Catalog.Text.Quoted

/-!
# Writing JSON

Two layouts: on one line, and with one item a line, indented by two blanks a level. Every
character outside the printable ASCII range is escaped.
-/

namespace Catalog.Json

/-- An escape of one UTF-16 unit. -/
def unitEscape (n : Nat) : List Char :=
  '\\' :: 'u' :: Text.hexDigits 4 n

/-- A character as it stands in a string. -/
def escapeChar (c : Char) : List Char :=
  if c == '"' || c == '\\' then ['\\', c]
  else if c == '\n' then ['\\', 'n']
  else if c == '\r' then ['\\', 'r']
  else if c == '\t' then ['\\', 't']
  else if c == '\x0c' then ['\\', 'f']
  else if c == '\x08' then ['\\', 'b']
  else
    let n := c.toNat
    if 0x20 ≤ n && n ≤ 0x7E then [c]
    else if n < 0x10000 then unitEscape n
    else unitEscape (0xD800 + (n - 0x10000) / 0x400) ++ unitEscape (0xDC00 + (n - 0x10000) % 0x400)

/-- A string with its quotes. -/
def stringText (s : String) : String :=
  String.ofList ('"' :: s.toList.flatMap escapeChar ++ ['"'])

/-- A value that is not a collection. -/
def atomText : Json → String
  | null => "null"
  | bool true => "true"
  | bool false => "false"
  | int n => toString n
  | float .notANumber => "NaN"
  | float (.infinite negative) => if negative then "-Infinity" else "Infinity"
  | float x => x.text
  | str s => stringText s
  | arr _ => ""
  | obj _ => ""

mutual

/-- The value on one line. -/
def compact : Json → String
  | arr items => "[" ++ compactItems items ++ "]"
  | obj members => "\x7b" ++ compactMembers members ++ "\x7d"
  | value => atomText value

def compactItems : List Json → String
  | [] => ""
  | [item] => compact item
  | item :: rest => compact item ++ ", " ++ compactItems rest

def compactMembers : List (String × Json) → String
  | [] => ""
  | [(key, value)] => stringText key ++ ": " ++ compact value
  | (key, value) :: rest => stringText key ++ ": " ++ compact value ++ ", " ++ compactMembers rest

end

/-- A line break and the indentation of a level. -/
def newline (level : Nat) : String :=
  String.ofList ('\n' :: List.replicate (2 * level) ' ')

mutual

/-- The value with one item a line, at the given level of indentation. -/
def prettyAt (level : Nat) : Json → String
  | arr [] => "[]"
  | arr items => "[" ++ prettyItems (level + 1) items ++ newline level ++ "]"
  | obj [] => "\x7b\x7d"
  | obj members => "\x7b" ++ prettyMembers (level + 1) members ++ newline level ++ "\x7d"
  | value => atomText value

def prettyItems (level : Nat) : List Json → String
  | [] => ""
  | [item] => newline level ++ prettyAt level item
  | item :: rest => newline level ++ prettyAt level item ++ "," ++ prettyItems level rest

def prettyMembers (level : Nat) : List (String × Json) → String
  | [] => ""
  | [(key, value)] => newline level ++ stringText key ++ ": " ++ prettyAt level value
  | (key, value) :: rest =>
    newline level ++ stringText key ++ ": " ++ prettyAt level value ++ "," ++
      prettyMembers level rest

end

/-- The value with one item a line. -/
def pretty (value : Json) : String :=
  prettyAt 0 value

end Catalog.Json
