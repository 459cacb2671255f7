import Catalog.Text.Quoted
import Catalog.Yaml.Tag

/-!
# Writing YAML

Mappings of text to text, in block style: one pair a line, the entries of a sequence after a
hyphen. A scalar is written plain where that reads back as the same text, else between single
quotes, and between double quotes if it holds characters that need an escape or spaces next to a
line break. Lines longer than 80 columns are folded at a space; the lines after the first are
indented.
-/

namespace Catalog.Yaml.Printer

/-- Lines longer than this are folded. -/
def width : Nat := 80

/-- Line breaks that a scalar between single quotes may hold. -/
def isInnerBreak (c : Char) : Bool :=
  c == '\n' || c == '\x85' || c == '\u2028' || c == '\u2029'

/-- Blanks and breaks that separate an indicator from what follows. -/
def isSeparator (c : Char) : Bool :=
  c == '\x00' || c == ' ' || c == '\t' || c == '\r' || isInnerBreak c

/-- Characters that can be shown as they are. -/
def isShown (c : Char) : Bool :=
  let n := c.toNat
  c == '\n' || (0x20 ≤ n && n ≤ 0x7E) || n == 0x85 || (0xA0 ≤ n && n ≤ 0xD7FF) ||
    (0xE000 ≤ n && n ≤ 0xFFFD && n != 0xFEFF) || (0x10000 ≤ n && n < 0x10FFFF)

/-- How a scalar is written. -/
inductive Style where
  | plain
  | single
  | double
  deriving DecidableEq, Repr

/-- An indicator at the beginning of a text: it would not be read as part of a plain scalar. -/
def startsWithIndicator (cs : List Char) : Bool :=
  let separated := match cs with
    | _ :: next :: _ => isSeparator next
    | _ => true
  match cs with
  | [] => false
  | c :: _ =>
    "#,[]\x7b\x7d&*!|>\"%@".toList.contains c || c == '\x27' || c == '\x60' ||
      ((c == '?' || c == ':' || c == '-') && separated) ||
      ['-', '-', '-'].isPrefixOf cs || ['.', '.', '.'].isPrefixOf cs

/-- A colon before a blank, or a hash after one, from the second character on. The first
argument is the character before the others. -/
def hasInnerIndicator : Char → List Char → Bool
  | _, [] => false
  | before, c :: rest =>
    let separated := match rest with
      | next :: _ => isSeparator next
      | [] => true
    (c == ':' && separated) || (c == '#' && isSeparator before) || hasInnerIndicator c rest

/-- A character that satisfies `p` stands directly before one that satisfies `q`. -/
def hasNeighbours (p q : Char → Bool) : List Char → Bool
  | c :: d :: rest => (p c && q d) || hasNeighbours p q (d :: rest)
  | _ => false

/-- The first or the last character is a space or a break. -/
def hasOuterBlank (cs : List Char) : Bool :=
  let blank (c : Char) : Bool := c == ' ' || isInnerBreak c
  cs.head?.any blank || cs.getLast?.any blank

/-- The text can be written without quotes. -/
def plainAllowed (cs : List Char) : Bool :=
  cs.all isShown && !cs.any isInnerBreak && !hasOuterBlank cs && !startsWithIndicator cs &&
    !(match cs with
      | c :: rest => hasInnerIndicator c rest
      | [] => false)

/-- The text can be written between single quotes. -/
def singleAllowed (cs : List Char) : Bool :=
  cs.all isShown && !hasNeighbours isInnerBreak (· == ' ') cs &&
    !hasNeighbours (· == ' ') isInnerBreak cs

/-- The style of a text. Text that would be read as a value of another type is quoted. -/
def styleOf (s : String) : Style :=
  let cs := s.toList
  if plainAllowed cs && Tag.ofPlain s == Tag.str then .plain
  else if singleAllowed cs then .single
  else .double

/-- A line break and the indentation of the next line. -/
def newline (indent : Nat) : List Char := '\n' :: List.replicate indent ' '

/-- A plain scalar from the given column on. A single space beyond the width becomes a line
break. The flag says that the character before was a space. -/
def plainFrom (indent : Nat) : Bool → Nat → List Char → List Char
  | _, _, [] => []
  | afterSpace, column, c :: rest =>
    if c == ' ' && !afterSpace && rest.head? != some ' ' && width < column then
      newline indent ++ plainFrom indent false indent rest
    else c :: plainFrom indent (c == ' ') (column + 1) rest

/-- A scalar between single quotes from the given column on, without the quotes. A quote is
written twice. A line break is written as an empty line; a single space beyond the width becomes
a line break, except at the two ends. `before` is the character before, if there is one. -/
def singleFrom (indent : Nat) : Option Char → Nat → List Char → List Char
  | _, _, [] => []
  | before, column, c :: rest =>
    if c == '\x27' then '\x27' :: '\x27' :: singleFrom indent (some c) (column + 2) rest
    else if c == ' ' then
      if before.isSome && before != some ' ' && !rest.isEmpty && rest.head? != some ' ' &&
          width < column then
        newline indent ++ singleFrom indent (some c) indent rest
      else c :: singleFrom indent (some c) (column + 1) rest
    else if isInnerBreak c then
      let opening := if c == '\n' && !before.any isInnerBreak then ['\n'] else []
      let closing := if rest.head?.any isInnerBreak then [] else List.replicate indent ' '
      opening ++ c :: closing ++ singleFrom indent (some c) indent rest
    else c :: singleFrom indent (some c) (column + 1) rest

/-- The letter for a character that has an escape of its own. -/
def escapeLetter? (c : Char) : Option Char :=
  if c == '\x00' then some '0'
  else if c == '\x07' then some 'a'
  else if c == '\x08' then some 'b'
  else if c == '\t' then some 't'
  else if c == '\n' then some 'n'
  else if c == '\x0b' then some 'v'
  else if c == '\x0c' then some 'f'
  else if c == '\r' then some 'r'
  else if c == '\x1b' then some 'e'
  else if c == '"' then some '"'
  else if c == '\\' then some '\\'
  else if c == '\x85' then some 'N'
  else if c == '\u2028' then some 'L'
  else if c == '\u2029' then some 'P'
  else none

/-- Characters that stand for themselves between double quotes. -/
def isBare (c : Char) : Bool :=
  let n := c.toNat
  c != '"' && c != '\\' &&
    ((0x20 ≤ n && n ≤ 0x7E) ||
      (0xA0 ≤ n && n ≤ 0xFFFD && n != 0x2028 && n != 0x2029 && n != 0xFEFF))

/-- The digits of a number in base sixteen, with capital letters. -/
def capitalHex (places n : Nat) : List Char :=
  (Text.hexDigits places n).map Char.toUpper

/-- A character between double quotes. -/
def escape (c : Char) : List Char :=
  match escapeLetter? c with
  | some letter => ['\\', letter]
  | none =>
    let n := c.toNat
    if n ≤ 0xFF then '\\' :: 'x' :: capitalHex 2 n
    else if n ≤ 0xFFFF then '\\' :: 'u' :: capitalHex 4 n
    else '\\' :: 'U' :: capitalHex 8 n

/-- What stands before a character between double quotes. -/
inductive Before where
  | quote
  | escape
  | bare
  deriving DecidableEq, Repr

/-- A scalar between double quotes from the given column on, without the quotes. Beyond the width
a line ends with a backslash, before a space or after an escape, except next to the two ends; a
space that begins the next line is escaped. -/
def doubleFrom (indent : Nat) : Before → Nat → List Char → List Char
  | _, _, [] => []
  | before, column, c :: rest =>
    let foldable := before != .quote && !rest.isEmpty
    if isBare c then
      if foldable && (c == ' ' || before == .escape) && width < column then
        let guard := if c == ' ' then ['\\'] else []
        '\\' :: newline indent ++ guard ++
          c :: doubleFrom indent .bare (indent + guard.length + 1) rest
      else c :: doubleFrom indent .bare (column + 1) rest
    else
      let written := escape c
      let column := column + written.length
      if foldable && width + 1 < column then
        let guard := if rest.head? == some ' ' then ['\\'] else []
        written ++ '\\' :: newline indent ++ guard ++
          doubleFrom indent .escape (indent + guard.length) rest
      else written ++ doubleFrom indent .escape column rest

/-- A scalar that begins at a column, with the indentation of its further lines. -/
def scalar (indent column : Nat) (s : String) : List Char :=
  let cs := s.toList
  match styleOf s with
  | .plain => plainFrom indent false column cs
  | .single => '\x27' :: singleFrom indent none (column + 1) cs ++ ['\x27']
  | .double => '"' :: doubleFrom indent .quote (column + 1) cs ++ ['"']

/-- A pair of a mapping whose keys stand at the column `indent`. -/
def pair (indent : Nat) (key value : String) : List Char :=
  key.toList ++ ':' :: ' ' ::
    scalar (indent + 2) (indent + key.length + 2) value ++ ['\n']

/-- The pairs of a mapping, where the first key is already indented. -/
def pairs (indent : Nat) : List (String × String) → List Char
  | [] => []
  | [(key, value)] => pair indent key value
  | (key, value) :: rest =>
    pair indent key value ++ List.replicate indent ' ' ++ pairs indent rest

/-- A mapping as a document. -/
def mapping (entries : List (String × String)) : String :=
  String.ofList (pairs 0 entries)

/-- A sequence of mappings as a document. -/
def sequence (items : List (List (String × String))) : String :=
  if items.isEmpty then "[]\n"
  else String.ofList (items.flatMap fun entries => '-' :: ' ' :: pairs 2 entries)

end Catalog.Yaml.Printer
