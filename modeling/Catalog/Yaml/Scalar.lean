import Catalog.Number.Numeral
import Catalog.Yaml.Cursor
import Catalog.Yaml.Error

/-!
# Reading scalars

The four ways of writing a scalar: plain, between single quotes, between double quotes, and as a
block of indented lines. Inside a scalar a single line break is a space, and of several breaks the
first is dropped; a block keeps its breaks unless it is folded.
-/

namespace Catalog.Yaml.Scalar

/-- The result of reading: what was read, and the cursor after it. -/
abbrev Read (α : Type) := Except Error (α × Cursor)

/-! ## Scalars between quotes -/

/-- What a single character after a backslash stands for. -/
def simpleEscape? : Char → Option Char
  | '0' => some '\x00'
  | 'a' => some '\x07'
  | 'b' => some '\x08'
  | 't' => some '\t'
  | '\t' => some '\t'
  | 'n' => some '\n'
  | 'v' => some '\x0b'
  | 'f' => some '\x0c'
  | 'r' => some '\r'
  | 'e' => some '\x1b'
  | ' ' => some ' '
  | '"' => some '"'
  | '\\' => some '\\'
  | '/' => some '/'
  | 'N' => some '\x85'
  | '_' => some '\u00a0'
  | 'L' => some '\u2028'
  | 'P' => some '\u2029'
  | _ => none

/-- How many hexadecimal digits follow a letter after a backslash. -/
def codeLength? : Char → Option Nat
  | 'x' => some 2
  | 'u' => some 4
  | 'U' => some 8
  | _ => none

/-- The character of a code point. Half of a surrogate pair is no character: the replacement
character stands for it. -/
def charOfCode (code : Nat) : Except Error Char :=
  if 0x80000000 ≤ code then .error .characterOutOfRange
  else if 0x110000 ≤ code then .error .noSuchCharacter
  else if 0xD800 ≤ code && code < 0xE000 then .ok '\uFFFD'
  else .ok (Char.ofNat code)

/-- Line breaks between the lines of a quoted scalar, with the blanks around them. -/
def quotedBreaks : Nat → Cursor → Read (List Char)
  | 0, c => .ok ([], c)
  | fuel + 1, c =>
    if c.atDocumentMark then .error .malformed
    else
      let c := c.skip fun ch => ch == ' ' || ch == '\t'
      if isBreak c.peek then
        let (br, c) := c.lineBreak
        match quotedBreaks fuel c with
        | .ok (more, c) => .ok (br ++ more, c)
        | .error e => .error e
      else .ok ([], c)

/-- What an escape at the cursor stands for; the cursor is after the backslash. -/
def escape (c : Cursor) : Read (List Char) :=
  let ch := c.peek
  match simpleEscape? ch with
  | some meant => .ok ([meant], c.advance)
  | none =>
    match codeLength? ch with
    | some length =>
      let digits := c.advance.rest.take length
      if digits.length = length && digits.all isHexDigit then
        match charOfCode (Numeral.valueOf 16 (digits.filterMap Numeral.digit?)) with
        | .ok meant => .ok ([meant], c.advance.advanceBy length)
        | .error e => .error e
      else .error .malformed
    | none =>
      if isBreak ch then
        let (_, c) := c.lineBreak
        quotedBreaks (c.rest.length + 1) c
      else .error .malformed

/-- Characters of a quoted scalar that are neither blanks nor breaks, up to the closing quote. -/
def quotedText (double : Bool) : Nat → Cursor → Read (List Char)
  | 0, c => .ok ([], c)
  | fuel + 1, c =>
    let (run, c) := c.span fun ch =>
      !(ch == '\x27' || ch == '"' || ch == '\\' || isBlankOrEnd ch)
    let next (chunk : List Char) (c : Cursor) : Read (List Char) :=
      match quotedText double fuel c with
      | .ok (more, c) => .ok (run ++ chunk ++ more, c)
      | .error e => .error e
    let ch := c.peek
    if !double && ch == '\x27' && c.peekAt 1 == '\x27' then next ['\x27'] (c.advanceBy 2)
    else if (double && ch == '\x27') || (!double && (ch == '"' || ch == '\\')) then
      next [ch] c.advance
    else if double && ch == '\\' then
      match escape c.advance with
      | .ok (chunk, c) => next chunk c
      | .error e => .error e
    else .ok (run, c)

/-- Blanks and breaks inside a quoted scalar. -/
def quotedSpaces (c : Cursor) : Read (List Char) :=
  let (blanks, c) := c.span fun ch => ch == ' ' || ch == '\t'
  if c.rest.isEmpty then .error .malformed
  else if isBreak c.peek then
    let (br, c) := c.lineBreak
    match quotedBreaks (c.rest.length + 1) c with
    | .error e => .error e
    | .ok (breaks, c) =>
      if br != ['\n'] then .ok (br ++ breaks, c)
      else if breaks.isEmpty then .ok ([' '], c)
      else .ok (breaks, c)
  else .ok (blanks, c)

/-- The parts of a quoted scalar after its first run of text, up to the closing quote. -/
def quotedParts (double : Bool) (quote : Char) : Nat → List Char → Cursor → Read (List Char)
  | 0, _, _ => .error .malformed
  | fuel + 1, acc, c =>
    if c.peek == quote then .ok (acc, c.advance)
    else
      match quotedSpaces c with
      | .error e => .error e
      | .ok (spaces, c) =>
        match quotedText double (c.rest.length + 1) c with
        | .error e => .error e
        | .ok (run, c) => quotedParts double quote fuel (acc ++ spaces ++ run) c

/-- A quoted scalar; the cursor is at its opening quote. -/
def quoted (c : Cursor) : Read String :=
  let quote := c.peek
  let double := quote == '"'
  let c := c.advance
  match quotedText double (c.rest.length + 1) c with
  | .error e => .error e
  | .ok (run, c) =>
    match quotedParts double quote (c.rest.length + 1) run c with
    | .ok (text, c) => .ok (String.ofList text, c)
    | .error e => .error e

/-! ## Plain scalars -/

/-- The characters of a plain scalar up to a blank, a break or an indicator. -/
def plainRun (flow : Bool) : List Char → List Char
  | [] => []
  | ch :: rest =>
    let next := rest.headD '\x00'
    if isBlankOrEnd ch then []
    else if ch == ':' && (isBlankOrEnd next || (flow && ",[]\x7b\x7d".toList.contains next)) then []
    else if flow && ",?[]\x7b\x7d".toList.contains ch then []
    else ch :: plainRun flow rest

/-- Breaks and spaces between the lines of a plain scalar; none if a document mark follows. -/
def plainBreaks : Nat → Cursor → Option (List Char) × Cursor
  | 0, c => (some [], c)
  | fuel + 1, c =>
    if c.peek == ' ' then plainBreaks fuel c.advance
    else if isBreak c.peek then
      let (br, c) := c.lineBreak
      if c.atDocumentMark then (none, c)
      else
        match plainBreaks fuel c with
        | (some more, c) => (some (br ++ more), c)
        | (none, c) => (none, c)
    else (some [], c)

/-- What stands between two runs of a plain scalar, the cursor after it, and whether a line break
was among it. Without a result the scalar ends. -/
def plainSpaces (c : Cursor) : List Char × Cursor × Bool :=
  let (blanks, c) := c.span (· == ' ')
  if isBreak c.peek then
    let (br, c) := c.lineBreak
    if c.atDocumentMark then ([], c, true)
    else
      match plainBreaks (c.rest.length + 1) c with
      | (none, c) => ([], c, true)
      | (some breaks, c) =>
        if br != ['\n'] then (br ++ breaks, c, true)
        else if breaks.isEmpty then ([' '], c, true)
        else (breaks, c, true)
  else (blanks, c, false)

/-- The runs of a plain scalar. The lines after the first are indented by at least `indent`
outside of flow collections. The flag tells whether the scalar was ended by a line break. -/
def plainParts (flow : Bool) (indent : Int) :
    Nat → List Char → List Char → Bool → Cursor → List Char × Bool × Cursor
  | 0, acc, _, broken, c => (acc, broken, c)
  | fuel + 1, acc, spaces, broken, c =>
    if c.peek == '#' then (acc, broken, c)
    else
      match plainRun flow c.rest with
      | [] => (acc, broken, c)
      | run =>
        let acc := acc ++ spaces ++ run
        let (spaces, c, broken) := plainSpaces (c.advanceBy run.length)
        if spaces.isEmpty || c.peek == '#' || (!flow && (c.column : Int) < indent) then
          (acc, broken, c)
        else plainParts flow indent fuel acc spaces broken c

/-- A plain scalar, and whether a line break was read after its last run. -/
def plain (flow : Bool) (indent : Int) (c : Cursor) : String × Bool × Cursor :=
  let (text, broken, c) := plainParts flow indent (c.rest.length + 1) [] [] false c
  (String.ofList text, broken, c)

/-! ## Block scalars -/

/-- What is done with the line breaks at the end of a block scalar. -/
inductive Chomping where
  | clip
  | strip
  | keep
  deriving DecidableEq, Repr

/-- The chomping mark at the cursor, if there is one. -/
def chompingMark? (c : Char) : Option Chomping :=
  if c == '+' then some .keep else if c == '-' then some .strip else none

/-- The digit of an indentation mark. -/
def indentMark? (c : Char) : Option Nat :=
  if c.isDigit then some (c.toNat - 48) else none

/-- The marks after the first character of a block scalar, in either order. -/
def blockMarks (c : Cursor) : Read (Chomping × Option Nat) :=
  let (chomping, increment, c) :=
    match chompingMark? c.peek with
    | some chomping =>
      let c := c.advance
      match indentMark? c.peek with
      | some n => (chomping, some n, c.advance)
      | none => (chomping, none, c)
    | none =>
      match indentMark? c.peek with
      | some n =>
        let c := c.advance
        match chompingMark? c.peek with
        | some chomping => (chomping, some n, c.advance)
        | none => (Chomping.clip, some n, c)
      | none => (Chomping.clip, none, c)
  if increment == some 0 then .error .malformed
  else if isSpaceOrEnd c.peek then .ok ((chomping, increment), c)
  else .error .malformed

/-- The rest of a line that may hold only spaces and a comment. -/
def ignoredLine (c : Cursor) : Except Error Cursor :=
  let c := c.skipSpaces
  let c := if c.peek == '#' then c.skip fun ch => !isBreakOrEnd ch else c
  if isBreakOrEnd c.peek then .ok c.lineBreak.2 else .error .malformed

/-- Leading empty lines of a block scalar, and the deepest indentation seen in them. -/
def leadingBreaks : Nat → Nat → Cursor → List Char × Nat × Cursor
  | 0, deepest, c => ([], deepest, c)
  | fuel + 1, deepest, c =>
    if c.peek == ' ' then
      let c := c.advance
      leadingBreaks fuel (max deepest c.column) c
    else if isBreak c.peek then
      let (br, c) := c.lineBreak
      let (more, deepest, c) := leadingBreaks fuel deepest c
      (br ++ more, deepest, c)
    else ([], deepest, c)

/-- Spaces up to a column. -/
def skipIndent (indent : Nat) : Nat → Cursor → Cursor
  | 0, c => c
  | fuel + 1, c =>
    if c.column < indent && c.peek == ' ' then skipIndent indent fuel c.advance else c

/-- Empty lines of a block scalar, and the indentation of the line after them. -/
def blockBreaks (indent : Nat) : Nat → Cursor → List Char × Cursor
  | 0, c => ([], c)
  | fuel + 1, c =>
    let c := skipIndent indent indent c
    if isBreak c.peek then
      let (br, c) := c.lineBreak
      let (more, c) := blockBreaks indent fuel c
      (br ++ more, c)
    else ([], c)

/-- The lines of a block scalar: what was read before them, the breaks before the next line, and
the break that ended the line before. -/
def blockLines (folded : Bool) (indent : Nat) :
    Nat → List Char → List Char → List Char → Cursor →
      List Char × List Char × List Char × Cursor
  | 0, acc, breaks, br, c => (acc, breaks, br, c)
  | fuel + 1, acc, breaks, br, c =>
    if c.column == indent && !c.rest.isEmpty then
      let startsWithText := !(c.peek == ' ' || c.peek == '\t')
      let (line, c) := c.span fun ch => !isBreakOrEnd ch
      let acc := acc ++ breaks ++ line
      let (br, c) := c.lineBreak
      let (breaks, c) := blockBreaks indent (c.rest.length + 1) c
      if c.column == indent && !c.rest.isEmpty then
        let joined :=
          if folded && br == ['\n'] && startsWithText && !(c.peek == ' ' || c.peek == '\t') then
            if breaks.isEmpty then [' '] else []
          else br
        blockLines folded indent fuel (acc ++ joined) breaks br c
      else (acc, breaks, br, c)
    else (acc, breaks, br, c)

/-- A block scalar; the cursor is at its first character, and `parent` is the indentation of the
collection that holds it. -/
def block (parent : Int) (c : Cursor) : Read String :=
  let folded := c.peek == '>'
  match blockMarks c.advance with
  | .error e => .error e
  | .ok ((chomping, increment), c) =>
    match ignoredLine c with
    | .error e => .error e
    | .ok c =>
      let least := (max (parent + 1) 1).toNat
      let (indent, breaks, c) :=
        match increment with
        | none =>
          let (breaks, deepest, c) := leadingBreaks (c.rest.length + 1) 0 c
          (max least deepest, breaks, c)
        | some n =>
          let indent := least + n - 1
          let (breaks, c) := blockBreaks indent (c.rest.length + 1) c
          (indent, breaks, c)
      let (text, breaks, br, c) := blockLines folded indent (c.rest.length + 1) [] breaks [] c
      let tail := match chomping with
        | .strip => []
        | .clip => br
        | .keep => br ++ breaks
      .ok (String.ofList (text ++ tail), c)

end Catalog.Yaml.Scalar
