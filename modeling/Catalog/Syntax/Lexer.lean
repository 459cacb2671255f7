import Catalog.Syntax.Number
import Catalog.Syntax.Token
import Catalog.Text.Blank
import Catalog.Text.Identifier
import Catalog.Text.Normal
import Catalog.Text.Printable

/-!
# From characters to tokens

The rules are those of the language: a line ends a statement unless a bracket is open or a
backslash stands at its end; the first column of a line that is not empty opens and closes blocks;
comments are passed over.

A tab reaches to the next multiple of eight. So that the depth of a line never depends on the width
of a tab, every column is also counted with tabs of width one, and both counts must agree on which
line is deeper.
-/

namespace Catalog.Syntax

/-- The state of reading tokens. -/
structure Lexer where
  rest : List Char
  line : Nat := 1
  /-- The columns of the open blocks, the innermost first, counted with wide and with narrow
  tabs. -/
  indents : List (Nat × Nat) := []
  /-- The open brackets, the innermost first. -/
  brackets : List Char := []
  /-- A line begins here. -/
  lineStart : Bool := true
  /-- The current line holds nothing but blanks and a comment. -/
  blank : Bool := false
  deriving Repr

namespace Lexer

/-- Blocks may not be nested deeper than this. -/
def maxIndents : Nat := 99

/-- Brackets may not be nested deeper than this. -/
def maxBrackets : Nat := 200

/-- The columns at the beginning of a line. -/
structure Columns where
  wide : Nat := 0
  narrow : Nat := 0
  /-- The column of the first line continuation, which counts in place of the others. -/
  continued : Nat := 0

/-- What a line continuation leads to: the characters of the next line. The characters begin after
the backslash. -/
def continuation (cs : List Char) : Except LexicalFault (List Char) :=
  match cs with
  | '\n' :: [] => .error .unexpectedEnd
  | '\n' :: rest => .ok rest
  | _ => .error .badContinuation

/-- Reads the blanks at the beginning of a line. -/
def columnsFrom (columns : Columns) (line : Nat) :
    List Char → Except LexicalFault (Columns × Nat × List Char)
  | ' ' :: rest =>
    columnsFrom { columns with wide := columns.wide + 1, narrow := columns.narrow + 1 } line rest
  | '\t' :: rest =>
    columnsFrom { columns with wide := (columns.wide / 8 + 1) * 8, narrow := columns.narrow + 1 }
      line rest
  | '\x0c' :: rest => columnsFrom { columns with wide := 0, narrow := 0 } line rest
  | '\\' :: '\n' :: c :: rest =>
    let continued := if columns.continued = 0 then columns.wide else columns.continued
    columnsFrom { columns with continued } (line + 1) (c :: rest)
  | ['\\', '\n'] => .error .unexpectedEnd
  | '\\' :: _ => .error .badContinuation
  | cs => .ok (columns, line, cs)

/-- The blocks that are left after those deeper than a column were closed, and how many were
closed. -/
def closeBlocks (wide : Nat) : List (Nat × Nat) → List (Nat × Nat) × Nat
  | [] => ([], 0)
  | (column, narrow) :: outer =>
    if wide < column then
      let (left, closed) := closeBlocks wide outer
      (left, closed + 1)
    else ((column, narrow) :: outer, 0)

/-- The tokens that the first column of a line gives, and the blocks that are open after it. -/
def indentation (indents : List (Nat × Nat)) (wide narrow : Nat) :
    Except LexicalFault (List TokenKind × List (Nat × Nat)) :=
  let (top, topNarrow) := indents.headD (0, 0)
  if wide = top then if narrow = topNarrow then .ok ([], indents) else .error .mixedTabs
  else if top < wide then
    if maxIndents ≤ indents.length then .error .tooManyIndents
    else if narrow ≤ topNarrow then .error .mixedTabs
    else .ok ([.indent], (wide, narrow) :: indents)
  else
    let (left, closed) := closeBlocks wide indents
    let (column, columnNarrow) := left.headD (0, 0)
    if wide ≠ column then .error .badDedent
    else if narrow ≠ columnNarrow then .error .mixedTabs
    else .ok (List.replicate closed .dedent, left)

/-- Marks of string literals. -/
def stringMarks : List String := ["b", "u", "r", "f", "br", "rb", "fr", "rf"]

/-- The mark of a string literal at the beginning, and the characters from its quote on. -/
def stringMark? (cs : List Char) : Option (List Char × List Char) :=
  let isQuote (c : Char) : Bool := c == '"' || c == '\x27'
  let letters := (cs.take 2).takeWhile fun c => !isQuote c
  let mark := letters.map Char.toLower
  let after := cs.drop letters.length
  if after.head?.any isQuote && (mark.isEmpty || stringMarks.contains (String.ofList mark)) then
    some (mark, after)
  else none

/-- The body of a string literal up to its closing quotes, in reverse, with the characters after
them and the number of line breaks. A backslash hides the character after it. -/
def stringBody (quote : Char) (triple : Bool) :
    List Char → Nat → List Char → Option (List Char × List Char × Nat)
  | _, _, [] => none
  | acc, breaks, '\\' :: c :: rest =>
    stringBody quote triple (c :: '\\' :: acc) (if c == '\n' then breaks + 1 else breaks) rest
  | _, _, ['\\'] => none
  | acc, breaks, c :: rest =>
    if c == quote then
      if triple then
        match rest with
        | d :: e :: more =>
          if d == quote && e == quote then some (acc, more, breaks)
          else stringBody quote triple (c :: acc) breaks rest
        | _ => stringBody quote triple (c :: acc) breaks rest
      else some (acc, rest, breaks)
    else if c == '\n' then
      if triple then stringBody quote triple (c :: acc) (breaks + 1) rest else none
    else stringBody quote triple (c :: acc) breaks rest

/-- The string literal whose mark is given; the characters begin with its quote. -/
def stringLiteral? (mark cs : List Char) : Option (StringLiteral × List Char × Nat) :=
  match cs with
  | [] => none
  | quote :: rest =>
    let triple := [quote, quote].isPrefixOf rest
    match stringBody quote triple [] 0 (if triple then rest.drop 2 else rest) with
    | none => none
    | some (body, after, breaks) =>
      some ({ raw := mark.contains 'r', bytes := mark.contains 'b', format := mark.contains 'f',
              body := body.reverse }, after, breaks)

/-- Operators of three characters. -/
def threeChars : List String := ["**=", "//=", ">>=", "<<=", "..."]

/-- Operators of two characters. -/
def twoChars : List String :=
  ["!=", "%=", "&=", "**", "*=", "+=", "-=", "->", "//", "/=", ":=", "<<", "<=", "<>", "==", ">=",
   ">>", "@=", "^=", "|="]

/-- The operator at the beginning: the longest one. -/
def operator (cs : List Char) : String :=
  let three := String.ofList (cs.take 3)
  let two := String.ofList (cs.take 2)
  if threeChars.contains three then three
  else if twoChars.contains two then two
  else String.ofList (cs.take 1)

/-- The bracket that closes an open one. -/
def closing : Char → Char
  | '(' => ')'
  | '[' => ']'
  | _ => '\x7d'

/-- The open brackets after one more character. -/
def bracket (opened : List Char) (c : Char) : Except LexicalFault (List Char) :=
  if c == '(' || c == '[' || c == '\x7b' then
    if maxBrackets ≤ opened.length then .error .badToken else .ok (c :: opened)
  else if c == ')' || c == ']' || c == '\x7d' then
    match opened with
    | [] => .error .badToken
    | top :: outer => if closing top == c then .ok outer else .error .badToken
  else .ok opened

/-- A word as a token. Outside of ASCII its characters must be those of identifiers, and a name is
taken in its normal form. -/
def wordToken (word : List Char) : Except LexicalFault TokenKind :=
  let text := String.ofList word
  let valid := match word with
    | c :: rest => Text.isIdentifierStart c && rest.all Text.isIdentifierContinue
    | [] => false
  if !valid then .error .badToken
  else if keywords.contains text then .ok (.keyword text)
  else .ok (.name (Text.normalForm text))

/-- Some tokens and the state after them. -/
abbrev Step := Except LexicalFault (List TokenKind × Lexer)

/-- The token at the beginning of the characters, which is no blank and no comment. -/
def token (s : Lexer) : Step :=
  match s.rest with
  | [] =>
    if s.brackets.isEmpty then .ok ([.endMarker], s) else .error .unexpectedEnd
  | '\n' :: rest =>
    let next := { s with rest, line := s.line + 1, lineStart := true, blank := false }
    if s.blank || !s.brackets.isEmpty then .ok ([], next) else .ok ([.newline], next)
  | '\\' :: rest =>
    match continuation rest with
    | .ok next => .ok ([], { s with rest := next, line := s.line + 1 })
    | .error e => .error e
  | c :: rest =>
    match stringMark? s.rest with
    | some (mark, quoted) =>
      match stringLiteral? mark quoted with
      | some (literal, after, breaks) =>
        .ok ([.string literal], { s with rest := after, line := s.line + breaks })
      | none => .error .badToken
    | none =>
      if c.isDigit || (c == '.' && rest.head?.any Char.isDigit) then
        match Number.scan s.rest with
        | some (imaginary, after) => .ok ([.number imaginary], { s with rest := after })
        | none => .error .badToken
      else if Number.isWordChar c then
        match wordToken (s.rest.takeWhile Number.isWordChar) with
        | .ok word => .ok ([word], { s with rest := s.rest.dropWhile Number.isWordChar })
        | .error e => .error e
      else
        let op := operator s.rest
        match (if op.length = 1 then bracket s.brackets c else .ok s.brackets) with
        | .error e => .error e
        | .ok brackets =>
          if op.length = 1 && !Text.isPrintable c then .error .badToken
          else .ok ([.op op], { s with rest := s.rest.drop op.length, brackets })

/-- The state after blanks and a comment. -/
def skipBlanks (s : Lexer) : Lexer :=
  let rest := s.rest.dropWhile fun c => c == ' ' || c == '\t' || c == '\x0c'
  { s with rest := if rest.head? == some '#' then rest.dropWhile (· != '\n') else rest }

/-- The tokens that the beginning of a line gives. -/
def startLine (s : Lexer) : Step :=
  match columnsFrom {} s.line s.rest with
  | .error e => .error e
  | .ok (columns, line, rest) =>
    let blank := rest.head?.any fun c => c == '#' || c == '\n'
    let next := { s with rest, line, lineStart := false, blank }
    if blank || !s.brackets.isEmpty then .ok ([], next)
    else
      let (wide, narrow) :=
        if columns.continued = 0 then (columns.wide, columns.narrow)
        else (columns.continued, columns.continued)
      match indentation s.indents wide narrow with
      | .ok (kinds, indents) => .ok (kinds, { next with indents })
      | .error e => .error e

/-- The next tokens. -/
def step (s : Lexer) : Step :=
  if s.lineStart then s.startLine else s.skipBlanks.token

/-- All tokens, up to the end or to the first fault. Each token has the line that was current
when it began. -/
def run : Nat → Lexer → List Token
  | 0, s => [{ kind := .fault .badToken, line := s.line }]
  | fuel + 1, s =>
    match s.step with
    | .error cause => [{ kind := .fault cause, line := s.line }]
    | .ok (kinds, next) =>
      let line := if s.lineStart then next.line else s.line
      let tokens := kinds.map fun kind => { kind, line : Token }
      if kinds.contains .endMarker then tokens else tokens ++ run fuel next

end Lexer

/-- The text of a module with line feeds as its only line ends, and one at its end. -/
def normalSource (source : String) : List Char :=
  let cs := Text.unifyBreaksChars source.toList
  if cs.isEmpty || cs.getLast? == some '\n' then cs else cs ++ ['\n']

/-- The tokens of a module. -/
def tokens (source : String) : List Token :=
  let cs := normalSource source
  Lexer.run (2 * cs.length + 3) { rest := cs }

/-- The tokens of an expression that stands between brackets, from the given line on. -/
def expressionTokens (line : Nat) (cs : List Char) : List Token :=
  let cs := '(' :: cs ++ [')']
  Lexer.run (2 * cs.length + 3) { rest := cs, line, lineStart := false }

end Catalog.Syntax
