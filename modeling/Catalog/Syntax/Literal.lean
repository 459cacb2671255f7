import Catalog.Number.Numeral
import Catalog.Syntax.Number
import Catalog.Syntax.Token

/-!
# String literals

The text that a string literal stands for, and the pieces of a format literal: text, and fields
whose expressions are still to be read. A field may have a format of its own, with fields in it,
but those have no fields in their formats.
-/

namespace Catalog.Syntax.Literal

/-- What a letter after a backslash stands for. -/
def simpleEscape? : Char → Option Char
  | '\\' => some '\\'
  | '\x27' => some '\x27'
  | '"' => some '"'
  | 'a' => some '\x07'
  | 'b' => some '\x08'
  | 'f' => some '\x0c'
  | 'n' => some '\n'
  | 'r' => some '\r'
  | 't' => some '\t'
  | 'v' => some '\x0b'
  | _ => none

/-- How many hexadecimal digits follow a letter after a backslash. -/
def codeLength? : Char → Option Nat
  | 'x' => some 2
  | 'u' => some 4
  | 'U' => some 8
  | _ => none

/-- The value of digits in a base. -/
def codeOf (base : Nat) (digits : List Char) : Nat :=
  Numeral.valueOf base (digits.filterMap Numeral.digit?)

/-- The character of a code point. Half of a surrogate pair is no character: the replacement
character stands for it. -/
def charOf (code : Nat) : Char :=
  if 0xD800 ≤ code && code < 0xE000 then '\uFFFD' else Char.ofNat code

/-- The text of the characters between quotes, with escapes read. A backslash before any other
character stands for itself. There is no text if an escape is malformed. The names of characters
are not looked up: the replacement character stands for each. -/
def decodeFrom : Nat → List Char → Option (List Char)
  | 0, _ => none
  | _, [] => some []
  | fuel + 1, '\\' :: c :: rest =>
    match simpleEscape? c with
    | some meant => (decodeFrom fuel rest).map (meant :: ·)
    | none =>
      if c == '\n' then decodeFrom fuel rest
      else if Number.isOctal c then
        let digits := ((c :: rest).take 3).takeWhile Number.isOctal
        (decodeFrom fuel ((c :: rest).drop digits.length)).map (charOf (codeOf 8 digits) :: ·)
      else
        match codeLength? c with
        | some length =>
          let digits := rest.take length
          if digits.length = length && digits.all Number.isHex && codeOf 16 digits < 0x110000 then
            (decodeFrom fuel (rest.drop length)).map (charOf (codeOf 16 digits) :: ·)
          else none
        | none =>
          if c == 'N' then
            -- a character by its name, which may be any
            match rest with
            | '\x7b' :: more =>
              match more.dropWhile (· != '\x7d') with
              | _ :: after =>
                if more.head? == some '\x7d' then none
                else (decodeFrom fuel after).map ('\uFFFD' :: ·)
              | [] => none
            | _ => none
          else (decodeFrom fuel rest).map ('\\' :: c :: ·)
  | fuel + 1, c :: rest => (decodeFrom fuel rest).map (c :: ·)

/-- The text of the characters between quotes. -/
def decode (raw : Bool) (cs : List Char) : Option (List Char) :=
  if raw then some cs else decodeFrom (cs.length + 1) cs

/-- The escapes of a bytes literal are well formed. -/
def bytesEscapesOk : List Char → Bool
  | [] => true
  | '\\' :: 'x' :: rest =>
    (rest.take 2).length = 2 && (rest.take 2).all Number.isHex && bytesEscapesOk rest
  | '\\' :: _ :: rest => bytesEscapesOk rest
  | _ :: rest => bytesEscapesOk rest

/-- A bytes literal holds ASCII characters only. -/
def bytesOk (raw : Bool) (cs : List Char) : Bool :=
  cs.all (fun c => c.toNat < 0x80) && (raw || bytesEscapesOk cs)

/-- A piece of a format literal. -/
inductive Piece where
  | text (chars : List Char)
  /-- A field: the characters of its expression, the number of line breaks before it in the
  literal, the text that shows the expression itself, and its format. -/
  | field (expr : List Char) (breaks : Nat) (shown : List Char) (format : Option (List Piece))
  deriving Repr

/-- A string inside the expression of a field: its quote, and whether that is tripled. -/
abbrev Inner := Option (Char × Bool)

/-- Cuts the characters of a field at the end of its expression: before `!`, `:`, `=` or the
closing brace, outside of brackets and strings. -/
def exprEnd : Nat → Inner → List Char → List Char → List Char → Option (List Char × List Char)
  | 0, _, _, _, _ => none
  | fuel + 1, inner, brackets, acc, cs =>
    match cs with
    | [] => none
    | c :: rest =>
      if c == '\\' then none
      else
        match inner with
        | some (quote, triple) =>
          if c == quote then
            if triple then
              if [c, c].isPrefixOf rest then
                exprEnd fuel none brackets (c :: c :: c :: acc) (rest.drop 2)
              else exprEnd fuel inner brackets (c :: acc) rest
            else exprEnd fuel none brackets (c :: acc) rest
          else exprEnd fuel inner brackets (c :: acc) rest
        | none =>
          if c == '\x27' || c == '"' then
            if [c, c].isPrefixOf rest then
              exprEnd fuel (some (c, true)) brackets (c :: c :: c :: acc) (rest.drop 2)
            else exprEnd fuel (some (c, false)) brackets (c :: acc) rest
          else if c == '(' || c == '[' || c == '\x7b' then
            if 200 ≤ brackets.length then none
            else exprEnd fuel none (c :: brackets) (c :: acc) rest
          else if c == '#' then none
          else if brackets.isEmpty && "!:\x7d=<>".toList.contains c then
            if rest.head? == some '=' && (c == '!' || c == '=' || c == '<' || c == '>') then
              exprEnd fuel none brackets ('=' :: c :: acc) (rest.drop 1)
            else if c == '<' || c == '>' then exprEnd fuel none brackets (c :: acc) rest
            else some (acc.reverse, cs)
          else if c == ')' || c == ']' || c == '\x7d' then
            match brackets with
            | [] => none
            | top :: outer =>
              if (top == '(' && c == ')') || (top == '[' && c == ']') ||
                  (top == '\x7b' && c == '\x7d') then
                exprEnd fuel none outer (c :: acc) rest
              else none
          else exprEnd fuel none brackets (c :: acc) rest

/-- What ends a run of text in a format literal. -/
inductive TextEnd where
  /-- A doubled brace, which stands for one. -/
  | doubled
  /-- The beginning of a field, the end of a format, or the end of the literal. -/
  | stop

/-- The run of text at the beginning, in reverse. Doubled braces count outside of formats only,
and a closing brace alone is an error there. -/
def textRun (raw nested : Bool) :
    Nat → List Char → List Char → Option (List Char × List Char × TextEnd)
  | 0, _, _ => none
  | fuel + 1, acc, cs =>
    let brace (acc : List Char) (c : Char) (rest : List Char) :
        Option (List Char × List Char × TextEnd) :=
      if !nested && rest.head? == some c then some (c :: acc, rest.drop 1, .doubled)
      else if !nested && c == '\x7d' then none
      else some (acc, c :: rest, .stop)
    match cs with
    | [] => some (acc, [], .stop)
    | '\\' :: c :: rest =>
      if raw then textRun raw nested fuel ('\\' :: acc) (c :: rest)
      else if c == 'N' then
        match rest with
        | '\x7b' :: more =>
          let name := more.takeWhile (· != '\x7d')
          let after := more.drop name.length
          textRun raw nested fuel
            ((after.take 1).reverse ++ name.reverse ++ '\x7b' :: 'N' :: '\\' :: acc) (after.drop 1)
        | _ => textRun raw nested fuel ('N' :: '\\' :: acc) rest
      else if c == '\x7b' || c == '\x7d' then brace ('\\' :: acc) c rest
      else textRun raw nested fuel (c :: '\\' :: acc) rest
    | c :: rest =>
      if c == '\x7b' || c == '\x7d' then brace acc c rest
      else textRun raw nested fuel (c :: acc) rest

def countBreaks (cs : List Char) : Nat := (cs.filter (· == '\n')).length

def isInnerSpace (c : Char) : Bool :=
  c == ' ' || c == '\t' || c == '\n' || c == '\r' || c == '\x0b' || c == '\x0c'

/-- Fields may be nested this deep. -/
def maxLevel : Nat := 2

mutual

/-- The pieces of a format literal, or of the format of a field if `level` is positive, and the
characters after them. -/
def piecesFrom (raw : Bool) :
    Nat → Nat → Nat → List Char → Option (List Piece × List Char × Nat)
  | 0, _, _, _ => none
  | fuel + 1, level, breaks, cs =>
    match textRun raw (level != 0) (cs.length + 1) [] cs with
    | none => none
    | some (run, rest, ending) =>
      match decode raw run.reverse with
      | none => none
      | some chars =>
        let breaks := breaks + countBreaks run
        let here := if chars.isEmpty then [] else [Piece.text chars]
        match ending, rest with
        | .doubled, _ =>
          (piecesFrom raw fuel level breaks rest).map fun (more, r, b) => (here ++ more, r, b)
        | .stop, '\x7b' :: body =>
          match fieldFrom raw fuel level breaks body with
          | none => none
          | some (piece, rest, breaks) =>
            (piecesFrom raw fuel level breaks rest).map fun (more, r, b) =>
              (here ++ piece :: more, r, b)
        | .stop, [] => if level = 0 then some (here, [], breaks) else none
        | .stop, _ => if level = 0 then none else some (here, rest, breaks)

/-- A field, after its opening brace. -/
def fieldFrom (raw : Bool) :
    Nat → Nat → Nat → List Char → Option (Piece × List Char × Nat)
  | 0, _, _, _ => none
  | fuel + 1, level, breaks, cs =>
    if maxLevel ≤ level then none
    else
      match exprEnd (cs.length + 1) none [] [] cs with
      | none => none
      | some (expr, rest) =>
        if expr.all fun c => c == ' ' || c == '\t' || c == '\n' || c == '\x0c' then none
        else
          let before := breaks
          let breaks := breaks + countBreaks expr
          let (shown, rest, breaks) := match rest with
            | '=' :: more =>
              let spaces := more.takeWhile isInnerSpace
              (expr ++ '=' :: spaces, more.drop spaces.length, breaks + countBreaks spaces)
            | _ => ([], rest, breaks)
          let afterConversion := match rest with
            | '!' :: c :: more => if c == 's' || c == 'r' || c == 'a' then some more else none
            | '!' :: [] => none
            | _ => some rest
          match afterConversion with
          | some ('\x7d' :: more) => some (.field expr before shown none, more, breaks)
          | some (':' :: format) =>
            match piecesFrom raw fuel (level + 1) breaks format with
            | some (pieces, '\x7d' :: more, breaks) =>
              some (.field expr before shown (some pieces), more, breaks)
            | _ => none
          | _ => none

end

/-- The pieces of a format literal. -/
def pieces (raw : Bool) (body : List Char) : Option (List Piece) :=
  (piecesFrom raw (2 * body.length + 2) 0 0 body).map fun (found, _, _) => found

end Catalog.Syntax.Literal
