import Catalog.Yaml.Scalar
import Catalog.Yaml.Token

/-!
# From characters to tokens

The tokens of a text are read one by one. A mapping key that is written without its mark `?` is
recognised only when the colon after it is reached; until then the place of the possible key is
remembered, one place for each level of flow collections. Such a key stands on one line and has at
most 1024 characters.

Block collections are found by indentation: a token in a deeper column opens one, a token in an
earlier column closes all that stand deeper.
-/

namespace Catalog.Yaml

/-- A place where a mapping key may have begun. -/
structure PossibleKey where
  /-- How many tokens stand before the key. -/
  position : Nat
  /-- Nothing but a key can stand here. -/
  required : Bool
  index : Nat
  line : Nat
  column : Nat
  deriving Repr

/-- The state of reading tokens. -/
structure Lexer where
  cursor : Cursor
  tokens : Array Token := #[]
  /-- How many flow collections are open. -/
  flowLevel : Nat := 0
  /-- The column of the innermost open block collection. -/
  indent : Int := -1
  /-- The columns of the block collections around it. -/
  outer : List Int := []
  /-- A key without its mark may begin here. -/
  keyAllowed : Bool := true
  /-- The possible keys, by flow level. -/
  keys : List (Nat × PossibleKey) := []
  finished : Bool := false
  deriving Repr

namespace Lexer

/-- The longest key without its mark, in characters. -/
def maxKeyLength : Nat := 1024

def push (s : Lexer) (token : Token) : Lexer :=
  { s with tokens := s.tokens.push token }

def inFlow (s : Lexer) : Bool := s.flowLevel != 0

/-- Forgets the possible keys that can no longer become keys. It is a fault if one of them had to
be a key. -/
def dropStaleKeys (s : Lexer) : Except Error Lexer :=
  let stale (item : Nat × PossibleKey) : Bool :=
    item.2.line != s.cursor.line || maxKeyLength < s.cursor.index - item.2.index
  if s.keys.any fun item => stale item && item.2.required then .error .malformed
  else .ok { s with keys := s.keys.filter fun item => !stale item }

/-- Forgets the possible key of the current flow level. -/
def dropKey (s : Lexer) : Except Error Lexer :=
  match s.keys.lookup s.flowLevel with
  | some key =>
    if key.required then .error .malformed
    else .ok { s with keys := s.keys.filter fun item => item.1 != s.flowLevel }
  | none => .ok s

/-- Remembers that a key may begin at the next token. -/
def saveKey (s : Lexer) : Except Error Lexer :=
  if s.keyAllowed then
    match s.dropKey with
    | .error e => .error e
    | .ok s =>
      let key : PossibleKey :=
        { position := s.tokens.size
          required := !s.inFlow && s.indent == (s.cursor.column : Int)
          index := s.cursor.index
          line := s.cursor.line
          column := s.cursor.column }
      .ok { s with keys := (s.flowLevel, key) :: s.keys }
  else .ok s

/-- Closes the block collections that stand deeper than a column. -/
def unwindFrom (s : Lexer) (column : Int) : List Int → Lexer
  | [] => s
  | previous :: outer =>
    if s.indent > column then
      unwindFrom { s.push .blockEnd with indent := previous, outer } column outer
    else s

/-- Closes the block collections that stand deeper than a column, outside of flow collections. -/
def unwind (s : Lexer) (column : Int) : Lexer :=
  if s.inFlow then s else s.unwindFrom column s.outer

/-- Opens a block collection at a column, if that column is deeper than the current one. -/
def deepen (s : Lexer) (column : Int) : Lexer × Bool :=
  if s.indent < column then
    ({ s with indent := column, outer := s.indent :: s.outer }, true)
  else (s, false)

/-- Spaces, comments and line breaks before the next token. Outside of flow collections a line
break allows a key. -/
def skipToToken : Nat → Lexer → Lexer
  | 0, s => s
  | fuel + 1, s =>
    let c := s.cursor.skipSpaces
    let c := if c.peek == '#' then c.skip fun ch => !isBreakOrEnd ch else c
    if isBreak c.peek then
      skipToToken fuel
        { s with cursor := c.lineBreak.2, keyAllowed := s.keyAllowed || !s.inFlow }
    else { s with cursor := c }

/-! ## Directives, anchors and tags -/

/-- A word of letters, digits, hyphens and underscores. -/
def word (c : Cursor) : Scalar.Read String :=
  match c.span isWordChar with
  | ([], _) => .error .malformed
  | (w, c) => .ok (String.ofList w, c)

/-- A number of a version directive. -/
def versionNumber (c : Cursor) : Scalar.Read Nat :=
  match c.span Char.isDigit with
  | ([], _) => .error .malformed
  | (digits, c) =>
    if Numeral.maxDigits < digits.length then .error .badNumeral
    else .ok (Numeral.valueOf 10 (digits.filterMap Numeral.digit?), c)

/-- Bytes written with percent signs, as text. -/
def percentEscapes : Nat → List UInt8 → Cursor → Scalar.Read (List Char)
  | 0, _, _ => .error .malformed
  | fuel + 1, acc, c =>
    match c.rest with
    | '%' :: a :: b :: _ =>
      if isHexDigit a && isHexDigit b then
        let code := Numeral.valueOf 16 ([a, b].filterMap Numeral.digit?)
        percentEscapes fuel (UInt8.ofNat code :: acc) (c.advanceBy 3)
      else .error .malformed
    | '%' :: _ => .error .malformed
    | _ =>
      match String.fromUTF8? (ByteArray.mk acc.reverse.toArray) with
      | some s => .ok (s.toList, c)
      | none => .error .malformed

/-- Characters of a tag that stand for themselves. -/
def isTagChar (c : Char) : Bool :=
  isWordChar c || ";/?:@&=+$,.!~*()[]".toList.contains c || c == '\x27'

/-- The characters of a tag. -/
def tagChars : Nat → Cursor → Scalar.Read (List Char)
  | 0, c => .ok ([], c)
  | fuel + 1, c =>
    let (run, c) := c.span isTagChar
    if c.peek == '%' then
      match percentEscapes (c.rest.length + 1) [] c with
      | .error e => .error e
      | .ok (decoded, c) =>
        match tagChars fuel c with
        | .ok (more, c) => .ok (run ++ decoded ++ more, c)
        | .error e => .error e
    else .ok (run, c)

/-- A tag, or the text that a tag handle stands for; it has at least one character. -/
def tagText (c : Cursor) : Scalar.Read String :=
  if isTagChar c.peek || c.peek == '%' then
    match tagChars (c.rest.length + 1) c with
    | .ok (cs, c) => .ok (String.ofList cs, c)
    | .error e => .error e
  else .error .malformed

/-- A tag handle: an exclamation mark, or a word between two of them. -/
def tagHandle (c : Cursor) : Scalar.Read String :=
  if c.peek != '!' then .error .malformed
  else if c.peekAt 1 == ' ' then .ok ("!", c.advance)
  else
    let (w, c) := c.advance.span isWordChar
    if c.peek == '!' then .ok (String.ofList ('!' :: w ++ ['!']), c.advance)
    else .error .malformed

/-- What a version directive says. -/
def versionDirective (c : Cursor) : Scalar.Read Directive :=
  match versionNumber c.skipSpaces with
  | .error e => .error e
  | .ok (major, c) =>
    if c.peek != '.' then .error .malformed
    else
      match versionNumber c.advance with
      | .error e => .error e
      | .ok (minor, c) =>
        if isSpaceOrEnd c.peek then .ok (.version major minor, c) else .error .malformed

/-- What a tag directive says. -/
def tagDirective (c : Cursor) : Scalar.Read Directive :=
  match tagHandle c.skipSpaces with
  | .error e => .error e
  | .ok (handle, c) =>
    if c.peek != ' ' then .error .malformed
    else
      match tagText c.skipSpaces with
      | .error e => .error e
      | .ok (start, c) =>
        if isSpaceOrEnd c.peek then .ok (.tagHandle handle start, c) else .error .malformed

/-- A directive; the cursor is at its percent sign. -/
def directive (c : Cursor) : Scalar.Read Token :=
  match word c.advance with
  | .error e => .error e
  | .ok (name, c) =>
    if !isSpaceOrEnd c.peek then .error .malformed
    else
      let content : Scalar.Read Directive :=
        if name == "YAML" then versionDirective c
        else if name == "TAG" then tagDirective c
        else .ok (.unknown name, c.skip fun ch => !isBreakOrEnd ch)
      match content with
      | .error e => .error e
      | .ok (content, c) =>
        match Scalar.ignoredLine c with
        | .ok c => .ok (.directive content, c)
        | .error e => .error e

/-- The name of an anchor or an alias; the cursor is at its mark. -/
def anchorName (c : Cursor) : Scalar.Read String :=
  match word c.advance with
  | .error e => .error e
  | .ok (name, c) =>
    if isBlankOrEnd c.peek || "?:,]\x7d%@".toList.contains c.peek || c.peek == '\x60' then
      .ok (name, c)
    else .error .malformed

/-- The tag at the cursor. -/
def tag (c : Cursor) : Scalar.Read Token :=
  let result : Scalar.Read Token :=
    if c.peekAt 1 == '<' then
      match tagText (c.advanceBy 2) with
      | .error e => .error e
      | .ok (rest, c) =>
        if c.peek == '>' then .ok (.tag none rest, c.advance) else .error .malformed
    else if isBlankOrEnd (c.peekAt 1) then .ok (.tag none "!", c.advance)
    else
      let upTo := (c.rest.drop 1).takeWhile fun ch => !isSpaceOrEnd ch
      if upTo.contains '!' then
        match tagHandle c with
        | .error e => .error e
        | .ok (handle, c) =>
          match tagText c with
          | .ok (rest, c) => .ok (.tag (some handle) rest, c)
          | .error e => .error e
      else
        match tagText c.advance with
        | .ok (rest, c) => .ok (.tag (some "!") rest, c)
        | .error e => .error e
  match result with
  | .ok (token, c) => if isSpaceOrEnd c.peek then .ok (token, c) else .error .malformed
  | .error e => .error e

/-! ## The kinds of tokens -/

/-- Ends all block collections, before a directive, a document mark or the end of the text. -/
def closeBlocks (s : Lexer) : Except Error Lexer :=
  match (s.unwind (-1)).dropKey with
  | .ok s => .ok { s with keyAllowed := false }
  | .error e => .error e

/-- The end of the text. -/
def fetchEnd (s : Lexer) : Except Error Lexer := do
  let s ← s.closeBlocks
  return { s.push .streamEnd with keys := [], finished := true }

/-- A directive. -/
def fetchDirective (s : Lexer) : Except Error Lexer := do
  let s ← s.closeBlocks
  let (token, cursor) ← directive s.cursor
  return { s.push token with cursor }

/-- One of the two document marks. -/
def fetchDocumentMark (s : Lexer) (token : Token) : Except Error Lexer := do
  let s ← s.closeBlocks
  return { s.push token with cursor := s.cursor.advanceBy 3 }

/-- The opening bracket of a flow collection. -/
def fetchFlowStart (s : Lexer) (token : Token) : Except Error Lexer := do
  let s ← s.saveKey
  return { s.push token with
    flowLevel := s.flowLevel + 1, keyAllowed := true, cursor := s.cursor.advance }

/-- The closing bracket of a flow collection. One without an opening partner is a fault. -/
def fetchFlowEnd (s : Lexer) (token : Token) : Except Error Lexer := do
  let s ← s.dropKey
  match s.flowLevel with
  | 0 => .error .malformed
  | level + 1 =>
    return { s.push token with flowLevel := level, keyAllowed := false, cursor := s.cursor.advance }

/-- The comma between the entries of a flow collection. -/
def fetchFlowEntry (s : Lexer) : Except Error Lexer := do
  let s ← { s with keyAllowed := true }.dropKey
  return { s.push .flowEntry with cursor := s.cursor.advance }

/-- Opens a block collection at the current column, if it is a new one there. -/
def openBlock (s : Lexer) (token : Token) : Except Error Lexer :=
  if s.inFlow then .ok s
  else if !s.keyAllowed then .error .malformed
  else
    match s.deepen s.cursor.column with
    | (s, true) => .ok (s.push token)
    | (s, false) => .ok s

/-- The hyphen before an entry of a block sequence. -/
def fetchBlockEntry (s : Lexer) : Except Error Lexer := do
  let s ← s.openBlock .blockSequenceStart
  let s ← { s with keyAllowed := true }.dropKey
  return { s.push .blockEntry with cursor := s.cursor.advance }

/-- The question mark before a key. -/
def fetchKey (s : Lexer) : Except Error Lexer := do
  let s ← s.openBlock .blockMappingStart
  let s ← { s with keyAllowed := !s.inFlow }.dropKey
  return { s.push .key with cursor := s.cursor.advance }

/-- The colon before a value. If a key may have begun at an earlier token, it did. -/
def fetchValue (s : Lexer) : Except Error Lexer :=
  match s.keys.lookup s.flowLevel with
  | some key =>
    let s := { s with keys := s.keys.filter fun item => item.1 != s.flowLevel }
    let marks (opened : Bool) : List Token :=
      if opened then [.blockMappingStart, .key] else [.key]
    let (s, opened) := if s.inFlow then (s, false) else s.deepen key.column
    let before := s.tokens.extract 0 key.position
    let after := s.tokens.extract key.position s.tokens.size
    let s := { s with
      tokens := before ++ (marks opened).toArray ++ after, keyAllowed := false }
    .ok { s.push .value with cursor := s.cursor.advance }
  | none => do
    let s ← s.openBlock .blockMappingStart
    let s ← { s with keyAllowed := !s.inFlow }.dropKey
    return { s.push .value with cursor := s.cursor.advance }

/-- A token that may begin a key and is read by `read`. -/
def fetchNode (s : Lexer) (read : Cursor → Scalar.Read Token) : Except Error Lexer := do
  let s ← s.saveKey
  let (token, cursor) ← read s.cursor
  return { s.push token with keyAllowed := false, cursor }

/-- A block scalar. -/
def fetchBlockScalar (s : Lexer) : Except Error Lexer := do
  let s ← { s with keyAllowed := true }.dropKey
  let (text, cursor) ← Scalar.block s.indent s.cursor
  return { s.push (.scalar text false) with cursor }

/-- A plain scalar. -/
def fetchPlain (s : Lexer) : Except Error Lexer := do
  let s ← s.saveKey
  let (text, broken, cursor) := Scalar.plain s.inFlow (s.indent + 1) s.cursor
  return { s.push (.scalar text true) with keyAllowed := broken, cursor }

/-- A plain scalar may begin with these two characters. -/
def startsPlain (inFlow : Bool) (ch next : Char) : Bool :=
  !(isBlankOrEnd ch || "-?:,[]\x7b\x7d#&*!|>%@\"".toList.contains ch || ch == '\x27' ||
      ch == '\x60') ||
    (!isBlankOrEnd next && (ch == '-' || (!inFlow && (ch == '?' || ch == ':'))))

/-- The next token, or several where block collections end. -/
def fetch (s : Lexer) : Except Error Lexer := do
  let s ← (s.skipToToken (s.cursor.rest.length + 1)).dropStaleKeys
  let s := s.unwind s.cursor.column
  let c := s.cursor
  if c.rest.isEmpty then s.fetchEnd
  else
    let ch := c.peek
    let next := c.peekAt 1
    if ch == '%' && c.column == 0 then s.fetchDirective
    else if c.column == 0 && c.atDocumentMark then
      s.fetchDocumentMark (if ch == '-' then .documentStart else .documentEnd)
    else if ch == '[' then s.fetchFlowStart .flowSequenceStart
    else if ch == '\x7b' then s.fetchFlowStart .flowMappingStart
    else if ch == ']' then s.fetchFlowEnd .flowSequenceEnd
    else if ch == '\x7d' then s.fetchFlowEnd .flowMappingEnd
    else if ch == ',' then s.fetchFlowEntry
    else if ch == '-' && isBlankOrEnd next then s.fetchBlockEntry
    else if ch == '?' && (s.inFlow || isBlankOrEnd next) then s.fetchKey
    else if ch == ':' && (s.inFlow || isBlankOrEnd next) then s.fetchValue
    else if ch == '*' then
      s.fetchNode fun c => (anchorName c).map fun (name, c) => (.reference name, c)
    else if ch == '&' then
      s.fetchNode fun c => (anchorName c).map fun (name, c) => (.anchor name, c)
    else if ch == '!' then s.fetchNode tag
    else if (ch == '|' || ch == '>') && !s.inFlow then s.fetchBlockScalar
    else if ch == '\x27' || ch == '"' then
      s.fetchNode fun c => (Scalar.quoted c).map fun (text, c) => (.scalar text false, c)
    else if startsPlain s.inFlow ch next then s.fetchPlain
    else .error .malformed

/-- Reads tokens until the end of the text or the first fault. -/
def run : Nat → Lexer → TokenStream
  | 0, s => { tokens := s.tokens.toList, fault := some .malformed }
  | fuel + 1, s =>
    if s.finished then { tokens := s.tokens.toList, fault := none }
    else
      match s.fetch with
      | .ok s => run fuel s
      | .error e => { tokens := s.tokens.toList, fault := some e }

end Lexer

/-- The tokens of a text. A byte order mark at its beginning is passed over. -/
def TokenStream.ofText (text : String) : TokenStream :=
  let cs := text.toList
  if cs.all isAllowed then
    let start : Cursor := { rest := cs }
    let start := if start.peek == '\uFEFF' then start.advance else start
    Lexer.run (cs.length + 2) { cursor := start }
  else { tokens := [], fault := some .malformed }

end Catalog.Yaml
