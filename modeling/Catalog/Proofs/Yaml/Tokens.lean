import Catalog.Proofs.Yaml.Characters
import Catalog.Proofs.Yaml.Plain

/-!
# The tokens of a written sequence

The tokens of a sequence of mappings are read one by one from the text that is written for it.
Between two of them only the characters ahead matter, the column where they begin, and the block
collections that are open there. `Ahead` says this much of a state, and no more: a scalar between
quotes is left before the line break that ends its line, a plain one after it.
-/

namespace Catalog.Yaml

namespace Lexer

/-! ## Blanks before a token -/

/-- A token may begin with the text: neither a blank nor a comment stands there. -/
def BeginsToken (rest : List Char) : Prop := ∀ ch ∈ rest.head?, isBlankOrEnd ch = false ∧ ch ≠ '#'

theorem BeginsToken.peek {c : Cursor} (begins : BeginsToken c.rest) :
    (c.peek == '#') = false ∧ isBreak c.peek = false := by
  cases text : c.rest with
  | nil =>
    rw [Cursor.peek, text]
    decide
  | cons ch rest =>
    obtain ⟨blank, comment⟩ := begins ch (by rw [text]; rfl)
    rw [Cursor.peek_of_rest text]
    exact ⟨by simpa using comment, (not_blank blank).2.2.2⟩

variable {s : Lexer} {rest : List Char} {n : Nat}

theorem skipToToken_of_spaces (written : s.cursor.rest = List.replicate n ' ' ++ rest)
    (begins : BeginsToken rest) (fuel : Nat) :
    s.skipToToken (fuel + 1) = { s with cursor := s.cursor.advanceBy n } := by
  have spaces := Cursor.span_of_rest (p := (· == ' ')) written
    (fun ch member => by simp [List.eq_of_mem_replicate member])
    (fun ch member => by simpa using (not_blank (begins ch member).1).1)
  have left : (s.cursor.advanceBy n).rest = rest := by rw [Cursor.advanceBy_spaces written]
  obtain ⟨comment, unbroken⟩ := BeginsToken.peek (c := s.cursor.advanceBy n) (by rwa [left])
  rw [List.length_replicate] at spaces
  simp only [skipToToken, Cursor.skipSpaces, Cursor.skip, spaces, comment, unbroken,
    Bool.false_eq_true, if_false]

theorem skipToToken_of_break (written : s.cursor.rest = '\n' :: (List.replicate n ' ' ++ rest))
    (begins : BeginsToken rest) (outside : s.flowLevel = 0) (fuel : Nat) :
    s.skipToToken (fuel + 2) =
      { s with cursor := s.cursor.advance.advanceBy n, keyAllowed := true } := by
  have next : s.cursor.advance.rest = List.replicate n ' ' ++ rest := by
    rw [Cursor.advance_of_break written]
  have allowed : (s.keyAllowed || !s.inFlow) = true := by simp [inFlow, outside]
  have comment : ('\n' == '#') = false := by decide
  have broken : isBreak '\n' = true := by decide
  rw [skipToToken]
  simp only [Cursor.skipSpaces, Cursor.skip, Cursor.span_of_neg (p := (· == ' ')) written rfl,
    Cursor.peek_of_rest written, comment, broken, Cursor.lineBreak_of_rest written rfl, allowed,
    Bool.false_eq_true, if_false, if_true]
  rw [skipToToken_of_spaces next begins]

/-! ## States between tokens -/

/-- The next token begins with `rest` at a column, and may be a key. The tokens before it are
known, and so are the columns of the open block collections; no key waits for its colon. -/
def Ahead (s : Lexer) (tokens : List Token) (indent : Int) (outer : List Int) (rest : List Char)
    (column : Nat) : Prop :=
  s.finished = false ∧ ∃ c : Cursor, c.rest = rest ∧ c.column = column ∧
    s.skipToToken (s.cursor.rest.length + 1) =
      { cursor := c, tokens := tokens.toArray, indent, outer }

/-- The state at the next token, where block collections that ended before it are closed. -/
def atToken (s : Lexer) : Except Error Lexer := do
  let s ← (s.skipToToken (s.cursor.rest.length + 1)).dropStaleKeys
  return s.unwind s.cursor.column

theorem unwind_of_le {column : Int} (inside : s.indent ≤ column) : s.unwind column = s := by
  rw [unwind]
  split
  · rfl
  · cases s.outer with
    | nil => rfl
    | cons previous outer => rw [unwindFrom, if_neg (by omega)]

theorem atToken_eq_ok {u : Lexer} (reached : s.atToken = .ok u) :
    ∃ t, (s.skipToToken (s.cursor.rest.length + 1)).dropStaleKeys = .ok t ∧
      t.unwind t.cursor.column = u := by
  rw [atToken] at reached
  cases fresh : (s.skipToToken (s.cursor.rest.length + 1)).dropStaleKeys with
  | error e =>
    rw [fresh] at reached
    cases reached
  | ok t =>
    rw [fresh] at reached
    cases reached
    exact ⟨t, rfl, rfl⟩

section Fetch

variable {u : Lexer} {ch : Char}

theorem fetch_of_end (reached : s.atToken = .ok u) (text : u.cursor.rest = []) :
    s.fetch = u.fetchEnd := by
  obtain ⟨t, fresh, rfl⟩ := atToken_eq_ok reached
  rw [fetch, fresh]
  simp only [bind, Except.bind, text]
  rfl

/-- The hyphen before an entry. -/
theorem fetch_of_hyphen (reached : s.atToken = .ok u) (text : u.cursor.rest = '-' :: ' ' :: rest) :
    s.fetch = u.fetchBlockEntry := by
  obtain ⟨t, fresh, rfl⟩ := atToken_eq_ok reached
  have unmarked : (t.unwind t.cursor.column).cursor.atDocumentMark = false := by
    rw [Cursor.atDocumentMark, text]
    rfl
  have next : (t.unwind t.cursor.column).cursor.peekAt 1 = ' ' := by
    rw [Cursor.peekAt, text]
    rfl
  rw [fetch, fresh]
  simp only [bind, Except.bind, unmarked, next, Cursor.peek_of_rest text, Bool.and_false]
  rw [text]
  rfl

/-- The colon after a key. -/
theorem fetch_of_colon (reached : s.atToken = .ok u) (text : u.cursor.rest = ':' :: ' ' :: rest) :
    s.fetch = u.fetchValue := by
  obtain ⟨t, fresh, rfl⟩ := atToken_eq_ok reached
  have unmarked := Cursor.atDocumentMark_eq_false text (by decide) (by decide)
  have next : (t.unwind t.cursor.column).cursor.peekAt 1 = ' ' := by
    rw [Cursor.peekAt, text]
    rfl
  rw [fetch, fresh]
  simp only [bind, Except.bind, unmarked, next, Cursor.peek_of_rest text, Bool.and_false]
  rw [text]
  simp only [show isBlankOrEnd ' ' = true from rfl, Bool.or_true]
  rfl

/-- The quote before a scalar. -/
theorem fetch_of_quote {double : Bool} (reached : s.atToken = .ok u)
    (text : u.cursor.rest = (if double then '"' else '\x27') :: rest) :
    s.fetch = u.fetchNode fun c =>
      (Scalar.quoted c).map fun (text, c) => (.scalar text false, c) := by
  obtain ⟨t, fresh, rfl⟩ := atToken_eq_ok reached
  have unmarked := Cursor.atDocumentMark_eq_false text (by cases double <;> decide)
    (by cases double <;> decide)
  rw [fetch, fresh]
  simp only [bind, Except.bind, unmarked, Cursor.peek_of_rest text, Bool.and_false]
  rw [text]
  cases double <;> rfl

/-- The first character of a plain scalar. -/
theorem fetch_of_plain (reached : s.atToken = .ok u) (text : u.cursor.rest = ch :: rest)
    (outside : u.flowLevel = 0) (starts : startsPlain false ch (rest.headD '\x00') = true)
    (indented : u.cursor.column ≠ 0) :
    s.fetch = u.fetchPlain := by
  obtain ⟨t, fresh, rfl⟩ := atToken_eq_ok reached
  have next : (t.unwind t.cursor.column).cursor.peekAt 1 = rest.headD '\x00' := by
    rw [Cursor.peekAt, text]
    rfl
  have column : ((t.unwind t.cursor.column).cursor.column == 0) = false := by simpa using indented
  have flow : (t.unwind t.cursor.column).inFlow = false := by simp [inFlow, outside]
  rw [fetch, fresh]
  simp only [bind, Except.bind, next, Cursor.peek_of_rest text, column, flow, Bool.and_false,
    Bool.false_and, Bool.false_or, starts]
  rw [text]
  simp only [startsPlain, Bool.or_eq_true, Bool.and_eq_true, Bool.not_eq_true',
    Bool.or_eq_false_iff, Bool.not_false, true_and, beq_iff_eq] at starts
  -- either no indicator stands there, or one of the three that need a blank behind them
  obtain ⟨⟨⟨-, listed⟩, single⟩, -⟩ | ⟨blank, marks⟩ := starts
  · simp at listed
    simp [listed, single]
  · simp only [blank]
    rcases marks with rfl | rfl | rfl <;> rfl

theorem fetchPlain_eq {t : Lexer} (saved : u.saveKey = .ok t) (outside : t.flowLevel = 0)
    {text : String} {broken : Bool} {last : Cursor}
    (reads : Scalar.plain false (t.indent + 1) t.cursor = (text, broken, last)) :
    u.fetchPlain =
      .ok { t.push (.scalar text true) with keyAllowed := broken, cursor := last } := by
  have flow : t.inFlow = false := by simp [inFlow, outside]
  rw [fetchPlain, saved]
  simp only [bind, Except.bind, flow, reads]
  rfl

end Fetch

/-! ## The tokens of a pair -/

section Pair

variable {tokens : List Token} {indent : Int} {outer : List Int} {column : Nat} {key : List Char}

theorem Ahead.atToken (ahead : Ahead s tokens indent outer rest column) :
    ∃ c : Cursor, c.rest = rest ∧ c.column = column ∧
      s.atToken = .ok (unwind { cursor := c, tokens := tokens.toArray, indent, outer } column) := by
  obtain ⟨-, c, left, rfl, skips⟩ := ahead
  refine ⟨c, left, rfl, ?_⟩
  rw [Lexer.atToken, skips]
  rfl

theorem ahead_of_spaces {c : Cursor} (written : c.rest = List.replicate n ' ' ++ rest)
    (begins : BeginsToken rest) :
    Ahead { cursor := c, tokens := tokens.toArray, indent, outer } tokens indent outer rest
      (c.column + n) := by
  have next := Cursor.advanceBy_spaces written
  refine ⟨rfl, c.advanceBy n, by rw [next], by rw [next], ?_⟩
  rw [skipToToken_of_spaces written begins]

theorem ahead_of_break {c : Cursor} (written : c.rest = '\n' :: (List.replicate n ' ' ++ rest))
    (begins : BeginsToken rest) :
    Ahead { cursor := c, tokens := tokens.toArray, indent, outer, keyAllowed := false } tokens
      indent outer rest n := by
  have after := Cursor.advance_of_break written
  have next := Cursor.advanceBy_spaces (c := c.advance) (by rw [after])
  refine ⟨rfl, c.advance.advanceBy n, by rw [next], by rw [next, after]; exact Nat.zero_add n, ?_⟩
  have length : c.rest.length + 1 = (List.replicate n ' ' ++ rest).length + 2 := by
    rw [written, List.length_cons]
  rw [length, skipToToken_of_break written begins rfl]

/-- The state after a key that began at `c`, before its colon. -/
def afterKey (c : Cursor) (tokens : List Token) (indent : Int) (outer : List Int)
    (key : List Char) : Lexer :=
  { cursor := c.advanceBy key.length
    tokens := (tokens ++ [Token.scalar (String.ofList key) true]).toArray
    indent
    outer
    keyAllowed := false
    keys := [(0,
      { position := tokens.length
        required := indent == (c.column : Int)
        index := c.index
        line := c.line
        column := c.column })] }

theorem Ahead.fetch_key
    (ahead : Ahead s tokens indent outer (key ++ ':' :: ' ' :: rest) column)
    (letters : ∀ ch ∈ key, ch.isAlpha = true) (some : key ≠ []) (deeper : indent ≤ column)
    (indented : 0 < column) :
    ∃ c : Cursor, c.rest = key ++ ':' :: ' ' :: rest ∧ c.column = column ∧
      s.fetch = .ok (afterKey c tokens indent outer key) := by
  obtain ⟨c, left, rfl, reached⟩ := ahead.atToken
  refine ⟨c, left, rfl, ?_⟩
  rw [unwind_of_le (by exact deeper)] at reached
  have plain := Scalar.plain_of_word letters some left (indent + 1)
  obtain ⟨ch, more, rfl⟩ := List.exists_cons_of_ne_nil some
  rw [List.cons_append] at left
  have starts := (Scalar.startsPlain_of_isAlpha (letters ch List.mem_cons_self)
    ((more ++ ':' :: ' ' :: rest).headD '\x00')).2
  rw [fetch_of_plain reached left rfl starts (by exact indented.ne'),
    fetchPlain_eq rfl rfl plain, afterKey, push]
  simp only [List.push_toArray]
  rfl

/-- The tokens from a key to its colon. The first key of a mapping opens it. -/
def keyTokens (opened : Bool) (key : List Char) : List Token :=
  (if opened then [.blockMappingStart] else []) ++
    [.key, .scalar (String.ofList key) true, .value]

/-- A key ends on the line on which it begins. -/
theorem advanceBy_key {c : Cursor} (written : c.rest = key ++ rest)
    (letters : ∀ ch ∈ key, ch.isAlpha = true) :
    c.advanceBy key.length =
      { c with rest, index := c.index + key.length, column := c.column + key.length } :=
  Cursor.advanceBy_of_isOnLine written fun ch member =>
    (Scalar.startsPlain_of_isAlpha (letters ch member) ' ').1

theorem advance_colon {c : Cursor} (written : c.rest = key ++ ':' :: rest)
    (letters : ∀ ch ∈ key, ch.isAlpha = true) :
    (c.advanceBy key.length).advance.rest = rest ∧
      (c.advanceBy key.length).advance.column = c.column + key.length + 1 := by
  have next := advanceBy_key written letters
  have after := Cursor.advance_of_isOnLine (c := c.advanceBy key.length) (by rw [next])
    (show Cursor.isOnLine ':' = true by decide)
  exact ⟨by rw [after], by rw [after, next]⟩

theorem dropStaleKeys_afterKey {c : Cursor} (written : c.rest = key ++ ':' :: ' ' :: rest)
    (letters : ∀ ch ∈ key, ch.isAlpha = true) (short : key.length ≤ maxKeyLength) :
    (afterKey c tokens indent outer key).dropStaleKeys =
      .ok (afterKey c tokens indent outer key) := by
  have next := advanceBy_key written letters
  have near : ¬ maxKeyLength < key.length := by omega
  simp [dropStaleKeys, afterKey, next, near]

/-- The token for the colon after a key stands after those that mark the key. -/
theorem fetchValue_afterKey (c : Cursor) (deeper : indent ≤ c.column) :
    (afterKey c tokens indent outer key).fetchValue = .ok
      { cursor := (c.advanceBy key.length).advance
        tokens := (tokens ++ keyTokens (indent < c.column) key).toArray
        indent := c.column
        outer := if indent < c.column then indent :: outer else outer
        keyAllowed := false } := by
  by_cases opened : indent < c.column
  · simp [fetchValue, afterKey, keyTokens, deepen, opened, inFlow, push]
  · obtain rfl : indent = c.column := by omega
    simp [fetchValue, afterKey, keyTokens, deepen, inFlow, push]

/-- The colon after a key. -/
theorem fetch_colon {c : Cursor} (written : c.rest = key ++ ':' :: ' ' :: rest)
    (letters : ∀ ch ∈ key, ch.isAlpha = true) (short : key.length ≤ maxKeyLength)
    (deeper : indent ≤ c.column) :
    (afterKey c tokens indent outer key).fetch =
      (afterKey c tokens indent outer key).fetchValue := by
  have left : (c.advanceBy key.length).rest = ':' :: ' ' :: rest := by
    rw [Cursor.rest_advanceBy, written, List.drop_left]
  have next := advanceBy_key written letters
  have reached : (afterKey c tokens indent outer key).atToken =
      .ok (afterKey c tokens indent outer key) := by
    have begins : BeginsToken (':' :: ' ' :: rest) := by
      intro ch member
      cases member
      decide
    rw [atToken, skipToToken_of_spaces (n := 0) left begins]
    rw [Cursor.advanceBy, dropStaleKeys_afterKey written letters short]
    simp only [bind, Except.bind]
    rw [unwind_of_le]
    · rfl
    · rw [afterKey, next]
      show indent ≤ _
      push_cast
      omega
  exact fetch_of_colon reached left

/-- What may stand on the line after a pair: spaces, then a token that is no document mark. -/
structure NextLine (spaces : Nat) (rest : List Char) : Prop where
  begins : BeginsToken rest
  unmarked : ∀ c : Cursor, c.rest = List.replicate spaces ' ' ++ rest → c.atDocumentMark = false

/-- The state after the colon of a key. -/
def afterColon (c : Cursor) (tokens : List Token) (column : Nat) (outer : List Int) : Lexer :=
  { cursor := c, tokens := tokens.toArray, indent := column, outer, keyAllowed := false }

theorem atToken_afterColon (tokens : List Token) (outer : List Int) {c : Cursor}
    (written : c.rest = ' ' :: rest) (begins : BeginsToken rest) (deeper : column ≤ c.column) :
    (afterColon c tokens column outer).atToken = .ok (afterColon c.advance tokens column outer) ∧
      c.advance.rest = rest ∧ c.advance.column = c.column + 1 := by
  have next := Cursor.advance_of_isOnLine written (by decide)
  refine ⟨?_, by rw [next], by rw [next]⟩
  rw [atToken, skipToToken_of_spaces (n := 1) written begins]
  show Except.ok (unwind (afterColon c.advance tokens column outer) c.advance.column) = _
  rw [unwind_of_le]
  rw [next]
  show (column : Int) ≤ (c.column + 1 : Nat)
  omega

section

open Printer

variable {value : String} {spaces col : Nat}

/-- The scalar between quotes after a colon. -/
theorem fetch_quoted (double : Bool) {c : Cursor} {text out : List Char}
    (written : c.rest = ' ' :: (if double then '"' else '\x27') :: text)
    (means : Scalar.QuotedAs double text out ('\n' :: (List.replicate spaces ' ' ++ rest)))
    (next : BeginsToken rest) (deeper : column ≤ c.column) :
    ∃ s, (afterColon c tokens column outer).fetch = .ok s ∧
      Ahead s (tokens ++ [.scalar (String.ofList out) false]) column outer rest spaces := by
  have begins : BeginsToken ((if double then '"' else '\x27') :: text) := by
    intro ch member
    cases member
    cases double <;> decide
  obtain ⟨reached, text, -⟩ := atToken_afterColon tokens outer written begins deeper
  obtain ⟨last, reads, left⟩ := Scalar.quoted_of_quotedAs text means
  refine ⟨_, ?_, ahead_of_break left next⟩
  rw [fetch_of_quote reached text, fetchNode, saveKey]
  simp [afterColon, reads, Except.map, push, bind, Except.bind, pure, Except.pure]

/-- The plain scalar after a colon. -/
theorem fetch_plain {c : Cursor} (allowed : plainAllowed value.toList = true) (some : value ≠ "")
    (written : c.rest = ' ' :: (plainFrom (column + 2) false col value.toList ++
      '\n' :: (List.replicate spaces ' ' ++ rest)))
    (next : NextLine spaces rest) (less : spaces ≤ column) (deeper : column ≤ c.column) :
    ∃ s, (afterColon c tokens column outer).fetch = .ok s ∧
      Ahead s (tokens ++ [.scalar value true]) column outer rest spaces := by
  obtain ⟨ch, more, chars⟩ : ∃ ch more, value.toList = ch :: more := by
    refine List.exists_cons_of_ne_nil fun none => some ?_
    rwa [String.toList_eq_nil_iff] at none
  rw [chars] at allowed written
  obtain ⟨-, space, shown, unbroken, -⟩ := plainAllowed_cons allowed
  have starts := startsPlain_of_plainAllowed allowed (column + 2) false (col + 1)
    (List.replicate spaces ' ' ++ rest)
  have begins : BeginsToken (plainFrom (column + 2) false col (ch :: more) ++
      '\n' :: (List.replicate spaces ' ' ++ rest)) := by
    rw [plainFrom_of_ne space]
    intro ch' member
    cases member
    exact ⟨text_of_isShown shown space unbroken, (continues_of_startsPlain starts).2⟩
  obtain ⟨reached, text, place⟩ := atToken_afterColon tokens outer written begins deeper
  -- the next line is indented less than the further lines of the scalar, and so ends it
  have close : Scalar.PlainAs (column + 1) ('\n' :: (List.replicate spaces ' ' ++ rest)) [] rest
      spaces :=
    .close (by omega) (fun ch member => (next.begins ch member).1) next.unmarked
  obtain ⟨last, reads, left, rfl⟩ := plain_plainFrom allowed (by omega) (by omega) close text
    (by omega)
  rw [plainFrom_of_ne space] at text
  have here : last.rest = List.replicate 0 ' ' ++ rest := left
  have indented : (afterColon c.advance tokens column outer).cursor.column ≠ 0 :=
    place ▸ Nat.succ_ne_zero _
  have saved : (afterColon c.advance tokens column outer).saveKey =
      .ok (afterColon c.advance tokens column outer) := rfl
  refine ⟨_, ?_, ahead_of_spaces here next.begins⟩
  rw [fetch_of_plain reached text rfl starts indented, fetchPlain_eq saved rfl reads]
  simp [afterColon, push, ← chars]

/-- The token of a scalar that was written as a value. -/
def valueToken (value : String) : Token := .scalar (reread value) (styleOf value == .plain)

/-- The scalar after a colon, in any style. -/
theorem fetch_scalar {c : Cursor}
    (written : c.rest = ' ' :: (scalar (column + 2) col value ++
      '\n' :: (List.replicate spaces ' ' ++ rest)))
    (next : NextLine spaces rest) (less : spaces ≤ column) (deeper : column ≤ c.column)
    (narrow : column + 3 ≤ width) :
    ∃ s, (afterColon c tokens column outer).fetch = .ok s ∧
      Ahead s (tokens ++ [valueToken value]) column outer rest spaces := by
  rw [valueToken, reread]
  rw [scalar] at written
  cases style : styleOf value with
  | plain =>
    obtain ⟨allowed, tag⟩ := styleOf_eq_plain style
    have some : value ≠ "" := by
      rintro rfl
      exact absurd tag (by decide)
    simp only [style] at written
    exact fetch_plain allowed some written next less deeper
  | single =>
    simp only [style, List.cons_append, List.append_assoc] at written
    exact fetch_quoted false written
      (singleFrom_quotedAs (by omega) (by simp) (styleOf_eq_single style) _) next.begins deeper
  | double =>
    simp only [style, List.cons_append, List.append_assoc] at written
    obtain ⟨s, fetches, ahead⟩ := fetch_quoted true written
      (doubleFrom_quotedAs (by omega) (by omega) _ _) next.begins deeper
    rw [String.ofList_toList] at ahead
    exact ⟨s, fetches, ahead⟩

end

end Pair

/-! ## Steps -/

theorem run_succ (fuel : Nat) (s : Lexer) :
    run (fuel + 1) s =
      if s.finished then { tokens := s.tokens.toList, fault := none }
      else
        match s.fetch with
        | .ok s => run fuel s
        | .error e => { tokens := s.tokens.toList, fault := some e } := by
  -- the equation of `run` is not found in time, since `fetch` is opened on the way
  delta run
  delta run._f
  rfl

/-- From one state another is reached in at most `n` steps. -/
def Leads (n : Nat) (s t : Lexer) : Prop := ∃ k ≤ n, ∀ fuel, run (fuel + k) s = run fuel t

theorem Leads.of_fetch {t : Lexer} (unfinished : s.finished = false) (fetches : s.fetch = .ok t) :
    Leads 1 s t := by
  refine ⟨1, le_rfl, fun fuel => ?_⟩
  simp only [run_succ, unfinished, fetches, Bool.false_eq_true, if_false]

theorem Leads.trans {t u : Lexer} {m n : Nat} (first : Leads m s t) (second : Leads n t u) :
    Leads (m + n) s u := by
  obtain ⟨j, few, first⟩ := first
  obtain ⟨k, few', second⟩ := second
  refine ⟨k + j, by omega, fun fuel => ?_⟩
  rw [← Nat.add_assoc, first, second]

/-- The text ends after at most `n` steps, without a fault. -/
def Ends (n : Nat) (s : Lexer) (tokens : List Token) : Prop :=
  ∃ k ≤ n, ∀ fuel, run (fuel + k) s = { tokens, fault := none }

theorem Ends.run {n m : Nat} {tokens : List Token} (ends : Ends n s tokens) (enough : n ≤ m) :
    run m s = { tokens, fault := none } := by
  obtain ⟨k, few, ends⟩ := ends
  rw [← ends (m - k), Nat.sub_add_cancel (by omega)]

theorem Leads.ends {t : Lexer} {m n : Nat} {tokens : List Token} (first : Leads m s t)
    (ends : Ends n t tokens) : Ends (m + n) s tokens := by
  obtain ⟨j, few, first⟩ := first
  obtain ⟨k, few', ends⟩ := ends
  refine ⟨k + j, by omega, fun fuel => ?_⟩
  rw [← Nat.add_assoc, first, ends]

/-- Keys that are written without quotes: short words whose spelling shows no other type. -/
structure IsWord (key : String) : Prop where
  nonempty : key ≠ ""
  letters : key.toList.all Char.isAlpha = true
  short : key.length ≤ maxKeyLength
  text : Tag.ofPlain key = Tag.str

theorem IsWord.letter {key : String} (word : IsWord key) :
    ∀ ch ∈ key.toList, ch.isAlpha = true :=
  List.all_eq_true.mp word.letters

/-- The tokens of a pair. -/
def pairTokens (opened : Bool) (entry : String × String) : List Token :=
  keyTokens opened entry.1.toList ++ [valueToken entry.2]

variable {tokens : List Token} {indent : Int} {outer : List Int} {column spaces : Nat}

/-- A pair is read in three steps: the key, the colon and the value. -/
theorem Ahead.pair {key value : String}
    (ahead : Ahead s tokens indent outer
      (Printer.pair column key value ++ (List.replicate spaces ' ' ++ rest)) column)
    (word : IsWord key) (deeper : indent ≤ column) (indented : 0 < column)
    (narrow : column + 3 ≤ Printer.width) (next : NextLine spaces rest) (less : spaces ≤ column) :
    ∃ t, Leads 3 s t ∧
      Ahead t (tokens ++ pairTokens (indent < column) (key, value)) column
        (if indent < column then indent :: outer else outer) rest spaces := by
  have letters := word.letter
  have text : Printer.pair column key value ++ (List.replicate spaces ' ' ++ rest) =
      key.toList ++ ':' :: ' ' :: (Printer.scalar (column + 2) (column + key.length + 2) value ++
        '\n' :: (List.replicate spaces ' ' ++ rest)) := by
    simp [Printer.pair]
  rw [text] at ahead
  obtain ⟨c, left, rfl, keyed⟩ := ahead.fetch_key letters (by simpa using word.nonempty) deeper
    indented
  have colon : (afterKey c tokens indent outer key.toList).fetch = _ :=
    (fetch_colon left letters word.short deeper).trans (fetchValue_afterKey c deeper)
  obtain ⟨after, place⟩ := advance_colon left letters
  obtain ⟨t, valued, reached⟩ := fetch_scalar after next less (by omega) narrow
  refine ⟨t, ?_, ?_⟩
  · exact ((Leads.of_fetch ahead.1 keyed).trans (.of_fetch rfl colon)).trans (.of_fetch rfl valued)
  · rwa [pairTokens, ← List.append_assoc]

/-! ## The tokens of a sequence of mappings -/

namespace NextLine

theorem nil : NextLine 0 [] := by
  refine ⟨by simp [BeginsToken], fun c written => ?_⟩
  rw [Cursor.atDocumentMark, written]
  rfl

theorem hyphen (rest : List Char) : NextLine 0 ('-' :: ' ' :: rest) := by
  refine ⟨fun ch member => ?_, fun c written => ?_⟩
  · cases member
    decide
  · rw [Cursor.atDocumentMark, written]
    rfl

theorem word {key : String} (word : IsWord key) (spaces : Nat) (rest : List Char) :
    NextLine spaces (key.toList ++ rest) := by
  obtain ⟨ch, more, chars⟩ : ∃ ch more, key.toList = ch :: more :=
    List.exists_cons_of_ne_nil (by simpa using word.nonempty)
  have letter : ch.isAlpha = true := word.letter ch (by rw [chars]; exact List.mem_cons_self)
  obtain ⟨continues, comment⟩ := Printer.continues_of_startsPlain
    (Scalar.startsPlain_of_isAlpha letter (more.headD '\x00')).2
  rw [chars]
  refine ⟨fun ch' member => ?_, fun c written => ?_⟩
  · cases member
    exact ⟨continues.1, comment⟩
  · cases spaces with
    | zero =>
      refine Cursor.atDocumentMark_eq_false written ?_ ?_
      · rintro rfl
        exact absurd letter (by decide)
      · rintro rfl
        exact absurd letter (by decide)
    | succ n => exact Cursor.atDocumentMark_eq_false written (by decide) (by decide)

end NextLine

/-- The tokens of the pairs of a mapping. -/
def mappingTokens : Bool → List (String × String) → List Token
  | _, [] => []
  | opened, entry :: rest => pairTokens opened entry ++ mappingTokens false rest

theorem pairs_cons (column : Nat) (entry : String × String) (rest : List (String × String)) :
    Printer.pairs column (entry :: rest) =
      Printer.pair column entry.1 entry.2 ++
        (List.replicate (if rest.isEmpty then 0 else column) ' ' ++ Printer.pairs column rest) := by
  cases rest with
  | nil => simp [Printer.pairs]
  | cons next rest => simp [Printer.pairs]

theorem nextLine_pairs {entries : List (String × String)} (some : entries ≠ [])
    (words : ∀ entry ∈ entries, IsWord entry.1) (spaces column : Nat) (rest : List Char) :
    NextLine spaces (Printer.pairs column entries ++ rest) := by
  obtain ⟨entry, more, rfl⟩ := List.exists_cons_of_ne_nil some
  rw [pairs_cons, Printer.pair, List.append_assoc, List.append_assoc, List.append_assoc]
  exact .word (words entry List.mem_cons_self) spaces _

/-- The first pair opens the mapping; the others stand in the column of its key. -/
theorem Ahead.pairs {entries : List (String × String)} (some : entries ≠ [])
    (ahead : Ahead s tokens indent outer (Printer.pairs column entries ++ rest) column)
    (words : ∀ entry ∈ entries, IsWord entry.1) (deeper : indent ≤ column) (indented : 0 < column)
    (narrow : column + 3 ≤ Printer.width) (next : NextLine 0 rest) :
    ∃ t, Leads (3 * entries.length) s t ∧
      Ahead t (tokens ++ mappingTokens (indent < column) entries) column
        (if indent < column then indent :: outer else outer) rest 0 := by
  induction entries generalizing s tokens indent outer with
  | nil => exact absurd rfl some
  | cons entry more ih =>
    obtain ⟨word, words⟩ := List.forall_mem_cons.mp words
    rw [pairs_cons, List.append_assoc, List.append_assoc] at ahead
    cases more with
    | nil =>
      obtain ⟨t, leads, reached⟩ := ahead.pair word deeper indented narrow next (Nat.zero_le _)
      refine ⟨t, leads, ?_⟩
      simpa [mappingTokens, Printer.pairs] using reached
    | cons second more =>
      have line := nextLine_pairs (by simp) words column column rest
      obtain ⟨t, leads, reached⟩ := ahead.pair word deeper indented narrow line le_rfl
      obtain ⟨u, leads', reached'⟩ := ih (by simp) reached words (Int.le_refl _)
      refine ⟨u, ?_, ?_⟩
      · have both := leads.trans leads'
        rwa [Nat.add_comm, ← Nat.mul_succ] at both
      · simpa [mappingTokens] using reached'

theorem ahead_of_hyphen {c : Cursor} (written : c.rest = '-' :: ' ' :: rest)
    (start : c.column = 0) (begins : BeginsToken rest) :
    Ahead { cursor := c.advance, tokens := tokens.toArray, indent, outer } tokens indent outer rest
      2 := by
  have after := Cursor.advance_of_isOnLine written (by decide)
  have line : c.advance.rest = List.replicate 1 ' ' ++ rest := by rw [after]; rfl
  have column : c.advance.column + 1 = 2 := by rw [after, start]
  exact column ▸ ahead_of_spaces line begins

/-- The hyphen of the first entry opens the sequence. -/
theorem Ahead.first_hyphen (ahead : Ahead s tokens (-1) [] ('-' :: ' ' :: rest) 0)
    (begins : BeginsToken rest) :
    ∃ t, Leads 1 s t ∧ Ahead t (tokens ++ [.blockSequenceStart, .blockEntry]) 0 [-1] rest 2 := by
  obtain ⟨c, left, start, reached⟩ := ahead.atToken
  refine ⟨_, .of_fetch ahead.1 ?_, ahead_of_hyphen left start begins⟩
  rw [fetch_of_hyphen reached left, fetchBlockEntry]
  simp [openBlock, unwind, unwindFrom, deepen, inFlow, push, dropKey, start, bind, Except.bind,
    pure, Except.pure]

/-- The hyphen of a later entry ends the mapping before it. -/
theorem Ahead.later_hyphen (ahead : Ahead s tokens 2 [0, -1] ('-' :: ' ' :: rest) 0)
    (begins : BeginsToken rest) :
    ∃ t, Leads 1 s t ∧ Ahead t (tokens ++ [.blockEnd, .blockEntry]) 0 [-1] rest 2 := by
  obtain ⟨c, left, start, reached⟩ := ahead.atToken
  refine ⟨_, .of_fetch ahead.1 ?_, ahead_of_hyphen left start begins⟩
  rw [fetch_of_hyphen reached left, fetchBlockEntry]
  simp [openBlock, unwind, unwindFrom, deepen, inFlow, push, dropKey, start, bind, Except.bind,
    pure, Except.pure]

/-- At the end of the text the last mapping and the sequence are ended. -/
theorem Ahead.run_end (ahead : Ahead s tokens 2 [0, -1] [] 0) (fuel : Nat) :
    run (fuel + 2) s =
      { tokens := tokens ++ [.blockEnd, .blockEnd, .streamEnd], fault := none } := by
  obtain ⟨c, left, start, reached⟩ := ahead.atToken
  have fetches : s.fetch = .ok
      { cursor := c
        tokens := (tokens ++ [Token.blockEnd, Token.blockEnd, Token.streamEnd]).toArray
        keyAllowed := false
        finished := true } := by
    rw [fetch_of_end reached left, fetchEnd]
    simp [closeBlocks, unwind, unwindFrom, inFlow, push, dropKey, bind, Except.bind, pure,
      Except.pure]
  rw [run_succ, ahead.1, fetches]
  simp only [run_succ, Bool.false_eq_true, if_false, if_true]

/-- The tokens of an entry. -/
def itemTokens (entries : List (String × String)) : List Token :=
  .blockEntry :: (mappingTokens true entries ++ [.blockEnd])

/-- The tokens of a sequence of mappings. -/
def sequenceTokens (items : List (List (String × String))) : List Token :=
  .blockSequenceStart :: (items.flatMap itemTokens ++ [.blockEnd, .streamEnd])

/-- Mappings whose keys are words. -/
def IsTable (items : List (List (String × String))) : Prop :=
  ∀ entries ∈ items, entries ≠ [] ∧ ∀ entry ∈ entries, IsWord entry.1

/-- An entry as it is written. -/
def itemText (entries : List (String × String)) : List Char := '-' :: ' ' :: Printer.pairs 2 entries

/-- The pairs of an entry, after its hyphen. -/
theorem Ahead.item {entries : List (String × String)} (some : entries ≠ [])
    (words : ∀ entry ∈ entries, IsWord entry.1) (next : NextLine 0 rest)
    (ahead : Ahead s tokens 0 [-1] (Printer.pairs 2 entries ++ rest) 2) :
    ∃ t, Leads (3 * entries.length) s t ∧
      Ahead t (tokens ++ mappingTokens true entries) 2 [0, -1] rest 0 :=
  ahead.pairs some words (by decide) (by decide) (by decide) next

/-- How many steps the entries take. -/
def steps : List (List (String × String)) → Nat
  | [] => 0
  | entries :: items => 1 + 3 * entries.length + steps items

theorem nextLine_items (items : List (List (String × String))) :
    NextLine 0 (items.flatMap itemText) := by
  cases items with
  | nil => exact .nil
  | cons entries items => exact .hyphen _

/-- The entries after the first one, up to the end of the text. -/
theorem Ahead.items {items : List (List (String × String))} (table : IsTable items)
    (ahead : Ahead s tokens 2 [0, -1] (items.flatMap itemText) 0) :
    Ends (steps items + 2) s
      (tokens ++ .blockEnd :: (items.flatMap itemTokens ++ [.blockEnd, .streamEnd])) := by
  -- the end of a mapping is known only at the next hyphen, or at the end of the text
  induction items generalizing s tokens with
  | nil =>
    refine ⟨2, le_rfl, fun fuel => ?_⟩
    rw [ahead.run_end]
    rfl
  | cons entries items ih =>
    obtain ⟨⟨some, words⟩, table⟩ := List.forall_mem_cons.mp table
    obtain ⟨t, leads, reached⟩ := ahead.later_hyphen (nextLine_pairs some words 0 2 _).begins
    obtain ⟨u, leads', reached'⟩ := reached.item some words (nextLine_items items)
    have ends := (leads.trans leads').ends (ih table reached')
    simpa [steps, itemTokens, Nat.add_assoc] using ends

/-- All entries, from the beginning of the text on. -/
theorem Ahead.sequence {items : List (List (String × String))} (table : IsTable items)
    (some : items ≠ []) (ahead : Ahead s [] (-1) [] (items.flatMap itemText) 0) :
    Ends (steps items + 2) s (sequenceTokens items) := by
  obtain ⟨entries, items, rfl⟩ := List.exists_cons_of_ne_nil some
  obtain ⟨⟨some, words⟩, table⟩ := List.forall_mem_cons.mp table
  obtain ⟨t, leads, reached⟩ := ahead.first_hyphen (nextLine_pairs some words 0 2 _).begins
  obtain ⟨u, leads', reached'⟩ := reached.item some words (nextLine_items items)
  have ends := (leads.trans leads').ends (reached'.items table)
  simpa [steps, sequenceTokens, itemTokens, Nat.add_assoc] using ends

theorem length_pairs (column : Nat) (entries : List (String × String)) :
    3 * entries.length ≤ (Printer.pairs column entries).length := by
  induction entries with
  | nil => exact le_rfl
  | cons entry entries ih =>
    simp only [pairs_cons, Printer.pair, List.length_append, List.length_cons, List.length_nil]
    omega

/-- There are no more steps than characters. -/
theorem steps_le_length (items : List (List (String × String))) :
    steps items ≤ (items.flatMap itemText).length := by
  induction items with
  | nil => exact le_rfl
  | cons entries items ih =>
    have pairs := length_pairs 2 entries
    simp only [steps, List.flatMap_cons, List.length_append, itemText, List.length_cons]
    omega

theorem isWritten_of_isAlpha {ch : Char} (letter : ch.isAlpha = true) :
    Printer.isWritten ch = true := by
  have range : 0x20 ≤ ch.toNat ∧ ch.toNat ≤ 0x7E := by
    rcases Bool.or_eq_true_iff.mp letter with capital | small
    · have code : 65 ≤ ch.toNat ∧ ch.toNat ≤ 90 := of_decide_eq_true capital
      omega
    · obtain ⟨from_a, to_z⟩ := Bool.and_eq_true_iff.mp small
      have code : 97 ≤ ch.toNat ∧ ch.toNat ≤ 122 :=
        ⟨of_decide_eq_true from_a, of_decide_eq_true to_z⟩
      omega
  exact Printer.isWritten_of_range range

theorem all_pairs {entries : List (String × String)} (words : ∀ entry ∈ entries, IsWord entry.1)
    (column : Nat) : (Printer.pairs column entries).all Printer.isWritten = true := by
  induction entries with
  | nil => rfl
  | cons entry entries ih =>
    obtain ⟨word, words⟩ := List.forall_mem_cons.mp words
    have key : entry.1.toList.all Printer.isWritten = true :=
      List.all_eq_true.mpr fun ch member => isWritten_of_isAlpha (word.letter ch member)
    rw [pairs_cons, Printer.pair]
    simp only [List.all_append, List.all_cons, key, Printer.all_scalar, Printer.all_spaces,
      ih words]
    rfl

theorem all_items {items : List (List (String × String))} (table : IsTable items) :
    (items.flatMap itemText).all Printer.isWritten = true := by
  rw [List.all_flatMap, List.all_eq_true]
  intro entries member
  simp only [itemText, List.all_cons, all_pairs (table entries member).2]
  rfl

end Lexer

/-- A sequence of mappings is written so that these are its tokens. -/
theorem TokenStream.ofText_sequence {items : List (List (String × String))}
    (table : Lexer.IsTable items) (some : items ≠ []) :
    TokenStream.ofText (Printer.sequence items) =
      { tokens := Lexer.sequenceTokens items, fault := none } := by
  have text : (Printer.sequence items).toList = items.flatMap Lexer.itemText := by
    rw [Printer.sequence, if_neg (by simpa using some), String.toList_ofList]
    rfl
  have allowed : (items.flatMap Lexer.itemText).all isAllowed = true :=
    List.all_eq_true.mpr fun ch member =>
      Printer.isAllowed_of_isWritten (List.all_eq_true.mp (Lexer.all_items table) ch member)
  obtain ⟨entries, more, rfl⟩ := List.exists_cons_of_ne_nil some
  rw [ofText, text, if_pos allowed]
  have ahead : Lexer.Ahead { cursor := { rest := (entries :: more).flatMap Lexer.itemText } } []
      (-1) [] ((entries :: more).flatMap Lexer.itemText) 0 :=
    Lexer.ahead_of_spaces (n := 0) rfl (Lexer.nextLine_items (entries :: more)).begins
  exact (ahead.sequence table some).run (Nat.add_le_add_right (Lexer.steps_le_length _) 2)

end Catalog.Yaml
