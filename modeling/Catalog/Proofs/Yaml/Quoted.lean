import Catalog.Yaml.Printer
import Catalog.Yaml.Scalar
import Mathlib.Data.List.TakeWhile

/-!
# Scalars between quotes

A scalar between quotes is read in runs of text with blanks and line breaks between them, up to the
closing quote. `QuotedAs double text out tail` says what characters mean from any place inside such
a scalar on: they are read as `out`, and `tail` is left behind the closing quote. The lemmas about
it go from the end of the scalar to its beginning, one character, escape or gap at a time, so that
what is written can be followed by recursion on the text.
-/

namespace Catalog.Yaml

namespace Cursor

variable {c : Cursor} {ch : Char} {rest : List Char}

@[simp] theorem rest_advance (c : Cursor) : c.advance.rest = c.rest.tail := by
  rw [advance]
  split
  · rename_i none
    rw [none, List.tail_nil]
  · rename_i some
    rw [some, List.tail_cons]
    split
    · rfl
    · split <;> rfl

@[simp] theorem rest_advanceBy (c : Cursor) (n : Nat) : (c.advanceBy n).rest = c.rest.drop n := by
  induction n generalizing c with
  | zero => rfl
  | succ n ih => rw [advanceBy, ih, rest_advance, List.drop_tail]

theorem peek_of_rest (text : c.rest = ch :: rest) : c.peek = ch := by
  rw [peek, text, List.headD_cons]

theorem span_of_rest {p : Char → Bool} {taken more : List Char} (text : c.rest = taken ++ more)
    (inside : ∀ ch ∈ taken, p ch = true) (outside : ∀ ch ∈ more.head?, p ch = false) :
    c.span p = (taken, c.advanceBy taken.length) := by
  have run : c.rest.takeWhile p = taken := by
    rw [text, List.takeWhile_append_of_pos inside]
    cases more with
    | nil => simp
    | cons ch more => simp [outside ch rfl]
  rw [span, run]

theorem span_of_pos {p : Char → Bool} (text : c.rest = ch :: rest) (inside : p ch = true) :
    c.span p = (ch :: (c.advance.span p).1, (c.advance.span p).2) := by
  simp [span, text, inside, advanceBy]

theorem span_of_neg {p : Char → Bool} (text : c.rest = ch :: rest) (outside : p ch = false) :
    c.span p = ([], c) := by
  simp [span, text, outside, advanceBy]

/-- How a line break inside a scalar counts. -/
def meantBreak (ch : Char) : Char := if ch == '\x85' then '\n' else ch

theorem lineBreak_of_rest (text : c.rest = ch :: rest) (isBreak : Printer.isInnerBreak ch = true) :
    c.lineBreak = ([meantBreak ch], c.advance) := by
  have cases : ch = '\n' ∨ ch = '\x85' ∨ ch = '\u2028' ∨ ch = '\u2029' := by
    simpa [Printer.isInnerBreak, or_assoc] using isBreak
  rw [lineBreak, text]
  rcases cases with rfl | rfl | rfl | rfl <;> rfl

theorem atDocumentMark_eq_false (text : c.rest = ch :: rest) (dash : ch ≠ '-') (dot : ch ≠ '.') :
    c.atDocumentMark = false := by
  simp [atDocumentMark, text, dash, dot]

end Cursor

theorem isBreak_of_isInnerBreak {ch : Char} (inner : Printer.isInnerBreak ch = true) :
    isBreak ch = true := by
  simp only [Printer.isInnerBreak, Bool.or_eq_true] at inner
  rcases inner with ((feed | next) | line) | paragraph <;> simp [isBreak, *]

theorem isBlankOrEnd_of_isInnerBreak {ch : Char} (inner : Printer.isInnerBreak ch = true) :
    isBlankOrEnd ch = true := by
  simp [isBlankOrEnd, isSpaceOrEnd, isBreakOrEnd, isBreak_of_isInnerBreak inner]

theorem unspaced_of_isInnerBreak {ch : Char} (inner : Printer.isInnerBreak ch = true) :
    (ch == ' ' || ch == '\t') = false := by
  simp only [Printer.isInnerBreak, Bool.or_eq_true, beq_iff_eq] at inner
  rcases inner with ((rfl | rfl) | rfl) | rfl <;> rfl

/-- Blanks are no breaks, and no part of a text begins with them. -/
theorem not_blank {ch : Char} (text : isBlankOrEnd ch = false) :
    ch ≠ ' ' ∧ ch ≠ '\t' ∧ ch ≠ '\x00' ∧ isBreak ch = false := by
  simp only [isBlankOrEnd, isSpaceOrEnd, isBreakOrEnd, Bool.or_eq_false_iff, beq_eq_false_iff_ne]
    at text
  exact ⟨text.2.1, text.1, text.2.2.1, text.2.2.2⟩

namespace Scalar

/-- Characters of a quoted scalar that stand for themselves in every way of quoting. -/
def isQuotable (ch : Char) : Bool :=
  !(ch == '\x27' || ch == '"' || ch == '\\' || isBlankOrEnd ch)

/-- What was read, after some more characters. -/
def prepend (run : List Char) : Read (List Char) → Read (List Char)
  | .ok (more, c) => .ok (run ++ more, c)
  | .error e => .error e

theorem prepend_prepend (a b : List Char) (r : Read (List Char)) :
    prepend a (prepend b r) = prepend (a ++ b) r := by
  cases r with
  | error e => rfl
  | ok found => simp [prepend]

/-- What follows a run of characters that stand for themselves. -/
def afterRun (double : Bool) (fuel : Nat) (c : Cursor) : Read (List Char) :=
  if !double && c.peek == '\x27' && c.peekAt 1 == '\x27' then
    prepend ['\x27'] (quotedText double fuel (c.advanceBy 2))
  else if (double && c.peek == '\x27') || (!double && (c.peek == '"' || c.peek == '\\')) then
    prepend [c.peek] (quotedText double fuel c.advance)
  else if double && c.peek == '\\' then
    match escape c.advance with
    | .ok (chunk, c) => prepend chunk (quotedText double fuel c)
    | .error e => .error e
  else .ok ([], c)

theorem quotedText_succ (double : Bool) (fuel : Nat) (c : Cursor) :
    quotedText double (fuel + 1) c =
      prepend (c.span isQuotable).1 (afterRun double fuel (c.span isQuotable).2) := by
  have folded : (fun ch => !(ch == '\x27' || ch == '"' || ch == '\\' || isBlankOrEnd ch)) =
      isQuotable := rfl
  rw [quotedText, folded]
  obtain ⟨run, c⟩ := c.span isQuotable
  simp only [afterRun]
  split
  · cases quotedText double fuel (c.advanceBy 2) <;> simp [prepend]
  · split
    · cases quotedText double fuel c.advance <;> simp [prepend]
    · split
      · rcases escape c.advance with e | ⟨chunk, c⟩
        · rfl
        · simp only
          cases quotedText double fuel c <;> simp [prepend]
      · simp [prepend]

theorem quotedText_of_neg {double : Bool} {c : Cursor} {ch : Char} {rest : List Char}
    (text : c.rest = ch :: rest) (other : isQuotable ch = false) (fuel : Nat) :
    quotedText double (fuel + 1) c = afterRun double fuel c := by
  rw [quotedText_succ, Cursor.span_of_neg text other]
  cases afterRun double fuel c <;> rfl

/-- From the cursor on, the characters up to the closing quote mean `out`, and `tail` is left
behind it: first comes a run of text, and then the other parts. -/
def ReadsTo (double : Bool) (c : Cursor) (out tail : List Char) : Prop :=
  ∃ run mid parts last,
    (∀ fuel, c.rest.length < fuel → quotedText double fuel c = .ok (run, mid)) ∧
    mid.rest.length ≤ c.rest.length ∧
    (∀ fuel acc, mid.rest.length < fuel →
      quotedParts double (if double then '"' else '\x27') fuel acc mid =
        .ok (acc ++ parts, last)) ∧
    run ++ parts = out ∧ last.rest = tail

/-- The characters mean `out`, wherever they stand in a scalar, and leave `tail`. -/
def QuotedAs (double : Bool) (text out tail : List Char) : Prop :=
  ∀ c : Cursor, c.rest = text → ReadsTo double c out tail

namespace ReadsTo

variable {double : Bool} {c next : Cursor} {chunk out tail : List Char}

/-- A piece of the run of text. -/
theorem piece (after : ReadsTo double next out tail)
    (reads : ∀ fuel, quotedText double (fuel + 1) c = prepend chunk (quotedText double fuel next))
    (shorter : next.rest.length < c.rest.length) : ReadsTo double c (chunk ++ out) tail := by
  obtain ⟨run, mid, parts, last, more, less, ends, whole, left⟩ := after
  refine ⟨chunk ++ run, mid, parts, last, fun fuel enough => ?_, by omega, ends, ?_, left⟩
  · obtain ⟨fuel, rfl⟩ : ∃ n, fuel = n + 1 := ⟨fuel - 1, by omega⟩
    rw [reads, more fuel (by omega)]
    rfl
  · rw [List.append_assoc, whole]

/-- Blanks and breaks between two runs. -/
theorem gap {ch : Char} {rest : List Char} (after : ReadsTo double next out tail)
    (text : c.rest = ch :: rest) (blank : isBlankOrEnd ch = true)
    (spaces : quotedSpaces c = .ok (chunk, next)) (shorter : next.rest.length < c.rest.length) :
    ReadsTo double c (chunk ++ out) tail := by
  obtain ⟨run, mid, parts, last, more, less, ends, whole, left⟩ := after
  -- A run of text ends before a blank, so the gap and what is read after it form the next part.
  have peek := Cursor.peek_of_rest text
  have unquoted : ch ≠ '\x27' ∧ ch ≠ '"' ∧ ch ≠ '\\' := by
    refine ⟨?_, ?_, ?_⟩ <;>
    · rintro rfl
      revert blank
      decide
  refine ⟨[], c, chunk ++ out, last, fun fuel enough => ?_, le_rfl, fun fuel acc enough => ?_, ?_,
    left⟩
  · obtain ⟨fuel, rfl⟩ : ∃ n, fuel = n + 1 := ⟨fuel - 1, by omega⟩
    rw [quotedText_of_neg text (by simp [isQuotable, blank]), afterRun, peek]
    simp [unquoted]
  · obtain ⟨fuel, rfl⟩ : ∃ n, fuel = n + 1 := ⟨fuel - 1, by omega⟩
    have unclosed : (c.peek == if double then '"' else '\x27') = false := by
      rw [peek]
      cases double <;> simp [unquoted]
    simp only [quotedParts, unclosed, spaces, more _ (Nat.lt_succ_self _), Bool.false_eq_true,
      if_false]
    rw [ends fuel _ (by omega), ← whole]
    simp
  · rw [List.nil_append]

end ReadsTo

namespace QuotedAs

variable {double : Bool} {text out tail : List Char} {ch : Char}

theorem char (after : QuotedAs double text out tail) (quotable : isQuotable ch = true) :
    QuotedAs double (ch :: text) (ch :: out) tail := by
  intro c written
  obtain ⟨run, mid, parts, last, reads, less, ends, whole, left⟩ :=
    after c.advance (by rw [Cursor.rest_advance, written, List.tail_cons])
  rw [Cursor.rest_advance, written, List.tail_cons] at reads less
  refine ⟨ch :: run, mid, parts, last, fun fuel enough => ?_, ?_, ends, ?_, left⟩
  · rw [written, List.length_cons] at enough
    obtain ⟨fuel, rfl⟩ : ∃ n, fuel = n + 1 := ⟨fuel - 1, by omega⟩
    have found := reads (fuel + 1) (by omega)
    rw [quotedText_succ] at found
    rw [quotedText_succ, Cursor.span_of_pos written quotable, ← List.singleton_append,
      ← prepend_prepend, found]
    rfl
  · rw [written, List.length_cons]
    omega
  · rw [List.cons_append, whole]

/-- The closing quote. -/
theorem close (single : double = false → tail.head? ≠ some '\x27') :
    QuotedAs double ((if double then '"' else '\x27') :: tail) [] tail := by
  intro c written
  have peek := Cursor.peek_of_rest written
  refine ⟨[], c, [], c.advance, fun fuel enough => ?_, le_rfl, fun fuel acc enough => ?_, rfl, ?_⟩
  · obtain ⟨fuel, rfl⟩ : ∃ n, fuel = n + 1 := ⟨fuel - 1, by omega⟩
    rw [quotedText_of_neg written (by cases double <;> decide), afterRun, peek, Cursor.peekAt,
      written]
    cases double with
    | true => rfl
    | false =>
      cases tail with
      | nil => rfl
      | cons next tail =>
        have other : next ≠ '\x27' := by simpa using single rfl
        simp [other]
  · obtain ⟨fuel, rfl⟩ : ∃ n, fuel = n + 1 := ⟨fuel - 1, by omega⟩
    simp [quotedParts, peek]
  · rw [Cursor.rest_advance, written, List.tail_cons]

/-- A single quote that is written twice. -/
theorem pair (after : QuotedAs false text out tail) :
    QuotedAs false ('\x27' :: '\x27' :: text) ('\x27' :: out) tail := by
  intro c written
  have next : (c.advanceBy 2).rest = text := by simp [written]
  change ReadsTo false c (['\x27'] ++ out) tail
  have shorter : (c.advanceBy 2).rest.length < c.rest.length := by
    rw [next, written, List.length_cons, List.length_cons]
    omega
  refine (after _ next).piece (fun fuel => ?_) shorter
  rw [quotedText_of_neg written (by decide), afterRun, Cursor.peek_of_rest written, Cursor.peekAt,
    written]
  simp

/-- A quote or a backslash that means nothing in this way of quoting. -/
theorem foreign (after : QuotedAs double text out tail)
    (means : (double && ch == '\x27' || !double && (ch == '"' || ch == '\\')) = true) :
    QuotedAs double (ch :: text) (ch :: out) tail := by
  intro c written
  have next : c.advance.rest = text := by rw [Cursor.rest_advance, written, List.tail_cons]
  change ReadsTo double c ([ch] ++ out) tail
  refine (after _ next).piece (fun fuel => ?_) (by simp [written])
  have other : isQuotable ch = false := by
    cases double <;> simp at means <;> simp [isQuotable, means]
    rcases means with rfl | rfl <;> simp
  have unpaired : (!double && ch == '\x27') = false := by
    cases double <;> simp at means <;> simp [means]
    rcases means with rfl | rfl <;> simp
  rw [quotedText_of_neg written other, afterRun, Cursor.peek_of_rest written, unpaired, means]
  rfl

/-- An escape. -/
theorem escape {rest chunk : List Char} (after : QuotedAs true text out tail)
    (means : ∀ c : Cursor, c.rest = rest → ∃ next, Scalar.escape c = .ok (chunk, next) ∧
      next.rest = text) (shorter : text.length ≤ rest.length) :
    QuotedAs true ('\\' :: rest) (chunk ++ out) tail := by
  intro c written
  obtain ⟨next, meant, left⟩ :=
    means c.advance (by rw [Cursor.rest_advance, written, List.tail_cons])
  refine (after next left).piece (fun fuel => ?_) (by simp [written, left]; omega)
  rw [quotedText_of_neg written (by decide), afterRun, Cursor.peek_of_rest written, meant]
  rfl

end QuotedAs

/-! ## Spaces and breaks -/

section

variable {c : Cursor} {ch : Char} {more : List Char}

/-- Spaces or tabs at the cursor. -/
theorem span_spaces {n : Nat} (written : c.rest = List.replicate n ' ' ++ ch :: more)
    (text : isBlankOrEnd ch = false) :
    c.span (fun ch => ch == ' ' || ch == '\t') = (List.replicate n ' ', c.advanceBy n) := by
  obtain ⟨space, tab, -, -⟩ := not_blank text
  have spaces := Cursor.span_of_rest (p := fun ch => ch == ' ' || ch == '\t') written
    (fun ch member => by simp [List.eq_of_mem_replicate member])
    (fun ch' member => by
      cases member
      simp [space, tab])
  rwa [List.length_replicate] at spaces

theorem quotedBreaks_of_rest {bs : List Char} {n : Nat}
    (inner : ∀ b ∈ bs, Printer.isInnerBreak b = true) (indented : 0 < n)
    (text : isBlankOrEnd ch = false)
    (written : c.rest = bs ++ (List.replicate n ' ' ++ ch :: more)) {fuel : Nat}
    (enough : c.rest.length < fuel) :
    ∃ next, quotedBreaks fuel c = .ok (bs.map Cursor.meantBreak, next) ∧
      next.rest = ch :: more := by
  obtain ⟨fuel, rfl⟩ : ∃ n, fuel = n + 1 := ⟨fuel - 1, by omega⟩
  induction bs generalizing c fuel with
  | nil =>
    have left : (c.advanceBy n).rest = ch :: more := by
      rw [Cursor.rest_advanceBy, written, List.nil_append]
      exact List.drop_left' (List.length_replicate ..)
    have unmarked : c.atDocumentMark = false := by
      obtain ⟨n, rfl⟩ : ∃ m, n = m + 1 := ⟨n - 1, by omega⟩
      exact Cursor.atDocumentMark_eq_false written (by decide) (by decide)
    refine ⟨c.advanceBy n, ?_, left⟩
    rw [quotedBreaks, unmarked, Cursor.skip, span_spaces written text, if_neg (by decide)]
    simp only [Cursor.peek_of_rest left, (not_blank text).2.2.2, Bool.false_eq_true, if_false,
      List.map_nil]
  | cons b bs ih =>
    obtain ⟨first, inner⟩ := List.forall_mem_cons.mp inner
    have blank := isBlankOrEnd_of_isInnerBreak first
    have unmarked : c.atDocumentMark = false := by
      refine Cursor.atDocumentMark_eq_false written ?_ ?_ <;>
      · rintro rfl
        revert blank
        decide
    have unspaced := unspaced_of_isInnerBreak first
    have shorter : c.advance.rest = bs ++ (List.replicate n ' ' ++ ch :: more) := by
      rw [Cursor.rest_advance, written, List.cons_append, List.tail_cons]
    obtain ⟨fuel, rfl⟩ : ∃ n, fuel = n + 1 := ⟨fuel - 1, by
      rw [written, List.cons_append, List.length_cons] at enough
      omega⟩
    obtain ⟨next, reads, left⟩ := ih inner shorter fuel (by
      rw [Cursor.rest_advance, List.length_tail]
      omega)
    refine ⟨next, ?_, left⟩
    rw [quotedBreaks, unmarked, Cursor.skip, Cursor.span_of_neg written unspaced,
      if_neg (by decide)]
    simp only [Cursor.peek_of_rest written, isBreak_of_isInnerBreak first, if_true,
      Cursor.lineBreak_of_rest written first, reads, List.map_cons, List.singleton_append]

/-- What breaks between two lines mean: one is a space, and of several the first is dropped,
unless it is a separator of its own. -/
def meantBreaks (b : Char) (bs : List Char) : List Char :=
  if Cursor.meantBreak b != '\n' then Cursor.meantBreak b :: bs.map Cursor.meantBreak
  else if bs.isEmpty then [' ']
  else bs.map Cursor.meantBreak

theorem quotedSpaces_of_spaces {n : Nat} (written : c.rest = List.replicate n ' ' ++ ch :: more)
    (text : isBlankOrEnd ch = false) :
    quotedSpaces c = .ok (List.replicate n ' ', c.advanceBy n) ∧
      (c.advanceBy n).rest = ch :: more := by
  have left : (c.advanceBy n).rest = ch :: more := by
    rw [Cursor.rest_advanceBy, written]
    exact List.drop_left' (List.length_replicate ..)
  refine ⟨?_, left⟩
  rw [quotedSpaces, span_spaces written text]
  simp only [left, List.isEmpty_cons, Cursor.peek_of_rest left, (not_blank text).2.2.2,
    Bool.false_eq_true, if_false]

theorem quotedSpaces_of_breaks {b : Char} {bs : List Char} {n : Nat}
    (inner : ∀ b' ∈ b :: bs, Printer.isInnerBreak b' = true) (indented : 0 < n)
    (text : isBlankOrEnd ch = false)
    (written : c.rest = b :: bs ++ (List.replicate n ' ' ++ ch :: more)) :
    ∃ next, quotedSpaces c = .ok (meantBreaks b bs, next) ∧ next.rest = ch :: more := by
  obtain ⟨first, others⟩ := List.forall_mem_cons.mp inner
  have unspaced := unspaced_of_isInnerBreak first
  have shorter : c.advance.rest = bs ++ (List.replicate n ' ' ++ ch :: more) := by
    rw [Cursor.rest_advance, written, List.cons_append, List.tail_cons]
  obtain ⟨next, reads, left⟩ := quotedBreaks_of_rest others indented text shorter
    (Nat.lt_succ_self _)
  refine ⟨next, ?_, left⟩
  rw [quotedSpaces, Cursor.span_of_neg written unspaced]
  simp only [written, List.cons_append, List.isEmpty_cons, Bool.false_eq_true, if_false,
    Cursor.peek_of_rest written, isBreak_of_isInnerBreak first, if_true,
    Cursor.lineBreak_of_rest written first, reads, meantBreaks]
  by_cases plain : Cursor.meantBreak b = '\n'
  · cases bs <;> simp [plain]
  · simp [plain]

end

namespace QuotedAs

variable {double : Bool} {out tail more : List Char} {ch : Char}

/-- Spaces before more text. -/
theorem spaces {n : Nat} (after : QuotedAs double (ch :: more) out tail)
    (text : isBlankOrEnd ch = false) :
    QuotedAs double (List.replicate n ' ' ++ ch :: more) (List.replicate n ' ' ++ out) tail := by
  cases n with
  | zero => exact after
  | succ n =>
    intro c written
    obtain ⟨spaces, left⟩ := quotedSpaces_of_spaces written text
    refine (after _ left).gap written (by decide) spaces ?_
    rw [left, written]
    simp

/-- Line breaks, and the indentation of the next line. -/
theorem breaks {b : Char} {bs : List Char} {n : Nat} (after : QuotedAs double (ch :: more) out tail)
    (inner : ∀ b' ∈ b :: bs, Printer.isInnerBreak b' = true) (indented : 0 < n)
    (text : isBlankOrEnd ch = false) :
    QuotedAs double (b :: bs ++ (List.replicate n ' ' ++ ch :: more)) (meantBreaks b bs ++ out)
      tail := by
  intro c written
  obtain ⟨next, breaks, left⟩ := quotedSpaces_of_breaks inner indented text written
  refine (after _ left).gap written (isBlankOrEnd_of_isInnerBreak (inner b List.mem_cons_self))
    breaks ?_
  rw [left, written]
  simp
  omega

/-! ## Escapes -/

variable {text : List Char}

theorem letter {mark meant : Char} (after : QuotedAs true text out tail)
    (means : simpleEscape? mark = some meant) :
    QuotedAs true ('\\' :: mark :: text) (meant :: out) tail := by
  change QuotedAs true _ ([meant] ++ out) tail
  refine after.escape (fun c written => ⟨c.advance, ?_, ?_⟩) (by simp)
  · rw [Scalar.escape, Cursor.peek_of_rest written, means]
  · rw [Cursor.rest_advance, written, List.tail_cons]

theorem code {mark meant : Char} {digits : List Char} (after : QuotedAs true text out tail)
    (means : codeLength? mark = some digits.length) (hex : digits.all isHexDigit = true)
    (value : charOfCode (Numeral.valueOf 16 (digits.filterMap Numeral.digit?)) = .ok meant) :
    QuotedAs true ('\\' :: mark :: (digits ++ text)) (meant :: out) tail := by
  have other : simpleEscape? mark = none := by
    simp only [codeLength?] at means
    split at means
    · rfl
    · rfl
    · rfl
    · cases means
  change QuotedAs true _ ([meant] ++ out) tail
  refine after.escape (fun c written => ⟨c.advance.advanceBy digits.length, ?_, ?_⟩)
    (by simp; omega)
  · have written' : c.advance.rest.take digits.length = digits := by
      rw [Cursor.rest_advance, written, List.tail_cons, List.take_left]
    simp only [Scalar.escape, Cursor.peek_of_rest written, other, means, written', hex, value,
      decide_true, Bool.and_self, if_true]
  · rw [Cursor.rest_advanceBy, Cursor.rest_advance, written, List.tail_cons, List.drop_left]

/-- A line that ends with a backslash, and the indentation of the next line. -/
theorem continued {n : Nat} (after : QuotedAs true (ch :: more) out tail) (indented : 0 < n)
    (plain : isBlankOrEnd ch = false) :
    QuotedAs true ('\\' :: '\n' :: (List.replicate n ' ' ++ ch :: more)) out tail := by
  change QuotedAs true _ ([] ++ out) tail
  refine after.escape (fun c written => ?_) (by simp; omega)
  have next : c.advance.rest = [] ++ (List.replicate n ' ' ++ ch :: more) := by
    rw [Cursor.rest_advance, written, List.tail_cons, List.nil_append]
  obtain ⟨last, reads, left⟩ :=
    quotedBreaks_of_rest (by simp) indented plain next (Nat.lt_succ_self _)
  refine ⟨last, ?_, left⟩
  rw [Scalar.escape, Cursor.peek_of_rest written]
  simp only [simpleEscape?, codeLength?, isBreak, beq_self_eq_true, Bool.true_or, if_true,
    Cursor.lineBreak_of_rest written rfl]
  exact reads

end QuotedAs

/-- A scalar between quotes. -/
theorem quoted_of_quotedAs {double : Bool} {text out tail : List Char} {c : Cursor}
    (written : c.rest = (if double then '"' else '\x27') :: text)
    (means : QuotedAs double text out tail) :
    ∃ last, quoted c = .ok (String.ofList out, last) ∧ last.rest = tail := by
  have next : c.advance.rest = text := by rw [Cursor.rest_advance, written, List.tail_cons]
  obtain ⟨run, mid, parts, last, reads, -, ends, whole, left⟩ := means c.advance next
  have way : ((if double then '"' else '\x27') == '"') = double := by cases double <;> rfl
  refine ⟨last, ?_, left⟩
  rw [quoted, Cursor.peek_of_rest written]
  simp only [way, reads _ (Nat.lt_succ_self _), ends _ run (Nat.lt_succ_self _), whole]

end Scalar

end Catalog.Yaml
