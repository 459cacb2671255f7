import Catalog.Proofs.Yaml.Quoting
import Catalog.Yaml.Lexer

/-!
# Plain scalars

A plain scalar is read in runs of characters, with spaces or a folded line between them, up to a
line that is indented less. A text that may be written without quotes is read back as it is: it
has no character at which a run ends early, and a space at which its line is folded is read from
the break.
-/

namespace Catalog.Yaml

namespace Cursor

variable {c : Cursor} {ch : Char} {rest : List Char}

theorem advance_of_break (text : c.rest = '\n' :: rest) :
    c.advance = { rest, index := c.index + 1, line := c.line + 1, column := 0 } := by
  rw [advance, text]
  rfl

/-- A character that ends no line, and is no byte order mark. -/
def isOnLine (ch : Char) : Bool := !(isBreak ch || ch == '\uFEFF')

theorem advance_of_isOnLine (text : c.rest = ch :: rest) (inside : isOnLine ch = true) :
    c.advance = { c with rest, index := c.index + 1, column := c.column + 1 } := by
  simp only [isOnLine, isBreak, Bool.not_eq_true', Bool.or_eq_false_iff] at inside
  obtain ⟨⟨⟨⟨⟨feed, ret⟩, next⟩, line⟩, paragraph⟩, mark⟩ := inside
  rw [advance, text]
  simp only [feed, ret, next, line, paragraph, mark, Bool.false_or, Bool.false_and,
    Bool.false_eq_true, if_false]

theorem advanceBy_of_isOnLine {taken : List Char} (text : c.rest = taken ++ rest)
    (inside : ∀ ch ∈ taken, isOnLine ch = true) :
    c.advanceBy taken.length =
      { c with rest, index := c.index + taken.length, column := c.column + taken.length } := by
  induction taken generalizing c with
  | nil =>
    cases c
    cases text
    rfl
  | cons ch taken ih =>
    obtain ⟨first, inside⟩ := List.forall_mem_cons.mp inside
    rw [List.cons_append] at text
    have next := advance_of_isOnLine text first
    rw [List.length_cons, advanceBy, ih (by rw [next]) inside, next]
    simp only [mk.injEq, true_and]
    omega

theorem advanceBy_spaces {n : Nat} (text : c.rest = List.replicate n ' ' ++ rest) :
    c.advanceBy n = { c with rest, index := c.index + n, column := c.column + n } := by
  have spaces := advanceBy_of_isOnLine text fun ch member => by
    rw [List.eq_of_mem_replicate member]
    decide
  rwa [List.length_replicate] at spaces

end Cursor

namespace Scalar

/-! ## How they are read -/

/-- A plain scalar from within a run on, after the characters `acc`. -/
def plainFromRun (indent : Int) (fuel : Nat) (acc : List Char) (c : Cursor) :
    List Char × Bool × Cursor :=
  let run := plainRun false c.rest
  let (spaces, next, broken) := plainSpaces (c.advanceBy run.length)
  if spaces.isEmpty || next.peek == '#' || (next.column : Int) < indent then
    (acc ++ run, broken, next)
  else plainParts false indent fuel (acc ++ run) spaces broken next

/-- The character goes on with a run, where it stands before `rest`. -/
def Continues (ch : Char) (rest : List Char) : Prop :=
  isBlankOrEnd ch = false ∧ (ch = ':' → isBlankOrEnd (rest.headD '\x00') = false)

theorem plainRun_of_continues {ch : Char} {rest : List Char} (continues : Continues ch rest) :
    plainRun false (ch :: rest) = ch :: plainRun false rest := by
  have inside : (ch == ':' && (isBlankOrEnd (rest.headD '\x00') ||
      (false && ",[]\x7b\x7d".toList.contains (rest.headD '\x00')))) = false := by
    by_cases colon : ch = ':'
    · rw [continues.2 colon]
      simp
    · simp [colon]
  rw [plainRun]
  simp only [continues.1, inside]
  rfl

theorem plainParts_succ {indent : Int} {fuel : Nat} {acc spaces : List Char} {broken : Bool}
    {c : Cursor} {ch : Char} {rest : List Char} (text : c.rest = ch :: rest)
    (continues : Continues ch rest) (comment : ch ≠ '#') :
    plainParts false indent (fuel + 1) acc spaces broken c =
      plainFromRun indent fuel (acc ++ spaces) c := by
  rw [plainParts, Cursor.peek_of_rest text, if_neg (by simpa using comment), plainFromRun, text,
    plainRun_of_continues continues]
  simp

theorem plainFromRun_of_continues {indent : Int} {fuel : Nat} {acc : List Char} {c : Cursor}
    {ch : Char} {rest : List Char} (text : c.rest = ch :: rest) (continues : Continues ch rest) :
    plainFromRun indent fuel acc c = plainFromRun indent fuel (acc ++ [ch]) c.advance := by
  have next : c.advance.rest = rest := by rw [Cursor.rest_advance, text, List.tail_cons]
  simp only [plainFromRun, text, next, plainRun_of_continues continues, List.length_cons,
    Cursor.advanceBy, List.append_assoc, List.singleton_append]

/-- From within a run on, the characters mean `out`, and the line break after them leaves `tail` at
a column. -/
def PlainAs (indent : Nat) (text out tail : List Char) (column : Nat) : Prop :=
  ∀ (c : Cursor) fuel acc, c.rest = text → indent ≤ c.column → text.length ≤ fuel →
    ∃ last, plainFromRun indent fuel acc c = (acc ++ out, true, last) ∧ last.rest = tail ∧
      last.column = column

section

variable {c : Cursor} {ch : Char} {rest : List Char} {n : Nat}

theorem plainBreaks_of_spaces (written : c.rest = List.replicate n ' ' ++ rest)
    (text : ∀ ch ∈ rest.head?, isBlankOrEnd ch = false) {fuel : Nat} (enough : n < fuel) :
    plainBreaks fuel c = (some [], c.advanceBy n) := by
  obtain ⟨fuel, rfl⟩ : ∃ k, fuel = k + 1 := ⟨fuel - 1, by omega⟩
  induction n generalizing c fuel with
  | zero =>
    rw [List.replicate_zero, List.nil_append] at written
    have stops : (c.peek == ' ') = false ∧ isBreak c.peek = false := by
      cases rest with
      | nil => rw [Cursor.peek, written]; decide
      | cons ch rest =>
        obtain ⟨space, -, -, unbroken⟩ := not_blank (text ch rfl)
        rw [Cursor.peek_of_rest written]
        exact ⟨by simpa using space, unbroken⟩
    rw [plainBreaks, stops.1, stops.2]
    rfl
  | succ n ih =>
    obtain ⟨fuel, rfl⟩ : ∃ k, fuel = k + 1 := ⟨fuel - 1, by omega⟩
    rw [List.replicate_succ, List.cons_append] at written
    have next : c.advance.rest = List.replicate n ' ' ++ rest := by
      rw [Cursor.rest_advance, written, List.tail_cons]
    rw [plainBreaks, Cursor.peek_of_rest written, if_pos (by decide), ih next fuel (by omega)]
    rfl

/-- A line break in a plain scalar, and the spaces of the next line. -/
theorem plainSpaces_of_break (written : c.rest = '\n' :: (List.replicate n ' ' ++ rest))
    (text : ∀ ch ∈ rest.head?, isBlankOrEnd ch = false)
    (unmarked : ∀ c : Cursor, c.rest = List.replicate n ' ' ++ rest → c.atDocumentMark = false) :
    ∃ next, plainSpaces c = ([' '], next, true) ∧ next.rest = rest ∧ next.column = n := by
  have after := Cursor.advance_of_break written
  have spaces : c.advance.rest = List.replicate n ' ' ++ rest := by rw [after]
  have breaks : plainBreaks (c.advance.rest.length + 1) c.advance =
      (some [], c.advance.advanceBy n) := by
    refine plainBreaks_of_spaces spaces text (Nat.lt_succ_of_le ?_)
    rw [spaces, List.length_append, List.length_replicate]
    exact Nat.le_add_right n _
  refine ⟨c.advance.advanceBy n, ?_, ?_, ?_⟩
  · rw [plainSpaces, Cursor.span_of_neg written (by decide)]
    simp only [Cursor.peek_of_rest written, Cursor.lineBreak_of_rest written rfl,
      unmarked _ spaces, breaks]
    rfl
  · rw [Cursor.advanceBy_spaces spaces]
  · rw [Cursor.advanceBy_spaces spaces, after]
    exact Nat.zero_add n

theorem plainSpaces_of_spaces (written : c.rest = List.replicate n ' ' ++ ch :: rest)
    (text : isBlankOrEnd ch = false) :
    plainSpaces c = (List.replicate n ' ', c.advanceBy n, false) := by
  obtain ⟨space, -, -, unbroken⟩ := not_blank text
  have spaces := Cursor.span_of_rest (p := (· == ' ')) written
    (fun ch member => by simp [List.eq_of_mem_replicate member])
    (fun ch' member => by
      cases member
      simpa using space)
  have left : (c.advanceBy n).rest = ch :: rest := by rw [Cursor.advanceBy_spaces written]
  rw [List.length_replicate] at spaces
  rw [plainSpaces, spaces]
  simp only [Cursor.peek_of_rest left, unbroken]
  rfl

end

namespace PlainAs

variable {indent column : Nat} {text out tail more : List Char} {ch : Char}

theorem char (after : PlainAs indent text out tail column) (continues : Continues ch text)
    (inside : Cursor.isOnLine ch = true) :
    PlainAs indent (ch :: text) (ch :: out) tail column := by
  intro c fuel acc written far enough
  have next := Cursor.advance_of_isOnLine written inside
  obtain ⟨last, reads, left⟩ := after c.advance fuel (acc ++ [ch]) (by rw [next])
    (by rw [next]; exact Nat.le_succ_of_le far) (by simp at enough; omega)
  refine ⟨last, ?_, left⟩
  rw [plainFromRun_of_continues written continues, reads, List.append_assoc,
    List.singleton_append]

/-- Where a gap stands, the next run is read after it. -/
theorem gap {c next : Cursor} {fuel : Nat} {acc chunk : List Char} {broken : Bool}
    (after : PlainAs indent (ch :: more) out tail column) (ends : plainRun false c.rest = [])
    (spaces : plainSpaces c = (chunk, next, broken)) (some : chunk ≠ [])
    (left : next.rest = ch :: more) (continues : Continues ch more) (comment : ch ≠ '#')
    (far : indent ≤ next.column) (enough : (ch :: more).length < fuel) :
    ∃ last, plainFromRun indent fuel acc c = (acc ++ (chunk ++ out), true, last) ∧
      last.rest = tail ∧ last.column = column := by
  obtain ⟨fuel, rfl⟩ : ∃ n, fuel = n + 1 := ⟨fuel - 1, by omega⟩
  obtain ⟨last, reads, left'⟩ := after next fuel (acc ++ chunk) left far (by omega)
  refine ⟨last, ?_, left'⟩
  have goesOn : (chunk.isEmpty || next.peek == '#' || decide ((next.column : Int) < indent)) =
      false := by
    rw [Cursor.peek_of_rest left]
    simp [some, comment, far]
  simp only [plainFromRun, ends, List.length_nil, Cursor.advanceBy, spaces, goesOn,
    Bool.false_eq_true, if_false, List.append_nil]
  rw [plainParts_succ left continues comment, reads, List.append_assoc]

/-- Spaces between two runs. -/
theorem spaces {n : Nat} (after : PlainAs indent (ch :: more) out tail column) (some : 0 < n)
    (continues : Continues ch more) (comment : ch ≠ '#') :
    PlainAs indent (List.replicate n ' ' ++ ch :: more) (List.replicate n ' ' ++ out) tail
      column := by
  intro c fuel acc written far enough
  have next := Cursor.advanceBy_spaces written
  have ends : plainRun false c.rest = [] := by
    obtain ⟨n, rfl⟩ : ∃ m, n = m + 1 := ⟨n - 1, by omega⟩
    rw [written]
    rfl
  refine after.gap ends (plainSpaces_of_spaces written continues.1) ?_ (by rw [next]) continues
    comment (by rw [next]; exact Nat.le_add_right_of_le far) ?_
  · rw [ne_eq, List.replicate_eq_nil_iff]
    omega
  · rw [List.length_append, List.length_replicate] at enough
    omega

/-- A folded line. -/
theorem fold {n : Nat} (after : PlainAs indent (ch :: more) out tail column) (some : 0 < n)
    (far : indent ≤ n) (continues : Continues ch more) (comment : ch ≠ '#') :
    PlainAs indent ('\n' :: (List.replicate n ' ' ++ ch :: more)) (' ' :: out) tail column := by
  intro c fuel acc written _ enough
  obtain ⟨next, spaces, left, last⟩ := plainSpaces_of_break written
    (fun ch' member => by cases member; exact continues.1)
    (fun c text => by
      obtain ⟨n, rfl⟩ : ∃ m, n = m + 1 := ⟨n - 1, by omega⟩
      exact Cursor.atDocumentMark_eq_false text (by decide) (by decide))
  have ends : plainRun false c.rest = [] := by
    rw [written]
    rfl
  refine after.gap ends spaces (by simp) left continues comment (by rw [last]; exact far) ?_
  rw [List.length_cons, List.length_append] at enough
  omega

/-- The line after the scalar. -/
theorem close (less : column < indent) (text : ∀ ch ∈ tail.head?, isBlankOrEnd ch = false)
    (unmarked : ∀ c : Cursor, c.rest = List.replicate column ' ' ++ tail →
      c.atDocumentMark = false) :
    PlainAs indent ('\n' :: (List.replicate column ' ' ++ tail)) [] tail column := by
  intro c fuel acc written _ _
  obtain ⟨next, spaces, left, last⟩ := plainSpaces_of_break written text unmarked
  refine ⟨next, ?_, left, last⟩
  have ends : plainRun false c.rest = [] := by
    rw [written]
    rfl
  simp only [plainFromRun, ends, List.length_nil, Cursor.advanceBy, spaces]
  rw [if_pos (by rw [last]; simp [less])]

end PlainAs

end Scalar

/-! ## How they are written -/

namespace Printer

open Scalar (PlainAs Continues)

variable {c d before : Char} {rest cs tail : List Char} {indent limit column : Nat}

/-- The text after a character can be written without quotes. -/
structure Flows (before : Char) (cs : List Char) : Prop where
  shown : cs.all isShown = true
  unbroken : cs.any isInnerBreak = false
  ends : cs.getLast? ≠ some ' '
  clear : hasInnerIndicator before cs = false

theorem isBlankOrEnd_eq_isSeparator (c : Char) : isBlankOrEnd c = isSeparator c := by
  simp only [isBlankOrEnd, isSpaceOrEnd, isBreakOrEnd, isBreak, isSeparator, isInnerBreak]
  cases c == '\t' <;> cases c == ' ' <;> cases c == '\x00' <;> cases c == '\n' <;>
    cases c == '\r' <;> rfl

theorem isOnLine_of_isShown (shown : isShown c = true) (unbroken : isInnerBreak c = false) :
    Cursor.isOnLine c = true := by
  by_contra other
  have away : (isBreak c || c == '\uFEFF') = true := by
    rw [Cursor.isOnLine, Bool.not_eq_true', Bool.not_eq_false] at other
    exact other
  have cases : c = '\n' ∨ c = '\r' ∨ c = '\x85' ∨ c = '\u2028' ∨ c = '\u2029' ∨ c = '\uFEFF' := by
    simpa [isBreak, or_assoc] using away
  rcases cases with rfl | rfl | rfl | rfl | rfl | rfl <;>
    first
    | exact absurd shown (by decide)
    | exact absurd unbroken (by decide)

theorem plainFrom_of_ne (text : c ≠ ' ') (afterSpace : Bool) (column : Nat) (rest : List Char) :
    plainFrom indent afterSpace column (c :: rest) =
      c :: plainFrom indent false (column + 1) rest := by
  have other : (c == ' ') = false := by simpa using text
  rw [plainFrom, other]
  rfl

namespace Flows

theorem first (flows : Flows before (c :: rest)) (text : c ≠ ' ') :
    isBlankOrEnd c = false ∧ Cursor.isOnLine c = true := by
  obtain ⟨shown, -⟩ := Bool.and_eq_true_iff.mp (List.all_cons ▸ flows.shown)
  obtain ⟨unbroken, -⟩ := Bool.or_eq_false_iff.mp (List.any_cons ▸ flows.unbroken)
  exact ⟨text_of_isShown shown text unbroken, isOnLine_of_isShown shown unbroken⟩

theorem later (flows : Flows before (c :: rest)) : Flows c rest := by
  obtain ⟨-, shown⟩ := Bool.and_eq_true_iff.mp (List.all_cons ▸ flows.shown)
  obtain ⟨-, unbroken⟩ := Bool.or_eq_false_iff.mp (List.any_cons ▸ flows.unbroken)
  refine ⟨shown, unbroken, ?_, ?_⟩
  · cases rest with
    | nil => simp
    | cons d rest => exact List.getLast?_cons_cons ▸ flows.ends
  · have clear := flows.clear
    simp only [hasInnerIndicator, Bool.or_eq_false_iff] at clear
    exact clear.2

/-- A hash does not follow a space. -/
theorem comment (flows : Flows before (c :: rest)) (blank : isSeparator before = true) :
    c ≠ '#' := by
  rintro rfl
  have clear := flows.clear
  simp [hasInnerIndicator, blank] at clear

/-- A colon is followed by text. -/
theorem colon (flows : Flows before (':' :: rest)) :
    ∃ next more, rest = next :: more ∧ isBlankOrEnd next = false := by
  have clear := flows.clear
  cases rest with
  | nil => simp [hasInnerIndicator] at clear
  | cons next more =>
    refine ⟨next, more, rfl, ?_⟩
    rw [isBlankOrEnd_eq_isSeparator]
    simp only [hasInnerIndicator, beq_self_eq_true, Bool.true_and, Bool.or_eq_false_iff] at clear
    exact clear.1.1

/-- The text goes on with the character as it is written. -/
theorem continues (flows : Flows before (c :: rest)) (text : c ≠ ' ') (afterSpace : Bool)
    (column : Nat) (tail : List Char) :
    Continues c (plainFrom indent afterSpace column rest ++ tail) := by
  refine ⟨(flows.first text).1, ?_⟩
  rintro rfl
  obtain ⟨next, more, rfl, plain⟩ := flows.colon
  rw [plainFrom_of_ne (not_blank plain).1]
  exact plain

end Flows

/-- The text from some place on is written so that it is read back; `n` spaces before it were
written already. -/
theorem plainFrom_plainAs (indented : 0 < indent) (far : limit ≤ indent)
    (close : PlainAs limit ('\n' :: tail) [] rest column) (n : Nat) (afterSpace : Bool) (col : Nat)
    (flows : Flows before cs) (spaced : 0 < n → before = ' ' ∧ afterSpace = true ∧ cs ≠ []) :
    PlainAs limit (List.replicate n ' ' ++ (plainFrom indent afterSpace col cs ++ '\n' :: tail))
      (List.replicate n ' ' ++ cs) rest column := by
  -- Spaces are read together with the text after them, so the induction takes them along as `n`
  -- and spends them at the next character that is not one.
  induction cs generalizing n before afterSpace col with
  | nil =>
    obtain rfl : n = 0 := by
      by_contra some
      exact (spaced (Nat.pos_of_ne_zero some)).2.2 rfl
    exact close
  | cons c cs ih =>
    by_cases space : c = ' '
    · subst space
      obtain ⟨d, more, rfl⟩ : ∃ d more, cs = d :: more := by
        cases cs with
        | nil => exact absurd rfl flows.ends
        | cons d more => exact ⟨d, more, rfl⟩
      rw [plainFrom]
      split
      · rename_i folds
        simp only [Bool.and_eq_true, bne_iff_ne, ne_eq, decide_eq_true_eq, List.head?_cons,
          Option.some.injEq, Bool.not_eq_true'] at folds
        obtain ⟨⟨⟨-, first⟩, text⟩, -⟩ := folds
        -- A line is only folded at a space that stands alone.
        obtain rfl : n = 0 := by
          by_contra some
          rw [(spaced (Nat.pos_of_ne_zero some)).2.1] at first
          cases first
        have means := ih 0 false indent flows.later (by simp)
        rw [List.replicate_zero, List.nil_append, List.nil_append, plainFrom_of_ne text] at means
        rw [List.replicate_zero, List.nil_append, List.nil_append, List.append_assoc,
          plainFrom_of_ne text]
        exact means.fold indented far (flows.later.continues text _ _ _)
          (flows.later.comment (by decide))
      · have means := ih (n + 1) true (col + 1) flows.later fun _ => ⟨rfl, rfl, by simp⟩
        rw [List.replicate_succ', List.append_assoc, List.append_assoc] at means
        exact means
    · have means := ih 0 false (col + 1) flows.later (by simp)
      rw [List.replicate_zero, List.nil_append, List.nil_append] at means
      have continues : Continues c (plainFrom indent false (col + 1) cs ++ '\n' :: tail) :=
        flows.continues space false (col + 1) _
      rw [plainFrom_of_ne space, List.cons_append]
      have whole := means.char continues (flows.first space).2
      cases n with
      | zero => exact whole
      | succ n =>
        obtain ⟨rfl, -, -⟩ := spaced n.succ_pos
        exact whole.spaces n.succ_pos continues (flows.comment (by decide))

/-! ## Texts without quotes -/

theorem plainAllowed_cons (allowed : plainAllowed (c :: rest) = true) :
    startsWithIndicator (c :: rest) = false ∧ c ≠ ' ' ∧ isShown c = true ∧
      isInnerBreak c = false ∧ Flows c rest := by
  simp only [plainAllowed, List.all_cons, List.any_cons, hasOuterBlank, List.head?_cons,
    Option.any_some, Bool.and_eq_true, Bool.not_eq_true', Bool.or_eq_false_iff,
    beq_eq_false_iff_ne] at allowed
  obtain ⟨⟨⟨⟨⟨first, shown⟩, unbroken, later⟩, ⟨space, -⟩, last⟩, indicator⟩, clear⟩ := allowed
  refine ⟨indicator, space, first, unbroken, shown, later, ?_, clear⟩
  intro ends
  cases rest with
  | nil => cases ends
  | cons d rest =>
    rw [List.getLast?_cons_cons, ends] at last
    exact absurd last (by decide)

/-- What is written after a character is blank where the text after it is blank, or ends. -/
theorem isBlankOrEnd_head_plainFrom (afterSpace : Bool) (column : Nat) (rest tail : List Char) :
    isBlankOrEnd ((plainFrom indent afterSpace column rest ++ '\n' :: tail).headD '\x00') =
      rest.head?.all isSeparator := by
  cases rest with
  | nil => rfl
  | cons d rest =>
    by_cases space : d = ' '
    · subst space
      rw [plainFrom]
      split <;> rfl
    · rw [plainFrom_of_ne space]
      exact isBlankOrEnd_eq_isSeparator d

theorem startsWithIndicator_cons (c : Char) (rest : List Char) :
    startsWithIndicator (c :: rest) =
      ("#,[]\x7b\x7d&*!|>\"%@".toList.contains c || c == '\x27' || c == '\x60' ||
        ((c == '?' || c == ':' || c == '-') && rest.head?.all isSeparator) ||
        ['-', '-', '-'].isPrefixOf (c :: rest) || ['.', '.', '.'].isPrefixOf (c :: rest)) := by
  cases rest <;> rfl

/-- A text without quotes begins as a plain scalar does. -/
theorem startsPlain_of_plainAllowed (allowed : plainAllowed (c :: rest) = true)
    (indent : Nat) (afterSpace : Bool) (column : Nat) (tail : List Char) :
    Lexer.startsPlain false c
      ((plainFrom indent afterSpace column rest ++ '\n' :: tail).headD '\x00') = true := by
  obtain ⟨indicator, space, shown, unbroken, -⟩ := plainAllowed_cons allowed
  have text : isBlankOrEnd c = false := text_of_isShown shown space unbroken
  simp only [startsWithIndicator_cons, Bool.or_eq_false_iff] at indicator
  obtain ⟨⟨⟨⟨⟨listed, single⟩, accent⟩, mark⟩, -⟩, -⟩ := indicator
  rw [Lexer.startsPlain, isBlankOrEnd_head_plainFrom, text, single, accent]
  -- the three marks that may begin a plain scalar are followed by text
  cases blank : rest.head?.all isSeparator
  · simp at listed ⊢
    grind
  · rw [blank] at mark
    simp at listed mark ⊢
    grind

/-- What may begin a plain scalar also goes on with it, and begins no comment. -/
theorem continues_of_startsPlain
    (starts : Lexer.startsPlain false c (rest.headD '\x00') = true) :
    Continues c rest ∧ c ≠ '#' := by
  simp only [Lexer.startsPlain, Bool.or_eq_true, Bool.and_eq_true, Bool.not_eq_true',
    Bool.or_eq_false_iff, Bool.not_false, true_and, beq_iff_eq] at starts
  obtain ⟨⟨⟨blank, listed⟩, -⟩, -⟩ | ⟨next, marks⟩ := starts
  · refine ⟨⟨blank, ?_⟩, ?_⟩
    · rintro rfl
      exact absurd listed (by decide)
    · rintro rfl
      exact absurd listed (by decide)
  · refine ⟨⟨?_, fun _ => next⟩, ?_⟩
    · rcases marks with rfl | rfl | rfl <;> decide
    · rcases marks with rfl | rfl | rfl <;> decide

/-- A text without quotes is read as it is, up to the line after it. -/
theorem plain_plainFrom (allowed : plainAllowed (c :: rest) = true) (indented : 0 < indent)
    (far : limit ≤ indent) {more : List Char}
    (close : PlainAs limit ('\n' :: tail) [] more column) {col : Nat} {start : Cursor}
    (written : start.rest = plainFrom indent false col (c :: rest) ++ '\n' :: tail)
    (within : limit ≤ start.column) :
    ∃ last, Scalar.plain false limit start = (String.ofList (c :: rest), true, last) ∧
      last.rest = more ∧ last.column = column := by
  obtain ⟨-, space, shown, unbroken, flows⟩ := plainAllowed_cons allowed
  obtain ⟨continues, comment⟩ :=
    continues_of_startsPlain (startsPlain_of_plainAllowed allowed indent false (col + 1) tail)
  have later := plainFrom_plainAs indented far close 0 false (col + 1) flows (by simp)
  have whole := later.char continues (isOnLine_of_isShown shown unbroken)
  rw [plainFrom_of_ne space, List.cons_append] at written
  obtain ⟨last, reads, left⟩ := whole start start.rest.length [] written within
    (by rw [written]; exact le_rfl)
  refine ⟨last, ?_, left⟩
  rw [Scalar.plain, Scalar.plainParts_succ written continues comment, List.append_nil, reads]
  rfl

end Printer

/-! ## Words -/

namespace Scalar

variable {ch : Char} {word rest : List Char} {c : Cursor}

/-- A letter is no indicator, and no blank. -/
theorem startsPlain_of_isAlpha (letter : ch.isAlpha = true) (next : Char) :
    Cursor.isOnLine ch = true ∧ Lexer.startsPlain false ch next = true := by
  have other (d : Char) (sign : d.isAlpha = false) : (ch == d) = false := by
    rw [beq_eq_false_iff_ne]
    rintro rfl
    rw [letter] at sign
    cases sign
  refine ⟨?_, ?_⟩
  · simp (disch := decide) only [Cursor.isOnLine, isBreak, other, Bool.or_false, Bool.not_false]
  · have unlisted : "-?:,[]\x7b\x7d#&*!|>%@\"".toList.contains ch = false := by
      have signs : "-?:,[]\x7b\x7d#&*!|>%@\"".toList.all (!·.isAlpha) = true := by decide
      rw [Bool.eq_false_iff, ne_eq, List.contains_iff_mem]
      intro listed
      have sign := List.all_eq_true.mp signs ch listed
      rw [letter] at sign
      cases sign
    simp (disch := decide) only [Lexer.startsPlain, isBlankOrEnd, isSpaceOrEnd, isBreakOrEnd,
      isBreak, unlisted, other, Bool.or_false, Bool.not_false, Bool.true_or]

theorem plainRun_of_word (letters : ∀ ch ∈ word, ch.isAlpha = true) (rest : List Char) :
    plainRun false (word ++ ':' :: ' ' :: rest) = word := by
  induction word with
  | nil => rfl
  | cons ch word ih =>
    obtain ⟨letter, letters⟩ := List.forall_mem_cons.mp letters
    have continues := (Printer.continues_of_startsPlain
      (startsPlain_of_isAlpha letter ((word ++ ':' :: ' ' :: rest).headD '\x00')).2).1
    rw [List.cons_append, plainRun_of_continues continues, ih letters]

/-- A word before a colon is a plain scalar. -/
theorem plain_of_word (letters : ∀ ch ∈ word, ch.isAlpha = true) (some : word ≠ [])
    (written : c.rest = word ++ ':' :: ' ' :: rest) (indent : Int) :
    plain false indent c = (String.ofList word, false, c.advanceBy word.length) := by
  have run : plainRun false c.rest = word := by rw [written, plainRun_of_word letters]
  have left : (c.advanceBy word.length).rest = ':' :: ' ' :: rest := by
    rw [Cursor.rest_advanceBy, written, List.drop_left]
  have ends : plainSpaces (c.advanceBy word.length) = ([], c.advanceBy word.length, false) := by
    rw [plainSpaces, Cursor.span_of_neg left (by decide)]
    simp only [Cursor.peek_of_rest left]
    rfl
  obtain ⟨ch, more, rfl⟩ := List.exists_cons_of_ne_nil some
  have comment : ch ≠ '#' := (Printer.continues_of_startsPlain
    (startsPlain_of_isAlpha (letters ch List.mem_cons_self) (more.headD '\x00')).2).2
  rw [List.cons_append] at written
  rw [plain, plainParts, Cursor.peek_of_rest written, if_neg (by simpa using comment), run]
  simp only [ends, List.isEmpty_nil, Bool.true_or, if_true, List.nil_append]

end Scalar

end Catalog.Yaml
