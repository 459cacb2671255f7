import Catalog.Proofs.Yaml.Quoted
import Mathlib.Algebra.Group.Nat.Defs

/-!
# What scalars between quotes are read back as

Between double quotes every text is read back as it is. Between single quotes the next line
character is written as it is, and read as a line break like any other: alone it becomes a space,
and among other breaks a line feed. All other texts are read back as they are.
-/

namespace Catalog.Yaml.Printer

open Scalar (QuotedAs isQuotable meantBreaks)
open Cursor (meantBreak)

/-! ## Between single quotes -/

/-- A text as it is read back from between single quotes. The flag says that the character before
it is a line break. -/
def rereadFrom : Bool → List Char → List Char
  | _, [] => []
  | afterBreak, c :: rest =>
    if c == '\x85' then
      (if afterBreak then ['\n'] else if rest.head?.any isInnerBreak then [] else [' ']) ++
        rereadFrom true rest
    else c :: rereadFrom (isInnerBreak c) rest

/-- Nothing that is read back from between single quotes has a next line character. -/
theorem not_mem_rereadFrom (afterBreak : Bool) (cs : List Char) :
    '\x85' ∉ rereadFrom afterBreak cs := by
  induction cs generalizing afterBreak with
  | nil => exact List.not_mem_nil
  | cons c rest ih =>
    rw [rereadFrom]
    split
    · refine List.not_mem_append ?_ (ih true)
      split
      · decide
      · split <;> decide
    · rename_i other
      refine fun member => (List.mem_cons.mp member).elim (fun same => ?_) (ih _)
      simp [← same] at other

theorem rereadFrom_eq_self {cs : List Char} (free : '\x85' ∉ cs) (afterBreak : Bool) :
    rereadFrom afterBreak cs = cs := by
  induction cs generalizing afterBreak with
  | nil => rfl
  | cons c rest ih =>
    obtain ⟨other, free⟩ := not_or.mp (List.mem_cons.not.mp free)
    rw [rereadFrom, if_neg (by simpa using Ne.symm other), ih free]

/-- A text is read back as it is exactly if it has no next line character. -/
theorem rereadFrom_eq_self_iff {cs : List Char} {afterBreak : Bool} :
    rereadFrom afterBreak cs = cs ↔ '\x85' ∉ cs :=
  ⟨fun same => same ▸ not_mem_rereadFrom afterBreak cs, fun free => rereadFrom_eq_self free _⟩

/-- A text as it is read back, in the style in which it is written. -/
def reread (s : String) : String :=
  match styleOf s with
  | .single => String.ofList (rereadFrom false s.toList)
  | _ => s

theorem styleOf_eq_plain {s : String} (style : styleOf s = .plain) :
    plainAllowed s.toList = true ∧ Tag.ofPlain s = Tag.str := by
  rw [styleOf] at style
  split at style
  · rename_i plain
    simpa using plain
  · split at style <;> cases style

theorem styleOf_eq_single {s : String} (style : styleOf s = .single) :
    singleAllowed s.toList = true := by
  rw [styleOf] at style
  split at style
  · cases style
  · split at style
    · assumption
    · cases style

/-- Only between double quotes a next line character is kept. -/
theorem reread_eq_self_iff {s : String} :
    reread s = s ↔ ('\x85' ∈ s.toList → styleOf s = .double) := by
  rw [reread]
  cases style : styleOf s with
  | plain =>
    refine iff_of_true rfl fun member => ?_
    obtain ⟨allowed, -⟩ := styleOf_eq_plain style
    simp only [plainAllowed, Bool.and_eq_true, Bool.not_eq_true'] at allowed
    have unbroken := List.any_eq_false.mp allowed.1.1.1.2 _ member
    exact absurd rfl unbroken
  | single =>
    rw [← String.toList_inj, String.toList_ofList, rereadFrom_eq_self_iff]
    simp
  | double => simp

example : reread "a\x85b" = "a b" := by decide

/-- Breaks after a break. -/
theorem rereadFrom_breaks {bs : List Char} (inner : ∀ b ∈ bs, isInnerBreak b = true)
    (cs : List Char) : rereadFrom true (bs ++ cs) = bs.map meantBreak ++ rereadFrom true cs := by
  induction bs with
  | nil => rfl
  | cons b bs ih =>
    obtain ⟨first, inner⟩ := List.forall_mem_cons.mp inner
    have rest := ih inner
    rw [List.cons_append, rereadFrom, first, rest, List.map_cons, meantBreak]
    split <;> rfl

/-- The breaks that are written for a break that no break stands before. -/
def openingBreaks (c : Char) : Char × List Char :=
  if c == '\n' then ('\n', ['\n']) else (c, [])

theorem rereadFrom_opening {c : Char} (inner : isInnerBreak c = true) (cs : List Char) :
    rereadFrom false (c :: cs) =
      meantBreaks (openingBreaks c).1 ((openingBreaks c).2 ++ cs.takeWhile isInnerBreak) ++
        rereadFrom true (cs.dropWhile isInnerBreak) := by
  have inside : ∀ b ∈ cs.takeWhile isInnerBreak, isInnerBreak b = true :=
    fun b member => List.mem_takeWhile_imp member
  have rest := rereadFrom_breaks inside (cs.dropWhile isInnerBreak)
  rw [List.takeWhile_append_dropWhile] at rest
  have cases : c = '\n' ∨ c = '\x85' ∨ c = '\u2028' ∨ c = '\u2029' := by
    simpa [isInnerBreak, or_assoc] using inner
  rcases cases with rfl | rfl | rfl | rfl
  · rw [rereadFrom, if_neg (by decide), inner, rest]
    rfl
  · rw [rereadFrom, if_pos (by decide), rest]
    cases cs with
    | nil => rfl
    | cons d cs =>
      cases known : isInnerBreak d <;> simp [known, meantBreaks, openingBreaks, meantBreak]
  · rw [rereadFrom, if_neg (by decide), inner, rest]
    rfl
  · rw [rereadFrom, if_neg (by decide), inner, rest]
    rfl

theorem eq_of_isBlankOrEnd {c : Char} (blank : isBlankOrEnd c = true) :
    c = '\t' ∨ c = ' ' ∨ c = '\x00' ∨ c = '\n' ∨ c = '\r' ∨ c = '\x85' ∨ c = '\u2028' ∨
      c = '\u2029' := by
  simpa [isBlankOrEnd, isSpaceOrEnd, isBreakOrEnd, isBreak, or_assoc] using blank

theorem text_of_isShown {c : Char} (shown : isShown c = true) (space : c ≠ ' ')
    (unbroken : isInnerBreak c = false) : isBlankOrEnd c = false := by
  by_contra other
  have blank : isBlankOrEnd c = true := by simpa using other
  rcases eq_of_isBlankOrEnd blank with rfl | rfl | rfl | rfl | rfl | rfl | rfl | rfl <;>
    first
    | exact space rfl
    | exact absurd shown (by decide)
    | exact absurd unbroken (by decide)

/-- Text that does not begin with a blank is not written with one at its beginning. -/
theorem head_singleFrom {cs : List Char} (shown : cs.all isShown = true)
    (text : ∀ c ∈ cs.head?, c ≠ ' ' ∧ isInnerBreak c = false) (indent : Nat)
    (before : Option Char) (column : Nat) (tail : List Char) :
    ∃ ch more, singleFrom indent before column cs ++ '\x27' :: tail = ch :: more ∧
      isBlankOrEnd ch = false := by
  cases cs with
  | nil => exact ⟨'\x27', tail, rfl, by decide⟩
  | cons c rest =>
    obtain ⟨space, unbroken⟩ := text c rfl
    rw [List.all_cons, Bool.and_eq_true] at shown
    rw [singleFrom]
    split
    · exact ⟨_, _, rfl, by decide⟩
    · rw [if_neg (by simpa using space), if_neg (by simp [unbroken])]
      exact ⟨c, _, rfl, text_of_isShown shown.1 space unbroken⟩

/-- The text from some place on is written so that it is read back; `n` spaces before it were
written already. -/
def SpacedWell (indent : Nat) (tail cs : List Char) : Prop :=
  ∀ n before column, (0 < n → before = some ' ') →
    (0 < n ∨ before.any isInnerBreak = true → cs.head?.any isInnerBreak = false) →
    QuotedAs false (List.replicate n ' ' ++ (singleFrom indent before column cs ++ '\x27' :: tail))
      (List.replicate n ' ' ++ rereadFrom false cs) tail

/-- The text after some breaks is written so that they and the text are read back. -/
def BrokenWell (indent : Nat) (tail cs : List Char) : Prop :=
  ∀ b bs before, (∀ b' ∈ b :: bs, isInnerBreak b' = true) → before.any isInnerBreak = true →
    cs.head? ≠ some ' ' →
    QuotedAs false
      (b :: bs ++ ((if cs.head?.any isInnerBreak then [] else List.replicate indent ' ') ++
        (singleFrom indent before indent cs ++ '\x27' :: tail)))
      (meantBreaks b (bs ++ cs.takeWhile isInnerBreak) ++
        rereadFrom true (cs.dropWhile isInnerBreak)) tail

section

variable {indent : Nat} {tail cs rest : List Char} {c : Char}

theorem singleAllowed_shown (allowed : singleAllowed cs = true) : cs.all isShown = true := by
  simp only [singleAllowed, Bool.and_eq_true] at allowed
  exact allowed.1.1

theorem singleAllowed_cons (allowed : singleAllowed (c :: rest) = true) :
    isShown c = true ∧ singleAllowed rest = true ∧
      (isInnerBreak c = true → rest.head? ≠ some ' ') ∧
      (c = ' ' → rest.head?.any isInnerBreak = false) := by
  cases rest with
  | nil =>
    simp only [singleAllowed, List.all_cons, List.all_nil, Bool.and_true, Bool.and_eq_true]
      at allowed
    exact ⟨allowed.1.1, rfl, by simp, by simp⟩
  | cons d rest =>
    simp only [singleAllowed, List.all_cons, hasNeighbours, Bool.and_eq_true,
      Bool.or_eq_false_iff, Bool.not_eq_true'] at allowed ⊢
    obtain ⟨⟨⟨first, shown⟩, after, laterAfter⟩, before, laterBefore⟩ := allowed
    refine ⟨first, ⟨⟨shown, laterAfter⟩, laterBefore⟩, fun broken => ?_, ?_⟩
    · simpa [broken] using after
    · rintro rfl
      simpa using before

theorem singleFrom_break (broken : isInnerBreak c = true) (before : Option Char) (column : Nat)
    (rest : List Char) :
    singleFrom indent before column (c :: rest) =
      (if c == '\n' && !before.any isInnerBreak then ['\n'] else []) ++
        c :: ((if rest.head?.any isInnerBreak then [] else List.replicate indent ' ') ++
          singleFrom indent (some c) indent rest) := by
  have unquoted : (c == '\x27') = false := by
    by_contra quote
    obtain rfl : c = '\x27' := by simpa using quote
    exact absurd broken (by decide)
  have unspaced := unspaced_of_isInnerBreak broken
  rw [Bool.or_eq_false_iff] at unspaced
  rw [singleFrom, unquoted, unspaced.1, broken]
  simp

theorem singleFrom_space (before : Option Char) (column : Nat) (rest : List Char) :
    singleFrom indent before column (' ' :: rest) =
      if before.isSome && before != some ' ' && !rest.isEmpty && rest.head? != some ' ' &&
          width < column then
        newline indent ++ singleFrom indent (some ' ') indent rest
      else ' ' :: singleFrom indent (some ' ') (column + 1) rest :=
  (if_neg (by decide)).trans (if_pos (by decide))

theorem singleFrom_other (unbroken : isInnerBreak c = false) (space : c ≠ ' ')
    (before : Option Char) (column : Nat) (rest : List Char) :
    singleFrom indent before column (c :: rest) =
      if c = '\x27' then '\x27' :: '\x27' :: singleFrom indent (some c) (column + 2) rest
      else c :: singleFrom indent (some c) (column + 1) rest := by
  rw [singleFrom]
  simp [unbroken, space]

theorem SpacedWell.brokenWell (well : SpacedWell indent tail cs)
    (allowed : singleAllowed cs = true) (indented : 0 < indent)
    (later : ∀ c rest, cs = c :: rest → BrokenWell indent tail rest) :
    BrokenWell indent tail cs := by
  intro b bs before inner broken unspaced
  cases next : cs.head?.any isInnerBreak with
  | false =>
    have stays : cs.takeWhile isInnerBreak = [] ∧ cs.dropWhile isInnerBreak = cs ∧
        rereadFrom true cs = rereadFrom false cs := by
      cases cs with
      | nil => exact ⟨rfl, rfl, rfl⟩
      | cons c rest =>
        have unbroken : isInnerBreak c = false := by simpa using next
        refine ⟨by simp [unbroken], by simp [unbroken], ?_⟩
        have other : (c == '\x85') = false := by
          simp only [isInnerBreak, Bool.or_eq_false_iff] at unbroken
          exact unbroken.1.1.2
        rw [rereadFrom, rereadFrom, other]
        rfl
    obtain ⟨ch, more, written, text⟩ := head_singleFrom (singleAllowed_shown allowed)
      (fun c member => ⟨fun space => unspaced (space ▸ member), by
        rw [Option.mem_def.mp member] at next
        exact next⟩) indent before indent tail
    have after := well 0 before indent (by simp) fun _ => next
    rw [List.replicate_zero, List.nil_append, List.nil_append, written] at after
    rw [stays.1, stays.2.1, stays.2.2, List.append_nil, written]
    exact after.breaks inner indented text
  | true =>
    cases cs with
    | nil => cases next
    | cons c rest =>
      have first : isInnerBreak c = true := next
      obtain ⟨-, -, unspaced', -⟩ := singleAllowed_cons allowed
      have inner' : ∀ b' ∈ b :: (bs ++ [c]), isInnerBreak b' = true := by
        rw [← List.cons_append]
        exact List.forall_mem_append.mpr ⟨inner, List.forall_mem_singleton.mpr first⟩
      have after := later c rest rfl b (bs ++ [c]) (some c) inner' first (unspaced' first)
      rw [singleFrom_break first, broken]
      simpa [first] using after

/-- The text in front of which nothing is written yet, and spaces before it. -/
theorem SpacedWell.intro
    (bare : ∀ before column, (before.any isInnerBreak = true → cs.head?.any isInnerBreak = false) →
      cs.head? ≠ some ' ' →
      QuotedAs false (singleFrom indent before column cs ++ '\x27' :: tail) (rereadFrom false cs)
        tail)
    (shown : cs.all isShown = true)
    (spaced : ∀ rest, cs = ' ' :: rest → SpacedWell indent tail cs) :
    SpacedWell indent tail cs := by
  intro n before column after unbroken
  by_cases space : cs.head? = some ' '
  · obtain ⟨rest, rfl⟩ : ∃ rest, cs = ' ' :: rest := List.head?_eq_some_iff.mp space
    exact spaced rest rfl n before column after unbroken
  · have means := bare before column (fun broken => unbroken (.inr broken)) space
    cases n with
    | zero => exact means
    | succ n =>
      have next := unbroken (.inl n.succ_pos)
      obtain ⟨ch, more, written, text⟩ := head_singleFrom shown
        (fun c member => ⟨fun same => space (same ▸ member), by
          rw [Option.mem_def.mp member] at next
          exact next⟩) indent before column tail
      rw [written] at means ⊢
      exact means.spaces text

/-- A space is written as it is, or as a line break. -/
theorem SpacedWell.space (well : SpacedWell indent tail rest)
    (allowed : singleAllowed (' ' :: rest) = true) (indented : 0 < indent) :
    SpacedWell indent tail (' ' :: rest) := by
  intro n before column after _
  obtain ⟨-, allowed', -, unbroken⟩ := singleAllowed_cons allowed
  have meant : rereadFrom false (' ' :: rest) = ' ' :: rereadFrom false rest := if_neg (by decide)
  rw [singleFrom_space, meant]
  split
  · rename_i folds
    simp only [Bool.and_eq_true, bne_iff_ne, ne_eq, decide_eq_true_eq] at folds
    obtain ⟨⟨⟨⟨-, before'⟩, -⟩, unspaced⟩, -⟩ := folds
    obtain rfl : n = 0 := by
      by_contra some
      exact before' (after (Nat.pos_of_ne_zero some))
    obtain ⟨ch, more, written, text⟩ := head_singleFrom (singleAllowed_shown allowed')
      (fun c member => ⟨fun same => unspaced (same ▸ member), by
        have next := unbroken rfl
        rw [Option.mem_def.mp member] at next
        exact next⟩) indent (some ' ') indent tail
    have means := well 0 (some ' ') indent (by simp) fun _ => unbroken rfl
    rw [List.replicate_zero, List.nil_append, List.nil_append] at means
    rw [List.replicate_zero, List.nil_append, List.nil_append, List.append_assoc, newline]
    rw [written] at means ⊢
    change QuotedAs false ('\n' :: [] ++ (List.replicate indent ' ' ++ ch :: more))
      (meantBreaks '\n' [] ++ rereadFrom false rest) tail
    exact means.breaks (List.forall_mem_singleton.mpr rfl) indented text
  · have means := well (n + 1) (some ' ') (column + 1) (fun _ => rfl) fun _ => unbroken rfl
    rw [List.replicate_succ', List.append_assoc, List.append_assoc] at means
    exact means

theorem SpacedWell.cons (well : SpacedWell indent tail rest) (broken : BrokenWell indent tail rest)
    (allowed : singleAllowed (c :: rest) = true) (indented : 0 < indent) :
    SpacedWell indent tail (c :: rest) := by
  refine .intro (fun before column after unspaced => ?_) (singleAllowed_shown allowed) ?_
  · obtain ⟨shown, -, unspaced', -⟩ := singleAllowed_cons allowed
    cases breaks : isInnerBreak c with
    | true =>
      -- A break after a break belongs to the run that `BrokenWell` speaks of; this one opens a run.
      have unbroken : before.any isInnerBreak = false := by
        by_contra before'
        exact absurd (after (by simpa using before')) (by simp [breaks])
      have inner : ∀ b ∈ (openingBreaks c).1 :: (openingBreaks c).2, isInnerBreak b = true := by
        rw [openingBreaks]
        split
        · exact List.forall_mem_cons.mpr ⟨rfl, List.forall_mem_singleton.mpr rfl⟩
        · exact List.forall_mem_singleton.mpr breaks
      have means := broken _ _ (some c) inner breaks (unspaced' breaks)
      rw [singleFrom_break breaks, unbroken, rereadFrom_opening breaks]
      by_cases feed : c = '\n'
      · subst feed
        simpa [openingBreaks] using means
      · have opening : openingBreaks c = (c, []) := if_neg (by simpa using feed)
        rw [opening] at means ⊢
        simpa [feed] using means
    | false =>
      have space : c ≠ ' ' := by simpa using unspaced
      have text := text_of_isShown shown space breaks
      have means (column : Nat) := well 0 (some c) column (by simp) (by simp [breaks])
      simp only [List.replicate_zero, List.nil_append] at means
      have meant : rereadFrom false (c :: rest) = c :: rereadFrom false rest := by
        have other : (c == '\x85') = false := by
          simp only [isInnerBreak, Bool.or_eq_false_iff] at breaks
          exact breaks.1.1.2
        rw [rereadFrom, other, breaks]
        rfl
      rw [singleFrom_other breaks space, meant]
      split
      · rename_i quote
        subst quote
        exact (means _).pair
      · rename_i quote
        by_cases mark : c = '"' ∨ c = '\\'
        · exact (means _).foreign (by simpa using mark)
        · exact (means _).char (by simpa [isQuotable, quote, text] using mark)
  · rintro rest' same
    cases same
    exact well.space allowed indented

/-- A text that may be written between single quotes is read back from there. -/
theorem singleFrom_quotedAs (indented : 0 < indent) (ends : tail.head? ≠ some '\x27')
    (allowed : singleAllowed cs = true) (column : Nat) :
    QuotedAs false (singleFrom indent none column cs ++ '\x27' :: tail) (rereadFrom false cs)
      tail := by
  -- Neither half can be proved alone: at a break the rest of the text is needed as it is written
  -- after breaks, and past the last break as it is written after spaces.
  have well : SpacedWell indent tail cs ∧ BrokenWell indent tail cs := by
    induction cs with
    | nil =>
      have well : SpacedWell indent tail [] := by
        refine .intro (fun before column _ _ => ?_) rfl (by simp)
        exact .close fun _ => ends
      exact ⟨well, well.brokenWell rfl indented (by simp)⟩
    | cons c rest ih =>
      obtain ⟨well, broken⟩ := ih (singleAllowed_cons allowed).2.1
      have well' := well.cons broken allowed indented
      refine ⟨well', well'.brokenWell allowed indented fun c' rest' same => ?_⟩
      cases same
      exact broken
  exact well.1 0 none column (by simp) (by simp)

end

/-! ## Numbers in base sixteen -/

/-- The digits of a number in base sixteen are read as the number. -/
theorem hexDigits_spec (n : Nat) :
    ((Nat.toDigits 16 n).map Char.toUpper).all isHexDigit = true ∧
      Numeral.valueOf 16 (((Nat.toDigits 16 n).map Char.toUpper).filterMap Numeral.digit?) = n := by
  have digit : ∀ d < 16, isHexDigit (Nat.digitChar d).toUpper = true ∧
      Numeral.digit? (Nat.digitChar d).toUpper = some d := by decide
  induction n using Nat.strong_induction_on with
  | h n ih =>
    by_cases small : n < 16
    · obtain ⟨hex, value⟩ := digit n small
      rw [Nat.toDigits_of_lt_base small]
      simp [hex, value, Numeral.valueOf]
    · obtain ⟨hex, value⟩ := ih (n / 16) (by omega)
      obtain ⟨hex', value'⟩ := digit (n % 16) (Nat.mod_lt _ (by decide))
      rw [Nat.toDigits_of_base_le (by decide) (by omega), List.map_append, List.all_append,
        List.filterMap_append]
      rw [Numeral.valueOf] at value ⊢
      rw [List.foldl_append, value]
      refine ⟨by simp [hex, hex'], ?_⟩
      simp only [List.map_cons, List.map_nil, List.filterMap_cons, value', List.filterMap_nil,
        List.foldl_cons, List.foldl_nil]
      omega

theorem capitalHex_spec {places n : Nat} (some : 0 < places) (fits : n < 16 ^ places) :
    (capitalHex places n).length = places ∧ (capitalHex places n).all isHexDigit = true ∧
      Numeral.valueOf 16 ((capitalHex places n).filterMap Numeral.digit?) = n := by
  obtain ⟨hex, value⟩ := hexDigits_spec n
  have short := (Nat.length_toDigits_le_iff (by decide : 1 < 16) some).mpr fits
  simp only [capitalHex, Text.hexDigits, List.map_append, List.map_replicate]
  refine ⟨?_, ?_, ?_⟩
  · simp
    omega
  · rw [List.all_append, hex, Bool.and_true, List.all_eq_true]
    intro c member
    rw [List.eq_of_mem_replicate member]
    decide
  · have zeros (k : Nat) : (List.replicate k '0'.toUpper).filterMap Numeral.digit? =
        List.replicate k 0 := by
      induction k with
      | zero => rfl
      | succ k ih => rw [List.replicate_succ, List.filterMap_cons, ih]; rfl
    have start (k : Nat) : (List.replicate k 0).foldl (fun total d => total * 16 + d) 0 = 0 := by
      induction k with
      | zero => rfl
      | succ k ih => exact ih
    rw [List.filterMap_append, zeros, Numeral.valueOf, List.foldl_append, start]
    exact value

/-! ## Between double quotes -/

section

variable {indent : Nat} {tail text out : List Char} {c : Char}

theorem simpleEscape?_of_escapeLetter? {letter : Char} (written : escapeLetter? c = some letter) :
    Scalar.simpleEscape? letter = some c := by
  have first {p : Prop} [Decidable p] {a b : Char} {others : Option Char}
      (given : (if p then some a else others) = some b) : p ∧ a = b ∨ others = some b := by
    by_cases holds : p
    · rw [if_pos holds] at given
      exact .inl ⟨holds, Option.some.inj given⟩
    · exact .inr ((if_neg holds).symm.trans given)
  rw [escapeLetter?] at written
  iterate 14
    obtain ⟨same, rfl⟩ | written := first written
    · rw [beq_iff_eq.mp same]
      rfl
  cases written

theorem charOfCode_toNat (c : Char) : Scalar.charOfCode c.toNat = .ok c := by
  have valid : c.toNat < 0xD800 ∨ 0xDFFF < c.toNat ∧ c.toNat < 0x110000 := c.valid
  rw [Scalar.charOfCode, if_neg (by omega), if_neg (by omega), if_neg (by simp; omega),
    Char.ofNat_toNat]

theorem escape_eq_cons (c : Char) : ∃ more, escape c = '\\' :: more := by
  rw [escape]
  split
  · exact ⟨_, rfl⟩
  · dsimp only
    split
    · exact ⟨_, rfl⟩
    · split <;> exact ⟨_, rfl⟩

/-- A character that is written as an escape. -/
theorem escape_quotedAs (after : QuotedAs true text out tail) (c : Char) :
    QuotedAs true (escape c ++ text) (c :: out) tail := by
  have coded {mark : Char} {places : Nat} (some : 0 < places) (fits : c.toNat < 16 ^ places)
      (length : Scalar.codeLength? mark = .some places) :
      QuotedAs true ('\\' :: mark :: capitalHex places c.toNat ++ text) (c :: out) tail := by
    obtain ⟨size, hex, value⟩ := capitalHex_spec some fits
    exact after.code (by rw [size, length]) hex (by rw [value, charOfCode_toNat])
  rw [escape]
  split
  · rename_i letter written
    exact after.letter (simpleEscape?_of_escapeLetter? written)
  · have valid : c.toNat < 0x110000 := by
      have : c.toNat < 0xD800 ∨ 0xDFFF < c.toNat ∧ c.toNat < 0x110000 := c.valid
      omega
    dsimp only
    split
    · exact coded (by decide) (by omega) rfl
    · split
      · exact coded (by decide) (by omega) rfl
      · exact coded (by decide) (by omega) rfl

theorem text_of_isBare (bare : isBare c = true) (space : c ≠ ' ') :
    isBlankOrEnd c = false ∧ c ≠ '"' ∧ c ≠ '\\' := by
  have unquoted : c ≠ '"' ∧ c ≠ '\\' := by
    simp only [isBare, Bool.and_eq_true, bne_iff_ne] at bare
    exact bare.1
  refine ⟨?_, unquoted⟩
  by_contra other
  have blank : isBlankOrEnd c = true := by simpa using other
  rcases eq_of_isBlankOrEnd blank with rfl | rfl | rfl | rfl | rfl | rfl | rfl | rfl <;>
    first
    | exact space rfl
    | exact absurd bare (by decide)

/-- A character that stands for itself. -/
theorem bare_quotedAs (after : QuotedAs true text out tail) (bare : isBare c = true)
    (space : c ≠ ' ') : QuotedAs true (c :: text) (c :: out) tail := by
  obtain ⟨plain, quote, backslash⟩ := text_of_isBare bare space
  by_cases single : c = '\x27'
  · exact after.foreign (by simp [single])
  · exact after.char (by simp [isQuotable, plain, quote, backslash, single])

/-- The text from some place on is written so that it is read back; `n` spaces before it were
written already. -/
def EscapedWell (indent : Nat) (tail cs : List Char) : Prop :=
  ∀ n before column,
    QuotedAs true (List.replicate n ' ' ++ (doubleFrom indent before column cs ++ '"' :: tail))
      (List.replicate n ' ' ++ cs) tail

variable {cs rest : List Char}

/-- Text that does not begin with a space is not written with a blank at its beginning. -/
theorem head_doubleFrom (unspaced : cs.head? ≠ some ' ') (indent : Nat) (before : Before)
    (column : Nat) (tail : List Char) :
    ∃ ch more, doubleFrom indent before column cs ++ '"' :: tail = ch :: more ∧
      isBlankOrEnd ch = false := by
  cases cs with
  | nil => exact ⟨'"', tail, rfl, by decide⟩
  | cons c rest =>
    rw [doubleFrom]
    dsimp only
    split
    · rename_i bare
      split
      · exact ⟨'\\', _, rfl, by decide⟩
      · exact ⟨c, _, rfl, (text_of_isBare bare (by simpa using unspaced)).1⟩
    · obtain ⟨more, written⟩ := escape_eq_cons c
      rw [written]
      split <;> exact ⟨'\\', _, rfl, by decide⟩

theorem escapedSpace : Scalar.simpleEscape? ' ' = some ' ' := rfl

/-- What was escaped before a line break does not begin with a space, or the space is escaped. -/
theorem EscapedWell.continued (well : EscapedWell indent tail rest)
    (later : ∀ rest', rest = ' ' :: rest' → EscapedWell indent tail rest') (indented : 0 < indent)
    (narrow : indent + 1 ≤ width) :
    QuotedAs true ('\\' :: newline indent ++ (if rest.head? == some ' ' then ['\\'] else []) ++
      (doubleFrom indent .escape (indent + (if rest.head? == some ' ' then ['\\'] else []).length)
        rest ++ '"' :: tail)) rest tail := by
  by_cases spaced : rest.head? = some ' '
  · obtain ⟨rest', rfl⟩ : ∃ rest', rest = ' ' :: rest' := List.head?_eq_some_iff.mp spaced
    have means := (later rest' rfl 0 .bare (indent + 1 + 1)).letter escapedSpace
    have written : doubleFrom indent .escape (indent + 1) (' ' :: rest') =
        ' ' :: doubleFrom indent .bare (indent + 1 + 1) rest' := by
      refine if_neg ?_
      simp only [Bool.and_eq_true, decide_eq_true_eq]
      omega
    simp only [List.head?_cons, beq_self_eq_true, if_true, List.length_singleton, written, newline]
    simpa using means.continued indented (by decide)
  · have means := well 0 .escape indent
    obtain ⟨ch, more, written, text⟩ := head_doubleFrom spaced indent .escape indent tail
    rw [List.replicate_zero, List.nil_append, List.nil_append, written] at means
    have bare : (if rest.head? == some ' ' then ['\\'] else []) = [] :=
      if_neg (by simpa using spaced)
    rw [bare, List.append_nil, List.length_nil, Nat.add_zero, written]
    exact means.continued indented text

theorem EscapedWell.cons (well : EscapedWell indent tail rest)
    (later : ∀ rest', rest = ' ' :: rest' → EscapedWell indent tail rest') (indented : 0 < indent)
    (narrow : indent + 1 ≤ width) : EscapedWell indent tail (c :: rest) := by
  intro n before column
  have means (before : Before) (column : Nat) := well 0 before column
  simp only [List.replicate_zero, List.nil_append] at means
  rw [doubleFrom]
  dsimp only
  split
  · rename_i bare
    by_cases space : c = ' '
    · subst space
      split
      · have folded := ((means .bare (indent + 1 + 1)).letter escapedSpace).continued indented
          (by decide)
        simpa [newline] using folded.spaces (n := n) (by decide)
      · have spaced := well (n + 1) .bare (column + 1)
        rw [List.replicate_succ', List.append_assoc, List.append_assoc] at spaced
        exact spaced
    · obtain ⟨text, -⟩ := text_of_isBare bare space
      split
      · have folded := (bare_quotedAs (means .bare (indent + 0 + 1)) bare space).continued indented
          text
        simpa [newline, space] using folded.spaces (n := n) (by decide)
      · exact (bare_quotedAs (means .bare (column + 1)) bare space).spaces text
  · obtain ⟨more, written⟩ := escape_eq_cons c
    split
    · have folded := escape_quotedAs (well.continued later indented narrow) c
      rw [written] at folded ⊢
      simpa using folded.spaces (n := n) (by decide)
    · have plain := escape_quotedAs (means .escape (column + (escape c).length)) c
      rw [written] at plain ⊢
      simpa using plain.spaces (n := n) (by decide)

/-- Every text is read back from between double quotes. -/
theorem doubleFrom_quotedAs (indented : 0 < indent) (narrow : indent + 1 ≤ width) (cs : List Char)
    (column : Nat) :
    QuotedAs true (doubleFrom indent .quote column cs ++ '"' :: tail) cs tail := by
  have well : EscapedWell indent tail cs ∧
      ∀ rest, cs = ' ' :: rest → EscapedWell indent tail rest := by
    -- After a folded escape a space is escaped as well, so the text behind it is needed already.
    induction cs with
    | nil =>
      refine ⟨fun n before column => ?_, by simp⟩
      exact QuotedAs.spaces (.close (by simp)) (by decide)
    | cons c rest ih =>
      refine ⟨ih.1.cons ih.2 indented narrow, fun rest' same => ?_⟩
      cases same
      exact ih.1
  exact well.1 0 .quote column

end

end Catalog.Yaml.Printer
