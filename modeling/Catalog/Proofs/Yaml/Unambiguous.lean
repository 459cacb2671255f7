import Catalog.Proofs.Yaml.Tokens

/-!
# What is written determines the texts

Two mappings with the same keys and different texts are written differently. Reading does not show
it, as a reader takes a next line character between single quotes for a line feed. So a scalar
between single quotes is taken back to its text here, break by break: a line feed of the text is
written as an empty line and a folded space is not, unless a break stands before, where no space
is folded.
-/

namespace Catalog.Yaml

namespace Printer

variable {indent column : Nat} {cs ds tail tail' : List Char}

/-! ## Plain scalars -/

/-- A plain scalar ends where a line begins without a space. -/
theorem plainFrom_append_injective (indented : 0 < indent) {afterSpace : Bool}
    (unbroken : '\n' ∉ cs) (unbroken' : '\n' ∉ ds) (ends : tail.head? ≠ some ' ')
    (ends' : tail'.head? ≠ some ' ')
    (same : plainFrom indent afterSpace column cs ++ '\n' :: tail =
      plainFrom indent afterSpace column ds ++ '\n' :: tail') :
    cs = ds ∧ tail = tail' := by
  obtain ⟨spaces, rfl⟩ : ∃ n, indent = n + 1 := ⟨indent - 1, by omega⟩
  induction cs generalizing afterSpace column ds with
  | nil =>
    cases ds with
    | nil => exact ⟨rfl, List.cons.inj same |>.2⟩
    | cons d rest =>
      rw [plainFrom, plainFrom] at same
      split at same
      · cases same
        exact absurd rfl ends
      · cases same
        exact absurd List.mem_cons_self unbroken'
  | cons c cs ih =>
    cases ds with
    | nil =>
      rw [plainFrom, plainFrom] at same
      split at same
      · cases same
        exact absurd rfl ends'
      · cases same
        exact absurd List.mem_cons_self unbroken
    | cons d ds =>
      have others := List.not_mem_of_not_mem_cons unbroken
      have others' := List.not_mem_of_not_mem_cons unbroken'
      rw [plainFrom, plainFrom] at same
      split at same
      · rename_i folds
        split at same
        · rename_i folds'
          simp only [Bool.and_eq_true, beq_iff_eq] at folds folds'
          rw [List.append_assoc, List.append_assoc] at same
          obtain ⟨rfl, rfl⟩ := ih others others' (List.append_cancel_left same)
          exact ⟨by rw [folds.1.1.1, folds'.1.1.1], rfl⟩
        · have broken := (List.cons.inj same).1
          exact absurd (broken ▸ List.mem_cons_self) unbroken'
      · split at same
        · have broken := (List.cons.inj same).1
          exact absurd (broken ▸ List.mem_cons_self) unbroken
        · obtain ⟨rfl, same⟩ := List.cons.inj same
          obtain ⟨rfl, rfl⟩ := ih others others' same
          exact ⟨rfl, rfl⟩

/-! ## Scalars between single quotes -/

/-- A line without the spaces that it begins with, if any. -/
def unindent (indent : Nat) (text : List Char) : List Char :=
  if text.head? = some ' ' then text.drop indent else text

theorem length_unindent_le (indent : Nat) (text : List Char) :
    (unindent indent text).length ≤ text.length := by
  rw [unindent]
  split
  · exact (List.length_drop ..).trans_le (Nat.sub_le ..)
  · exact le_rfl

/-- The text that is written between single quotes, and what stands after the second quote. The
character before is one of the text. -/
def takeSingle (indent : Nat) : Option Char → List Char → List Char × List Char
  | _, [] => ([], [])
  | before, c :: rest =>
    if c = '\x27' then
      if rest.head? = some '\x27' then
        (takeSingle indent (some c) rest.tail).map (c :: ·) id
      else ([], rest)
    else if isInnerBreak c then
      if c = '\n' ∧ before.any isInnerBreak = false then
        if rest.head? = some '\n' then
          (takeSingle indent (some c) (unindent indent rest.tail)).map (c :: ·) id
        else (takeSingle indent (some ' ') (unindent indent rest)).map (' ' :: ·) id
      else (takeSingle indent (some c) (unindent indent rest)).map (c :: ·) id
    else (takeSingle indent (some c) rest).map (c :: ·) id
termination_by _ text => text.length
decreasing_by
  all_goals grind [length_unindent_le, List.length_tail]

theorem unindent_spaces (indented : 0 < indent) (text : List Char) :
    unindent indent (List.replicate indent ' ' ++ text) = text := by
  have begins : (List.replicate indent ' ' ++ text).head? = some ' ' := by
    obtain ⟨spaces, rfl⟩ : ∃ n, indent = n + 1 := ⟨indent - 1, by omega⟩
    rfl
  rw [unindent, if_pos begins, List.drop_left' List.length_replicate]

/-- After a break the spaces of the next line are taken away, or it begins with a break. -/
theorem unindent_closing (indented : 0 < indent) {c : Char} (broken : isInnerBreak c = true)
    {rest : List Char} (indent' : Nat) :
    unindent indent ((if rest.head?.any isInnerBreak then [] else List.replicate indent ' ') ++
        (singleFrom indent (some c) indent' rest ++ '\x27' :: tail)) =
      singleFrom indent (some c) indent' rest ++ '\x27' :: tail := by
  split
  · rename_i next
    cases rest with
    | nil => cases next
    | cons d rest =>
      have broken' : isInnerBreak d = true := by simpa using next
      have spaced : d ≠ ' ' := by
        rintro rfl
        exact absurd broken' (by decide)
      rw [List.nil_append, singleFrom_break broken', Option.any_some, broken, unindent]
      simp [spaced]
  · exact unindent_spaces indented _

/-- A text between single quotes is taken back. -/
theorem takeSingle_singleFrom (indented : 0 < indent) (ends : tail.head? ≠ some '\x27')
    (allowed : singleAllowed cs = true) {before : Option Char}
    (spaced : before.any isInnerBreak = true → cs.head? ≠ some ' ') :
    takeSingle indent before (singleFrom indent before column cs ++ '\x27' :: tail) =
      (cs, tail) := by
  induction cs generalizing before column with
  | nil => rw [singleFrom, List.nil_append, takeSingle, if_pos rfl, if_neg ends]
  | cons c rest ih =>
    obtain ⟨-, allowed', spaced', -⟩ := singleAllowed_cons allowed
    have later (column : Nat) :
        takeSingle indent (some c) (singleFrom indent (some c) column rest ++ '\x27' :: tail) =
          (rest, tail) :=
      ih allowed' spaced'
    cases broken : isInnerBreak c with
    | true =>
      have unquoted : c ≠ '\x27' := by
        rintro rfl
        exact absurd broken (by decide)
      rw [singleFrom_break broken]
      by_cases opens : c = '\n' ∧ before.any isInnerBreak = false
      · obtain ⟨rfl, first⟩ := opens
        rw [first, if_pos (by rfl), List.append_assoc, List.singleton_append, takeSingle,
          if_neg unquoted, if_pos broken, if_pos ⟨rfl, first⟩, List.cons_append, List.head?_cons,
          if_pos rfl, List.tail_cons, List.append_assoc, unindent_closing indented broken, later]
        rfl
      · rw [if_neg (by simpa using opens), List.nil_append, List.cons_append, takeSingle,
          if_neg unquoted, if_pos broken, if_neg opens, List.append_assoc,
          unindent_closing indented broken, later]
        rfl
    | false =>
      by_cases space : c = ' '
      · subst space
        rw [singleFrom_space]
        split
        · rename_i folds
          have first : before.any isInnerBreak = false := by
            by_contra broken
            exact spaced (by simpa using broken) rfl
          have next : (List.replicate indent ' ' ++
              (singleFrom indent (some ' ') indent rest ++ '\x27' :: tail)).head? ≠ some '\n' := by
            obtain ⟨spaces, rfl⟩ : ∃ n, indent = n + 1 := ⟨indent - 1, by omega⟩
            simp [List.replicate_succ]
          rw [newline, List.append_assoc, List.cons_append, takeSingle, if_neg (by decide),
            if_pos (by decide), if_pos ⟨rfl, first⟩, if_neg next, unindent_spaces indented, later]
          rfl
        · rw [List.cons_append, takeSingle, if_neg (by decide), if_neg (by decide), later]
          rfl
      · rw [singleFrom_other broken space]
        split
        · rename_i quote
          subst quote
          rw [List.cons_append, List.cons_append, takeSingle, if_pos rfl, List.head?_cons,
            if_pos rfl, List.tail_cons, later]
          rfl
        · rename_i unquoted
          rw [List.cons_append, takeSingle, if_neg unquoted, if_neg (by simp [broken]), later]
          rfl

/-! ## Scalars between double quotes -/

theorem QuotedAs.unique {double : Bool} {text out out' : List Char}
    (means : Scalar.QuotedAs double text out tail)
    (means' : Scalar.QuotedAs double text out' tail') : out = out' ∧ tail = tail' := by
  let start : Cursor := { rest := (if double then '"' else '\x27') :: text }
  obtain ⟨last, reads, left⟩ := Scalar.quoted_of_quotedAs (c := start) rfl means
  obtain ⟨last', reads', left'⟩ := Scalar.quoted_of_quotedAs (c := start) rfl means'
  obtain ⟨same, rfl⟩ := Prod.mk.inj (Except.ok.inj (reads.symm.trans reads'))
  exact ⟨String.ofList_injective same, left.symm.trans left'⟩

theorem doubleFrom_append_injective (indented : 0 < indent) (narrow : indent + 1 ≤ width)
    (same : doubleFrom indent .quote column cs ++ '"' :: tail =
      doubleFrom indent .quote column ds ++ '"' :: tail') :
    cs = ds ∧ tail = tail' :=
  QuotedAs.unique (doubleFrom_quotedAs indented narrow cs column)
    (same ▸ doubleFrom_quotedAs indented narrow ds column)

/-! ## Scalars -/

/-- The first character shows the style. -/
theorem styleOf_eq (s : String) (tail : List Char) :
    styleOf s =
      if (scalar indent column s ++ '\n' :: tail).head? = some '\x27' then .single
      else if (scalar indent column s ++ '\n' :: tail).head? = some '"' then .double
      else .plain := by
  rw [scalar]
  cases style : styleOf s with
  | single | double => rfl
  | plain =>
    obtain ⟨allowed, -⟩ := styleOf_eq_plain style
    cases text : s.toList with
    | nil => rfl
    | cons c rest =>
      rw [text] at allowed
      obtain ⟨indicator, space, -⟩ := plainAllowed_cons allowed
      rw [startsWithIndicator_cons] at indicator
      simp only [Bool.or_eq_false_iff, beq_eq_false_iff_ne] at indicator
      have bare : c ≠ '"' := by
        rintro rfl
        exact absurd indicator.1.1.1.1.1 (by decide)
      simp [plainFrom_of_ne space, indicator.1.1.1.1.2, bare]

/-- A scalar can be cancelled from the beginning of its line without losing its end. -/
theorem scalar_append_injective (indented : 0 < indent) (narrow : indent + 1 ≤ width)
    {s s' : String} (ends : tail.head? ≠ some ' ') (ends' : tail'.head? ≠ some ' ')
    (same : scalar indent column s ++ '\n' :: tail = scalar indent column s' ++ '\n' :: tail') :
    s = s' ∧ tail = tail' := by
  have styles : styleOf s = styleOf s' := by
    rw [styleOf_eq s tail, same, ← styleOf_eq s' tail']
  suffices texts : s.toList = s'.toList ∧ tail = tail' from
    ⟨String.toList_inj.mp texts.1, texts.2⟩
  rw [scalar, scalar, ← styles] at same
  cases style : styleOf s with
  | plain =>
    rw [style] at same
    have unbroken {s : String} (style : styleOf s = .plain) : '\n' ∉ s.toList := by
      intro member
      have allowed := (styleOf_eq_plain style).1
      simp only [plainAllowed, Bool.and_eq_true, Bool.not_eq_true', List.any_eq_false] at allowed
      exact allowed.1.1.1.2 _ member (by decide)
    exact plainFrom_append_injective indented (unbroken style) (unbroken (styles ▸ style)) ends
      ends' same
  | single =>
    rw [style] at same
    simp only [List.cons_append, List.append_assoc, List.cons.injEq, true_and,
      List.nil_append] at same
    have taken {s : String} (style : styleOf s = .single) (tail : List Char) :
        takeSingle indent none
          (singleFrom indent none (column + 1) s.toList ++ '\x27' :: '\n' :: tail) =
            (s.toList, '\n' :: tail) :=
      takeSingle_singleFrom indented (by simp) (styleOf_eq_single style) (by simp)
    have texts := (taken style tail).symm.trans (same ▸ taken (styles ▸ style) tail')
    simpa using texts
  | double =>
    rw [style] at same
    simp only [List.cons_append, List.append_assoc, List.cons.injEq, true_and,
      List.nil_append] at same
    simpa using doubleFrom_append_injective indented narrow same

/-! ## Mappings -/

theorem pairs_cons (entry : String × String) (rest : List (String × String)) :
    pairs 0 (entry :: rest) = pair 0 entry.1 entry.2 ++ pairs 0 rest := by
  cases rest with
  | nil => exact (List.append_nil _).symm
  | cons next rest =>
    rw [pairs, List.replicate_zero, List.append_nil]
    exact List.cons_ne_nil next rest

theorem head?_pairs {entries : List (String × String)}
    (words : ∀ entry ∈ entries, Lexer.IsWord entry.1) : (pairs 0 entries).head? ≠ some ' ' := by
  cases entries with
  | nil => simp [pairs]
  | cons entry rest =>
    have word := words entry List.mem_cons_self
    rw [pairs_cons, pair]
    cases key : entry.1.toList with
    | nil => exact absurd (String.toList_eq_nil_iff.mp key) word.nonempty
    | cons c more =>
      intro space
      obtain rfl : c = ' ' := by simpa using space
      exact absurd (word.letter ' ' (key ▸ List.mem_cons_self)) (by decide)

theorem pairs_injective {entries entries' : List (String × String)}
    (keys : entries.map Prod.fst = entries'.map Prod.fst)
    (words : ∀ entry ∈ entries, Lexer.IsWord entry.1)
    (same : pairs 0 entries = pairs 0 entries') : entries = entries' := by
  induction entries generalizing entries' with
  | nil => exact (List.map_eq_nil_iff.mp keys.symm).symm
  | cons entry rest ih =>
    cases entries' with
    | nil => cases keys
    | cons entry' rest' =>
      obtain ⟨key, keys⟩ := List.cons.inj keys
      obtain ⟨-, words'⟩ := List.forall_mem_cons.mp words
      have others : ∀ entry ∈ rest', Lexer.IsWord entry.1 := by
        rwa [← List.forall_mem_map, ← keys, List.forall_mem_map]
      rw [pairs_cons, pairs_cons, pair, pair, ← key] at same
      simp only [List.append_assoc, List.append_cancel_left_eq, List.cons_append, List.cons.injEq,
        true_and, List.nil_append] at same
      obtain ⟨value, further⟩ := scalar_append_injective (by decide) (by decide)
        (head?_pairs words') (head?_pairs others) same
      rw [Prod.ext key value, ih keys words' further]

/-- Mappings with the same keys are written differently if they have different texts. -/
theorem mapping_injective {entries entries' : List (String × String)}
    (keys : entries.map Prod.fst = entries'.map Prod.fst)
    (words : ∀ entry ∈ entries, Lexer.IsWord entry.1)
    (same : mapping entries = mapping entries') : entries = entries' :=
  pairs_injective keys words (String.ofList_injective same)

end Printer

end Catalog.Yaml
