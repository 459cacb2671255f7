import Catalog.Proofs.Yaml.Quoting

/-!
# The characters of a written text

A text may hold only some characters. Those that it may not hold are never written: plain and
between single quotes a scalar has no such character, and between double quotes it is escaped. The
same goes for the carriage return, which a text may hold; so every line of a written text ends with
a line feed alone.
-/

namespace Catalog.Yaml.Printer

variable {c : Char} {cs : List Char}

/-- Characters that a text may hold, without the carriage return. -/
def isWritten (c : Char) : Bool := isAllowed c && c != '\r'

theorem isAllowed_of_isWritten (written : isWritten c = true) : isAllowed c = true :=
  (Bool.and_eq_true_iff.mp written).1

theorem isWritten_iff : isWritten c = true ↔ isAllowed c = true ∧ c.toNat ≠ 0x0D := by
  rw [isWritten, Bool.and_eq_true, bne_iff_ne, Ne, ← Char.toNat_inj]
  rfl

/-! ## Single characters -/

theorem isWritten_of_range (range : 0x20 ≤ c.toNat ∧ c.toNat ≤ 0x7E) : isWritten c = true := by
  rw [isWritten_iff]
  simp only [isAllowed, beq_iff_eq, Bool.or_eq_true, Bool.and_eq_true, decide_eq_true_eq]
  omega

theorem isWritten_of_isShown (shown : isShown c = true) : isWritten c = true := by
  by_cases feed : c = '\n'
  · subst feed
    decide
  · rw [isWritten_iff]
    simp only [isShown, isAllowed, feed, beq_iff_eq, Bool.or_eq_true, Bool.and_eq_true,
      decide_eq_true_eq, false_or] at shown ⊢
    omega

theorem isWritten_of_isBare (bare : isBare c = true) : isWritten c = true := by
  have valid : c.toNat < 0xD800 ∨ 0xDFFF < c.toNat ∧ c.toNat < 0x110000 := c.valid
  rw [isWritten_iff]
  simp only [isBare, isAllowed, beq_iff_eq, Bool.or_eq_true, Bool.and_eq_true,
    decide_eq_true_eq] at bare ⊢
  omega

theorem isWritten_of_isHexDigit (digit : isHexDigit c = true) : isWritten c = true := by
  have range : 0x20 ≤ c.toNat ∧ c.toNat ≤ 0x7E := by
    simp only [isHexDigit, Char.isDigit, Bool.or_eq_true, Bool.and_eq_true, decide_eq_true_eq,
      Char.le_def, UInt32.le_iff_toNat_le] at digit
    rcases digit with (number | small) | capital
    · change 48 ≤ c.toNat ∧ c.toNat ≤ 57 at number
      omega
    · change 97 ≤ c.toNat ∧ c.toNat ≤ 102 at small
      omega
    · change 65 ≤ c.toNat ∧ c.toNat ≤ 70 at capital
      omega
  exact isWritten_of_range range

theorem isWritten_of_simpleEscape? {meant : Char} (known : Scalar.simpleEscape? c = some meant) :
    isWritten c = true := by
  unfold Scalar.simpleEscape? at known
  split at known <;> first | rfl | cases known

theorem all_escape (c : Char) : (escape c).all isWritten = true := by
  have valid : c.toNat < 0xD800 ∨ 0xDFFF < c.toNat ∧ c.toNat < 0x110000 := c.valid
  have coded {mark : Char} {places : Nat} (some : 0 < places) (fits : c.toNat < 16 ^ places)
      (allowed : isWritten mark = true) :
      ('\\' :: mark :: capitalHex places c.toNat).all isWritten = true := by
    obtain ⟨-, hex, -⟩ := capitalHex_spec some fits
    have digits : (capitalHex places c.toNat).all isWritten = true :=
      List.all_eq_true.mpr fun d member =>
        isWritten_of_isHexDigit (List.all_eq_true.mp hex d member)
    rw [List.all_cons, List.all_cons, allowed, digits]
    rfl
  rw [escape]
  split
  · rename_i letter written
    have allowed := isWritten_of_simpleEscape? (simpleEscape?_of_escapeLetter? written)
    rw [List.all_cons, List.all_cons, allowed]
    rfl
  · dsimp only
    split
    · exact coded (by decide) (by omega) rfl
    · split
      · exact coded (by decide) (by omega) rfl
      · exact coded (by decide) (by omega) rfl

/-! ## Scalars -/

theorem all_spaces (n : Nat) : (List.replicate n ' ').all isWritten = true :=
  List.all_eq_true.mpr fun _ member => List.eq_of_mem_replicate member ▸ rfl

theorem all_newline (indent : Nat) : (newline indent).all isWritten = true := by
  rw [newline, List.all_cons, all_spaces]
  rfl

theorem all_plainFrom (shown : cs.all isShown = true) (indent : Nat) (afterSpace : Bool)
    (column : Nat) : (plainFrom indent afterSpace column cs).all isWritten = true := by
  induction cs generalizing afterSpace column with
  | nil => rfl
  | cons c cs ih =>
    obtain ⟨first, shown⟩ := Bool.and_eq_true_iff.mp (List.all_cons ▸ shown)
    rw [plainFrom]
    split
    · rw [List.all_append, all_newline, ih shown]
      rfl
    · rw [List.all_cons, isWritten_of_isShown first, ih shown]
      rfl

theorem all_singleFrom (shown : cs.all isShown = true) (indent : Nat) (before : Option Char)
    (column : Nat) : (singleFrom indent before column cs).all isWritten = true := by
  induction cs generalizing before column with
  | nil => rfl
  | cons c cs ih =>
    obtain ⟨first, shown⟩ := Bool.and_eq_true_iff.mp (List.all_cons ▸ shown)
    have allowed := isWritten_of_isShown first
    have later := ih shown
    rw [singleFrom]
    split
    · rw [List.all_cons, List.all_cons, later]
      rfl
    · split
      · split
        · rw [List.all_append, all_newline, later]
          rfl
        · rw [List.all_cons, allowed, later]
          rfl
      · split
        · have opening : (if c == '\n' && !before.any isInnerBreak then ['\n'] else []).all
              isWritten = true := by
            split <;> rfl
          have closing : (if cs.head?.any isInnerBreak then [] else List.replicate indent ' ').all
              isWritten = true := by
            split
            · rfl
            · exact all_spaces indent
          simp only [List.all_append, List.all_cons, opening, allowed, closing, later,
            Bool.and_self]
        · rw [List.all_cons, allowed, later]
          rfl

theorem all_doubleFrom (cs : List Char) (indent : Nat) (before : Before) (column : Nat) :
    (doubleFrom indent before column cs).all isWritten = true := by
  have guard {p : Prop} [Decidable p] : (if p then ['\\'] else []).all isWritten = true := by
    split <;> rfl
  have backslash : isWritten '\\' = true := rfl
  induction cs generalizing before column with
  | nil => rfl
  | cons c cs ih =>
    rw [doubleFrom]
    dsimp only
    split
    · rename_i bare
      have allowed := isWritten_of_isBare bare
      split
      · simp only [List.cons_append, List.all_append, List.all_cons, backslash, all_newline, guard,
          allowed, ih, Bool.and_self]
      · rw [List.all_cons, allowed, ih]
        rfl
    · have written := all_escape c
      split
      · simp only [List.all_append, List.all_cons, written, backslash, all_newline, guard, ih,
          Bool.and_self]
      · rw [List.all_append, written, ih]
        rfl

/-- A scalar is written in characters that a text may hold, and without a carriage return,
whatever characters it has. -/
theorem all_scalar (indent column : Nat) (s : String) :
    (scalar indent column s).all isWritten = true := by
  rw [scalar]
  cases style : styleOf s with
  | plain =>
    have shown : s.toList.all isShown = true := by
      have allowed := (styleOf_eq_plain style).1
      simp only [plainAllowed, Bool.and_eq_true] at allowed
      exact allowed.1.1.1.1
    exact all_plainFrom shown indent false column
  | single =>
    have shown := singleAllowed_shown (styleOf_eq_single style)
    simp only [List.cons_append, List.all_cons, List.all_append, all_singleFrom shown]
    rfl
  | double =>
    simp only [List.cons_append, List.all_cons, List.all_append, all_doubleFrom]
    rfl

end Catalog.Yaml.Printer
