import Catalog.Proofs.Text.Normal
import Catalog.Syntax.Lexer

/-!
# Names among the tokens

A name is made of the characters of identifiers and taken in its normal form. So it is not empty,
and it has no dot and no slash. No other token is a name.
-/

namespace Catalog.Syntax

open ModuleName (IsComponent)

/-- If the token is a name, it is a component of module names. -/
def TokenKind.IsProper : TokenKind → Prop
  | name text => IsComponent text
  | _ => True

namespace Lexer

theorem isProper_wordToken {word : List Char} {kind : TokenKind}
    (given : wordToken word = .ok kind) : kind.IsProper := by
  cases word with
  | nil => cases given
  | cons c rest =>
    unfold wordToken at given
    dsimp only at given
    split at given
    · cases given
    · rename_i valid
      split at given
      · cases given
        trivial
      · cases given
        rw [Bool.not_eq_true', Bool.not_eq_false, Bool.and_eq_true, List.all_eq_true] at valid
        have absent {sep : Char} (starts : Text.isIdentifierStart sep = false)
            (continues : Text.isIdentifierContinue sep = false) :
            sep ∉ (String.ofList (c :: rest)).toList := by
          rw [String.toList_ofList]
          rintro (_ | ⟨_, inside⟩)
          · exact absurd valid.1 (by simp [starts])
          · exact absurd (valid.2 sep inside) (by simp [continues])
        refine Text.isComponent_normalForm ⟨fun none => ?_, ?_, ?_⟩
        · cases String.ofList_eq_empty_iff.mp none
        · exact absent (by decide) (by decide)
        · exact absent (by decide) (by decide)

theorem isProper_indentation {indents left : List (Nat × Nat)} {wide narrow : Nat}
    {kinds : List TokenKind} (given : indentation indents wide narrow = .ok (kinds, left)) :
    ∀ kind ∈ kinds, kind.IsProper := by
  have none : ∀ kind ∈ ([] : List TokenKind), kind.IsProper := nofun
  rw [indentation] at given
  dsimp only at given
  split at given
  · split at given
    · cases given
      exact none
    · cases given
  · split at given
    · split at given
      · cases given
      · split at given
        · cases given
        · cases given
          exact List.forall_mem_singleton.mpr trivial
    · split at given
      · cases given
      · split at given
        · cases given
        · cases given
          intro kind member
          rw [List.eq_of_mem_replicate member]
          trivial

theorem isProper_token {s next : Lexer} {kinds : List TokenKind}
    (given : s.token = .ok (kinds, next)) : ∀ kind ∈ kinds, kind.IsProper := by
  have none : ∀ kind ∈ ([] : List TokenKind), kind.IsProper := nofun
  have one {kind : TokenKind} (proper : kind.IsProper) : ∀ k ∈ [kind], k.IsProper :=
    List.forall_mem_singleton.mpr proper
  rw [token] at given
  split at given
  · split at given
    · cases given
      exact one trivial
    · cases given
  · dsimp only at given
    split at given
    · cases given
      exact none
    · cases given
      exact one trivial
  · split at given
    · cases given
      exact none
    · cases given
  · split at given
    · split at given
      · cases given
        exact one trivial
      · cases given
    · split at given
      · split at given
        · cases given
          exact one trivial
        · cases given
      · split at given
        · split at given
          · rename_i word read
            cases given
            exact one (isProper_wordToken read)
          · cases given
        · dsimp only at given
          split at given
          · cases given
          · split at given
            · cases given
            · cases given
              exact one trivial

theorem isProper_step {s next : Lexer} {kinds : List TokenKind}
    (given : s.step = .ok (kinds, next)) : ∀ kind ∈ kinds, kind.IsProper := by
  rw [step] at given
  split at given
  · rw [startLine] at given
    split at given
    · cases given
    · dsimp only at given
      split at given
      · cases given
        exact nofun
      · split at given
        · rename_i read
          cases given
          exact isProper_indentation read
        · cases given
  · exact isProper_token given

/-- All names among the tokens are segments of dotted names. -/
theorem isProper_run (fuel : Nat) (s : Lexer) : ∀ token ∈ run fuel s, token.kind.IsProper := by
  induction fuel generalizing s with
  | zero => exact List.forall_mem_singleton.mpr trivial
  | succ fuel ih =>
    rw [run]
    split
    · exact List.forall_mem_singleton.mpr trivial
    · rename_i kinds next read
      have own : ∀ token ∈ kinds.map fun kind =>
          ({ kind, line := if s.lineStart then next.line else s.line } : Token),
          token.kind.IsProper :=
        List.forall_mem_map.mpr (isProper_step read)
      dsimp only
      split
      · exact own
      · exact List.forall_mem_append.mpr ⟨own, ih next⟩

end Lexer

end Catalog.Syntax
