import Catalog.Proofs.Syntax.Tokens
import Catalog.Syntax.Parser.Statement

/-!
# What parsers give

`Yields` is partial correctness of a parser: whatever it gives has a property, wherever it starts
and however many rules are open. It is put together along the parser: of a sequence, of loops, of
lists with commas. Nothing is said of parsers that fail, so tokens that are only looked at need no
rule of their own. Of the tokens it is assumed that names are names.
-/

namespace Catalog.Syntax

open ModuleName (IsComponent)

/-- The names among the tokens are components. -/
def Input.IsProper (input : Input) : Prop := ∀ token ∈ input.tokens, token.kind.IsProper

namespace Parser

variable {α β : Type} {P : α → Prop}

/-- Whatever the parser gives has the property. -/
def Yields (p : Parser α) (P : α → Prop) : Prop :=
  ∀ input position a next, input.IsProper → p input position = .ok (a, next) → P a

namespace Yields

variable {p : Parser α} {f : α → Parser β} {R : β → Prop}

theorem done {a : α} (holds : P a) : Yields (pure a) P := by
  intro input position a' next _ ran
  cases ran
  exact holds

theorem bind (first : Yields p P) (second : ∀ a, P a → Yields (f a) R) : Yields (p >>= f) R := by
  intro input position b next proper ran
  simp only [Bind.bind, ReaderT.bind, StateT.bind, Except.bind] at ran
  cases result : p input position with
  | error e =>
    rw [result] at ran
    cases ran
  | ok given =>
    rw [result] at ran
    have holds := first input position given.1 given.2 proper result
    exact second given.1 holds input given.2 b next proper ran

/-- What is read first does not matter. -/
theorem after (second : ∀ a, Yields (f a) R) : Yields (p >>= f) R :=
  bind (P := fun _ => True) (fun _ _ _ _ _ _ => trivial) fun a _ => second a

/-- With more rules open a parser gives the same, if it gives anything. -/
theorem withReader (given : Yields p P) (change : Input → Input)
    (same : ∀ input, (change input).tokens = input.tokens) :
    Yields (MonadWithReader.withReader change p) P := by
  intro input position a next proper ran
  refine given (change input) position a next ?_ ran
  rw [Input.IsProper, same]
  exact proper

theorem ite {c : Prop} {_ : Decidable c} {q : Parser α} (yes : Yields p P) (no : Yields q P) :
    Yields (if c then p else q) P := by
  split
  · exact yes
  · exact no

theorem failWith (mismatch : Mismatch) : Yields (Parser.failWith mismatch) P := by
  intro input position a next _ ran
  cases ran

theorem fail : Yields Parser.fail P := failWith .unexpected

theorem reject : Yields Parser.reject P := failWith .rejected

/-- A parser that fails before it goes on. -/
theorem fail_bind : Yields (Parser.fail >>= f) R :=
  bind (fail (P := fun _ => False)) fun _ => False.elim

theorem reject_bind : Yields (Parser.reject >>= f) R :=
  bind (reject (P := fun _ => False)) fun _ => False.elim

theorem inside {n : Nat} (given : Yields p P) : Yields (Parser.inside n p) P :=
  after fun _ => ite (given.withReader _ fun _ => rfl) (failWith .exhausted)

theorem asTarget {ahead n : Nat} (given : Yields p P) : Yields (Parser.asTarget ahead n p) P :=
  after fun _ => given.withReader _ fun _ => rfl

theorem asKept (given : Yields p P) : Yields (Parser.asKept p) P :=
  after fun _ => given.withReader _ fun _ => rfl

theorem orReject {o : Option α} (holds : ∀ a, o = some a → P a) : Yields (Parser.orReject o) P := by
  cases o with
  | none => exact reject
  | some a => exact done (holds a rfl)

theorem attempt (given : Yields p P) : Yields (Parser.attempt p) fun o => ∀ a ∈ o, P a := by
  intro input position o next proper ran
  rw [Parser.attempt] at ran
  split at ran
  · rename_i a after result
    cases ran
    intro a' same
    cases same
    exact given input position a _ proper result
  · split at ran
    · cases ran
    · split at ran
      · cases ran
      · cases ran
        intro a same
        cases same

/-! ## Names -/

theorem peekAt (n : Nat) : Yields (Parser.peekAt n) TokenKind.IsProper := by
  intro input position kind next proper ran
  cases ran
  cases found : input.tokens[position + n]? with
  | none => trivial
  | some token => exact proper token (Array.mem_of_getElem? found)

theorem peek : Yields Parser.peek TokenKind.IsProper := peekAt 0

theorem name : Yields Parser.name IsComponent := by
  refine bind peek fun kind proper => ?_
  split
  · exact after fun _ => done proper
  · exact fail

theorem one {p : Parser (List Node)} {P : Node → Prop} (each : Yields p fun ns => ∀ n ∈ ns, P n) :
    Yields (Parser.one p) P := by
  refine bind each fun ns holds => ?_
  split
  · exact done (holds _ List.mem_cons_self)
  · exact reject

/-! ## Loops -/

theorem manyFrom {p : Parser (Option α)} (each : Yields p fun o => ∀ a ∈ o, P a) (fuel : Nat)
    {acc : List α} (given : ∀ a ∈ acc, P a) :
    Yields (Parser.manyFrom p fuel acc) fun as => ∀ a ∈ as, P a := by
  have ended : Yields (pure acc.reverse : Parser (List α)) fun as => ∀ a ∈ as, P a :=
    done fun a member => given a (List.mem_reverse.mp member)
  induction fuel generalizing acc with
  | zero => exact ended
  | succ fuel ih =>
    refine bind each fun o holds => ?_
    cases o with
    | none => exact ended
    | some a =>
      have given := List.forall_mem_cons.mpr ⟨holds a rfl, given⟩
      exact ih given (done fun b member => given b (List.mem_reverse.mp member))

theorem many {p : Parser (Option α)} (each : Yields p fun o => ∀ a ∈ o, P a) :
    Yields (Parser.many p) fun as => ∀ a ∈ as, P a :=
  after fun _ => manyFrom each _ (by simp)

theorem iterateFrom {next : α → Parser (Option α)}
    (step : ∀ a, P a → Yields (next a) fun o => ∀ b ∈ o, P b) (fuel : Nat) {a : α}
    (holds : P a) : Yields (Parser.iterateFrom next fuel a) P := by
  induction fuel generalizing a with
  | zero => exact done holds
  | succ fuel ih =>
    refine bind (step a holds) fun o given => ?_
    cases o with
    | none => exact done holds
    | some b => exact ih (given b rfl)

theorem iterate {next : α → Parser (Option α)}
    (step : ∀ a, P a → Yields (next a) fun o => ∀ b ∈ o, P b) {start : α} (holds : P start) :
    Yields (Parser.iterate next start) P :=
  after fun _ => iterateFrom step _ holds

/-- The next value of a loop. -/
theorem found {a : α} (holds : P a) :
    Yields (pure (some a) : Parser (Option α)) fun o => ∀ a ∈ o, P a :=
  done fun _ same => Option.some.inj same ▸ holds

/-- The end of a loop. -/
theorem none : Yields (pure Option.none : Parser (Option α)) fun o => ∀ a ∈ o, P a :=
  done fun _ same => by cases same

theorem commaList {head item : Parser α} {atEnd : Parser Bool} (first : Yields head P)
    (each : Yields item P) :
    Yields (Parser.commaList head item atEnd) fun found => ∀ a ∈ found.1, P a := by
  refine bind first fun first holds => ?_
  refine bind (P := fun found : List α × Bool × Bool => ∀ a ∈ found.1, P a) (iterate ?_ ?_) ?_
  · rintro ⟨sofar, ended, comma⟩ given
    dsimp only
    split
    · exact none
    · refine after fun comma => ?_
      split
      · refine after fun ending => ?_
        split
        · exact found given
        · exact bind each fun a ok => found (List.forall_mem_cons.mpr ⟨ok, given⟩)
      · exact found given
  · exact List.forall_mem_singleton.mpr holds
  · rintro ⟨found, ended, comma⟩ given
    exact done fun a member => given a (List.mem_reverse.mp member)

theorem commaSeparated {head item : Parser α} (first : Yields head P) (each : Yields item P) :
    Yields (Parser.commaSeparated head item) fun found => ∀ a ∈ found, P a := by
  refine bind first fun first holds => ?_
  refine bind (P := fun found : List α => ∀ a ∈ found, P a) (many (after fun comma => ?_))
    fun others given => done (List.forall_mem_cons.mpr ⟨holds, given⟩)
  split
  · exact bind each fun a ok => found ok
  · exact none

end Yields

end Parser

end Catalog.Syntax
