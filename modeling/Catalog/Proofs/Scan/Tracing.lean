import Catalog.Proofs.Source.Answers

/-!
# Tracing that comes to an end

`Gives` says that tracing, from given warnings on, ends without a fault with a value and with the
warnings it then has. It is put together step by step, and it is what the program observes when it
runs the tracing on a source set.
-/

namespace Catalog.Tracing

variable {α β : Type} (known : String → Except Fault (Option SourceUnit))

/-- With `known` as the answers, the tracing gives a value and turns the warnings `before` into
`after`. -/
def Gives (t : Tracing α) (before : List String) (a : α) (after : List String) : Prop :=
  (StateT.run (ExceptT.run t) before).answer known = .ok (.ok a, after)

variable {known}

theorem gives_pure_iff {a b : α} {before after : List String} :
    Gives known (pure a) before b after ↔ b = a ∧ after = before := by
  change (Except.ok (Except.ok a, before) : Except Fault (Except Fault α × List String)) = _ ↔ _
  simp [eq_comm]

theorem gives_bind_iff {t : Tracing α} {f : α → Tracing β} {b : β} {before after : List String} :
    Gives known (t >>= f) before b after ↔
      ∃ a middle, Gives known t before a middle ∧ Gives known (f a) middle b after := by
  simp only [Gives, ExceptT.run_bind, StateT.run_bind]
  rw [Query.answer_bind_eq_ok]
  constructor
  · rintro ⟨⟨cause | a, middle⟩, first, second⟩
    · cases second
    · exact ⟨a, middle, first, second⟩
  · rintro ⟨a, middle, first, second⟩
    exact ⟨(.ok a, middle), first, second⟩

theorem gives_query_iff {q : Query α} {a : α} {before after : List String} :
    Gives known (query q) before a after ↔ q.answer known = .ok a ∧ after = before := by
  change ((do let r ← q.attempt; pure (r, before) : Query (Except Fault α × List String)).answer
    known = _) ↔ _
  rw [Query.answer_bind_eq_ok]
  constructor
  · rintro ⟨r, attempted, same⟩
    cases same
    exact ⟨(Query.answer_attempt_eq_ok known).mp attempted, rfl⟩
  · rintro ⟨given, rfl⟩
    exact ⟨.ok a, (Query.answer_attempt_eq_ok known).mpr given, rfl⟩

theorem gives_warn_iff {warning : String} {a : Unit} {before after : List String} :
    Gives known (warn warning) before a after ↔ after = before ++ [warning] := by
  change (Except.ok (Except.ok (), before ++ [warning]) :
    Except Fault (Except Fault Unit × List String)) = _ ↔ _
  simp [eq_comm]

/-- What running the tracing on a source set shows: it ends without a fault exactly if the tracing
gives its value with the answers of the set. -/
theorem run_collect_iff {tree : FileTree} {t : Tracing α} {s : SourceSet} {a : α}
    {warnings : List String} :
    (SourceSet.run tree t.collect s).1 = .ok (.ok a, warnings) ↔
      Gives (s.answers tree) t [] a warnings := by
  rw [SourceSet.run_fst]
  rfl

end Catalog.Tracing
