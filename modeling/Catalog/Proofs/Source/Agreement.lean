import Catalog.Proofs.Source.Answers

/-!
# Queries that agree

Two queries, each with a table of answers of its own, agree if both give values that are related,
or both fail by themselves for the same cause, or both are refused the same answer. They need not
ask for the same modules. Agreement goes through a sequence of queries step by step.

What a query asks for depends on the answers it gets. A table that gives the same answers to these
questions gives the same outcome.
-/

namespace Catalog

/-- What came of two queries is the same, up to a relation between the values. -/
inductive SameOutcome {α β : Type} (R : α → β → Prop) :
    Except Fault (Except Fault α) → Except Fault (Except Fault β) → Prop
  | value {a : α} {b : β} (related : R a b) : SameOutcome R (.ok (.ok a)) (.ok (.ok b))
  | failed (cause : Fault) : SameOutcome R (.ok (.error cause)) (.ok (.error cause))
  | refused (cause : Fault) : SameOutcome R (.error cause) (.error cause)

theorem SameOutcome.mono {α β : Type} {R S : α → β → Prop}
    {a : Except Fault (Except Fault α)} {b : Except Fault (Except Fault β)}
    (same : SameOutcome R a b) (weaker : ∀ x y, R x y → S x y) : SameOutcome S a b := by
  cases same with
  | value related => exact .value (weaker _ _ related)
  | failed cause => exact .failed cause
  | refused cause => exact .refused cause

namespace Query

variable {α β γ δ : Type} {known known' : String → Except Fault (Option SourceUnit)}

theorem attempt_bind (q : Query α) (f : α → Query β) :
    (q >>= f).attempt = q.attempt >>= fun
      | .ok a => (f a).attempt
      | .error cause => pure (.error cause) := by
  induction q with
  | done | fail => rfl
  | ask m next ih =>
    refine congrArg (ask m) (funext fun answer => ?_)
    exact ih answer

/-- A query whose failure is a value does not fail. -/
theorem answer_attempt_attempt (q : Query α) :
    q.attempt.attempt.answer known = (q.attempt.answer known).map .ok := by
  induction q with
  | done | fail => rfl
  | ask m next ih =>
    simp only [attempt, answer]
    cases known m with
    | error cause => rfl
    | ok found => exact ih found

theorem answer_eq_bind (q : Query α) :
    q.answer known = (q.attempt.answer known).bind fun outcome => outcome := by
  induction q with
  | done | fail => rfl
  | ask m next ih =>
    simp only [attempt, answer]
    cases known m with
    | error cause => rfl
    | ok found => exact ih found

/-- The queries agree, each with its own answers. -/
def Agree (known known' : String → Except Fault (Option SourceUnit)) (R : α → β → Prop)
    (q : Query α) (q' : Query β) : Prop :=
  SameOutcome R (q.attempt.answer known) (q'.attempt.answer known')

namespace Agree

variable {R R' : α → β → Prop} {S : γ → δ → Prop} {q : Query α} {q' : Query β}

theorem pure {a : α} {b : β} (related : R a b) :
    Agree known known' R (Pure.pure a) (Pure.pure b) :=
  .value related

theorem fail (cause : Fault) : Agree known known' R (.fail cause) (.fail cause) :=
  .failed cause

theorem mono (agree : Agree known known' R q q') (weaker : ∀ a b, R a b → R' a b) :
    Agree known known' R' q q' :=
  SameOutcome.mono agree weaker

theorem bind {f : α → Query γ} {f' : β → Query δ} (first : Agree known known' R q q')
    (second : ∀ a b, R a b → Agree known known' S (f a) (f' b)) :
    Agree known known' S (q >>= f) (q' >>= f') := by
  unfold Agree at first ⊢
  rw [attempt_bind, attempt_bind, answer_bind, answer_bind]
  generalize q.attempt.answer known = outcome at first
  generalize q'.attempt.answer known' = outcome' at first
  cases first with
  | value related => exact second _ _ related
  | failed cause => exact .failed cause
  | refused cause => exact .refused cause

/-- Queries that agree end alike. -/
theorem ending (agree : Agree known known' R q q') :
    (∃ a b, R a b ∧ q.answer known = .ok a ∧ q'.answer known' = .ok b) ∨
      ∃ cause, q.answer known = .error cause ∧ q'.answer known' = .error cause := by
  unfold Agree at agree
  rw [answer_eq_bind q, answer_eq_bind q']
  generalize q.attempt.answer known = outcome at agree
  generalize q'.attempt.answer known' = outcome' at agree
  cases agree with
  | value related => exact .inl ⟨_, _, related, rfl, rfl⟩
  | failed cause => exact .inr ⟨cause, rfl, rfl⟩
  | refused cause => exact .inr ⟨cause, rfl, rfl⟩

/-- The same question to the same table. -/
theorem outside {R : Option SourceUnit → Option SourceUnit → Prop} {m : String}
    (related : ∀ found, known m = .ok found → R found found) :
    Agree known known R (Query.outside m) (Query.outside m) := by
  unfold Agree Query.outside
  simp only [attempt, answer]
  cases given : known m with
  | error cause => exact .refused cause
  | ok found => exact .value (related found given)

end Agree

/-! ## Questions -/

/-- The modules that a query asks for, one after another. -/
def asked (known : String → Except Fault (Option SourceUnit)) : Query α → List String
  | done _ => []
  | fail _ => []
  | ask m next =>
    m :: match known m with
      | .ok found => (next found).asked known
      | .error _ => []

/-- The outcome depends on the answers that are asked for only. -/
theorem answer_congr {q : Query α} (same : ∀ m ∈ q.asked known, known' m = known m) :
    q.answer known' = q.answer known := by
  induction q with
  | done | fail => rfl
  | ask m next ih =>
    rw [asked, List.forall_mem_cons] at same
    obtain ⟨first, same⟩ := same
    rw [answer, answer, first]
    cases given : known m with
    | error cause => rfl
    | ok found =>
      rw [given] at same
      exact ih found same

/-- Which modules are asked for depends on the answers to them only. -/
theorem asked_congr {q : Query α} (same : ∀ m ∈ q.asked known, known' m = known m) :
    q.asked known' = q.asked known := by
  induction q with
  | done | fail => rfl
  | ask m next ih =>
    rw [asked, List.forall_mem_cons] at same
    obtain ⟨first, same⟩ := same
    rw [asked, asked, first]
    cases given : known m with
    | error cause => rfl
    | ok found =>
      rw [given] at same
      exact congrArg (m :: ·) (ih found same)

/-- A query fails with the first answer that fails. -/
theorem answer_eq_error_of_asked {q : Query α} {m : String} {cause : Fault}
    (member : m ∈ q.asked known) (failed : known m = .error cause) :
    q.answer known = .error cause := by
  induction q with
  | done | fail => cases member
  | ask m' next ih =>
    rw [asked] at member
    rw [answer]
    rcases List.mem_cons.mp member with rfl | member
    · rw [failed]
    · cases given : known m' with
      | error cause' =>
        rw [given] at member
        cases member
      | ok found =>
        rw [given] at member
        exact ih found member

end Query

/-! ## Tracing -/

namespace Tracing

variable {α β γ δ : Type} {known known' : String → Except Fault (Option SourceUnit)}

/-- The tracings agree. If they are `verbatim` they also leave the same warnings. -/
def Agree (known known' : String → Except Fault (Option SourceUnit)) (verbatim : Prop)
    (R : α → β → Prop) (t : Tracing α) (t' : Tracing β) : Prop :=
  ∀ warnings warnings' : List String, (verbatim → warnings' = warnings) →
    Query.Agree known known' (fun a b => SameOutcome R (.ok a.1) (.ok b.1) ∧ (verbatim → b.2 = a.2))
      (t.run.run warnings) (t'.run.run warnings')

namespace Agree

variable {verbatim : Prop} {R : α → β → Prop} {S : γ → δ → Prop}

theorem pure {a : α} {b : β} (related : R a b) :
    Agree known known' verbatim R (Pure.pure a) (Pure.pure b) :=
  fun _ _ same => Query.Agree.pure ⟨.value related, same⟩

theorem bind {t : Tracing α} {t' : Tracing β} {f : α → Tracing γ} {f' : β → Tracing δ}
    (first : Agree known known' verbatim R t t')
    (second : ∀ a b, R a b → Agree known known' verbatim S (f a) (f' b)) :
    Agree known known' verbatim S (t >>= f) (t' >>= f') := by
  intro warnings warnings' same
  simp only [ExceptT.run_bind, StateT.run_bind]
  refine (first warnings warnings' same).bind ?_
  rintro ⟨a, left⟩ ⟨b, right⟩ ⟨outcome, same⟩
  cases outcome with
  | value related => exact second _ _ related left right same
  | failed cause => exact Query.Agree.pure ⟨.failed cause, same⟩

theorem warn {w w' : String} (same : verbatim → w' = w) :
    Agree known known' verbatim (fun _ _ => True) (Tracing.warn w) (Tracing.warn w') := by
  intro warnings warnings' before
  refine Query.Agree.pure ⟨.value trivial, fun exactly => ?_⟩
  rw [before exactly, same exactly]

theorem query {q : Query α} {q' : Query β} (agree : Query.Agree known known' R q q') :
    Agree known known' verbatim R (Tracing.query q) (Tracing.query q') := by
  intro warnings warnings' same
  -- a query whose failure is a value agrees where the query does
  have shown : Query.Agree known known' (fun a b => SameOutcome R (.ok a) (.ok b))
      q.attempt q'.attempt := by
    unfold Query.Agree at agree ⊢
    rw [Query.answer_attempt_attempt, Query.answer_attempt_attempt]
    generalize q.attempt.answer known = outcome at agree
    generalize q'.attempt.answer known' = outcome' at agree
    cases agree with
    | value related => exact .value (.value related)
    | failed cause => exact .value (.failed cause)
    | refused cause => exact .refused cause
  exact shown.bind fun a b outcome => Query.Agree.pure ⟨outcome, same⟩

end Agree

end Tracing

end Catalog
