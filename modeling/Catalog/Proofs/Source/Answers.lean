import Catalog.Source.Set
import Catalog.Scan.Tracing

/-!
# What a source set answers

A query asks for modules outside of the repository, and a source set answers from what it keeps or
from the directories. Looking a module up can fail, so an answer is a unit, none, or a fault. Giving
an answer changes what the source set keeps, but not what it answers: so the outcome of a query is
that of evaluating it with one fixed table of answers, whatever was asked before.
-/

namespace Catalog

namespace Query

variable {α β : Type} (known : String → Except Fault (Option SourceUnit))

/-- The outcome of a query when `known` answers all questions. -/
def answer : Query α → Except Fault α
  | done a => .ok a
  | fail cause => .error cause
  | ask m next =>
    match known m with
    | .ok found => (next found).answer
    | .error cause => .error cause

@[simp] theorem answer_done (a : α) : (done a).answer known = .ok a := rfl

@[simp] theorem answer_pure (a : α) : (pure a : Query α).answer known = .ok a := rfl

theorem answer_bind (q : Query α) (f : α → Query β) :
    (q >>= f).answer known = (q.answer known).bind fun a => (f a).answer known := by
  induction q with
  | done | fail => rfl
  | ask m next ih =>
    change (ask m fun found => (next found).bind f).answer known = _
    simp only [answer]
    cases known m with
    | error cause => rfl
    | ok found => exact ih found

theorem answer_bind_eq_ok {q : Query α} {f : α → Query β} {b : β} :
    (q >>= f).answer known = .ok b ↔
      ∃ a, q.answer known = .ok a ∧ (f a).answer known = .ok b := by
  rw [answer_bind]
  cases q.answer known with
  | error cause => simp [Except.bind]
  | ok a => simp [Except.bind]

/-- A query whose failure is a value gives a value exactly where the query does. -/
theorem answer_attempt_eq_ok {q : Query α} {a : α} :
    q.attempt.answer known = .ok (.ok a) ↔ q.answer known = .ok a := by
  induction q with
  | done | fail => simp [attempt, answer]
  | ask m next ih =>
    simp only [attempt, answer]
    cases known m with
    | error cause => simp
    | ok found => exact ih found

/-! ## Failures -/

/-- Where the query itself fails, and not an answer that it asks for, it does so for one of the
given causes. -/
inductive FailsOnly (P : Fault → Prop) : Query α → Prop
  | done (a : α) : FailsOnly P (done a)
  | fail {cause : Fault} (own : P cause) : FailsOnly P (fail cause)
  | ask (m : String) {next : Option SourceUnit → Query α}
      (more : ∀ found, FailsOnly P (next found)) : FailsOnly P (ask m next)

variable {known} {P : Fault → Prop}

theorem failsOnly_pure (a : α) : (pure a : Query α).FailsOnly P := .done a

theorem FailsOnly.bind {q : Query α} {f : α → Query β} (first : q.FailsOnly P)
    (second : ∀ a, (f a).FailsOnly P) : (q >>= f).FailsOnly P := by
  induction first with
  | done a => exact second a
  | fail own => exact .fail own
  | ask m _ ih => exact .ask m ih

theorem failsOnly_outside (m : String) : (outside m).FailsOnly P :=
  .ask m .done

/-- A failure is one of the query or one of the answers. -/
theorem FailsOnly.cause {q : Query α} (only : q.FailsOnly P) {cause : Fault}
    (failed : q.answer known = .error cause) : P cause ∨ ∃ m, known m = .error cause := by
  induction only with
  | done a => cases failed
  | fail own =>
    cases failed
    exact .inl own
  | ask m _ ih =>
    rw [answer] at failed
    cases given : known m with
    | error own =>
      rw [given] at failed
      cases failed
      exact .inr ⟨m, given⟩
    | ok found =>
      rw [given] at failed
      exact ih found failed

end Query

/-! ## Files that end a run -/

namespace FileTree

/-- The file at the path holds a text for which the parser has no room. -/
def Exhausts (tree : FileTree) (path : Path) : Prop :=
  ∃ text, tree.readText path = .ok text ∧ Syntax.Module.parse text = .error .exhausted

/-- Looking for a module at the path fails: it cannot be seen if there is a file, or the parser has
no room for its text. -/
inductive Refuses (tree : FileTree) (path : Path) : Fault → Prop
  | place {e : SystemError} (hidden : tree.isFile path = .error e) : Refuses tree path (.system e)
  | text (exhausts : tree.Exhausts path) : Refuses tree path .outOfMemory

end FileTree

theorem SourceUnit.ofText_eq_exhausted_iff {origin : Origin} {path text : String}
    {identity : ModuleName.Identity} :
    SourceUnit.ofText origin path identity text = .error .exhausted ↔
      Syntax.Module.parse text = .error .exhausted := by
  rw [SourceUnit.ofText]
  cases Syntax.Module.parse text with
  | error e => simp
  | ok m =>
    dsimp only
    split <;> simp

namespace SourceSet

variable {α : Type} {tree : FileTree} {s : SourceSet}

/-! ## Looking a module up -/

theorem readModule_eq_error_iff {m : String} {path : Path} {isPackage : Bool} {cause : Fault} :
    readModule tree m path isPackage = .error cause ↔
      cause = .outOfMemory ∧ tree.Exhausts path := by
  unfold readModule FileTree.Exhausts
  dsimp only
  split
  · simp_all
  · simp_all
  · rename_i text read
    have exhausted_iff := @SourceUnit.ofText_eq_exhausted_iff (.searchPath m) path.text text
      { name := m, isPackage }
    simp only [read, Except.ok.injEq, exists_eq_left', ← exhausted_iff]
    split
    · simp_all
    · simp_all [eq_comm]
    · simp_all

theorem refuses_of_readFirst {m : String} {files : List (Path × Bool)} {cause : Fault}
    (failed : readFirst tree m files = .error cause) : ∃ c ∈ files, tree.Refuses c.1 cause := by
  induction files with
  | nil => cases failed
  | cons file rest ih =>
    obtain ⟨path, isPackage⟩ := file
    rw [readFirst] at failed
    split at failed
    · rename_i own
      cases failed
      exact ⟨(path, isPackage), List.mem_cons_self, .place own⟩
    · obtain ⟨rfl, exhausts⟩ := readModule_eq_error_iff.mp failed
      exact ⟨(path, isPackage), List.mem_cons_self, .text exhausts⟩
    · obtain ⟨c, member, own⟩ := ih failed
      exact ⟨c, List.mem_cons_of_mem _ member, own⟩

/-! ## Answers -/

/-- The units of the given texts, each with the path it stands at, and nothing outside of them. -/
def ofTexts (texts : List (String × String)) : SourceSet :=
  { units := texts.zipIdx.filterMap fun ((path, text), index) =>
      (SourceUnit.parse ["."] index path text).toOption }

/-- What a source set answers when it is asked for a module. -/
def answers (tree : FileTree) (s : SourceSet) (m : String) : Except Fault (Option SourceUnit) :=
  (outsideUnit tree s m).1

/-- The set `s'` differs from `s` only in what it keeps of modules outside of the repository, and
answers alike. -/
structure SameAnswers (tree : FileTree) (s s' : SourceSet) : Prop where
  units : s'.units = s.units
  failed : s'.failed = s.failed
  searchPaths : s'.searchPaths = s.searchPaths
  answers : s'.answers tree = s.answers tree

theorem SameAnswers.refl (tree : FileTree) (s : SourceSet) : SameAnswers tree s s :=
  ⟨rfl, rfl, rfl, rfl⟩

theorem SameAnswers.trans {s' s'' : SourceSet} (first : SameAnswers tree s s')
    (second : SameAnswers tree s' s'') : SameAnswers tree s s'' :=
  ⟨second.units.trans first.units, second.failed.trans first.failed,
    second.searchPaths.trans first.searchPaths, second.answers.trans first.answers⟩

theorem answers_eq (tree : FileTree) (s : SourceSet) (m : String) :
    s.answers tree m =
      match s.outside.lookup m with
      | some answer => .ok answer
      | none =>
        match find tree s.searchPaths m with
        | .error cause => .error cause
        | .ok (.unit u) => .ok (some u)
        | .ok _ => .ok none := by
  rw [answers, outsideUnit]
  cases s.outside.lookup m with
  | some answer => rfl
  | none =>
    cases find tree s.searchPaths m with
    | error cause => rfl
    | ok found => cases found <;> rfl

/-- An answer fails only where looking for the module at one of its places does. -/
theorem refuses_of_answers {m : String} {cause : Fault} (failed : s.answers tree m = .error cause) :
    ∃ base ∈ s.searchPaths, ∃ c ∈ candidates base m, tree.Refuses c.1 cause := by
  rw [answers_eq] at failed
  split at failed
  · cases failed
  · split at failed
    · rename_i looked
      cases failed
      obtain ⟨c, member, own⟩ := refuses_of_readFirst looked
      obtain ⟨base, inside, place⟩ := List.mem_flatMap.mp member
      exact ⟨base, inside, c, place, own⟩
    · cases failed
    · cases failed

/-- Without directories to look in, no module outside of the repository is found. -/
theorem answers_of_searchPaths_nil (nowhere : s.searchPaths = []) (nothing : s.outside = [])
    (m : String) : s.answers tree m = .ok none := by
  rw [answers_eq, nothing, nowhere]
  rfl

/-- Keeping the answer for a module does not change what is answered. -/
theorem answers_keep {m : String} {answer : Option SourceUnit} {failures : List String}
    (given : s.answers tree m = .ok answer) :
    SourceSet.answers tree
      { s with outside := (m, answer) :: s.outside, outsideFailures := failures } =
      s.answers tree := by
  funext other
  by_cases same : other = m
  · subst same
    rw [given, answers_eq, List.lookup_cons_self]
  · rw [answers_eq, answers_eq, List.lookup_cons, beq_eq_false_iff_ne.mpr same]

theorem sameAnswers_outsideUnit {m : String} {answer : Option SourceUnit} {s' : SourceSet}
    (given : outsideUnit tree s m = (.ok answer, s')) : SameAnswers tree s s' := by
  have answered : s.answers tree m = .ok answer := congrArg Prod.fst given
  rw [outsideUnit] at given
  cases kept : s.outside.lookup m with
  | some known =>
    rw [kept] at given
    cases given
    exact .refl tree s
  | none =>
    rw [kept] at given
    cases looked : find tree s.searchPaths m with
    | error cause =>
      rw [looked] at given
      cases given
    | ok found =>
      rw [looked] at given
      cases found <;> cases given <;> exact ⟨rfl, rfl, rfl, answers_keep answered⟩

/-- Running a query gives what its evaluation with the answers of the set gives. -/
theorem run_fst (tree : FileTree) (q : Query α) (s : SourceSet) :
    (run tree q s).1 = q.answer (s.answers tree) := by
  induction q generalizing s with
  | done | fail => rfl
  | ask m next ih =>
    simp only [run, Query.answer]
    rcases given : outsideUnit tree s m with ⟨cause | answer, s'⟩
    · have answered : s.answers tree m = .error cause := congrArg Prod.fst given
      rw [answered]
    · have answered : s.answers tree m = .ok answer := congrArg Prod.fst given
      rw [answered]
      simp only
      rw [ih answer s', (sameAnswers_outsideUnit given).answers]

/-- A query that gives a value leaves a set with the same answers. -/
theorem sameAnswers_run {q : Query α} {s s' : SourceSet} {a : α}
    (ran : run tree q s = (.ok a, s')) : SameAnswers tree s s' := by
  induction q generalizing s with
  | done =>
    cases ran
    exact .refl tree _
  | fail => cases ran
  | ask m next ih =>
    simp only [run] at ran
    rcases given : outsideUnit tree s m with ⟨cause | answer, middle⟩
    · rw [given] at ran
      cases ran
    · rw [given] at ran
      exact (sameAnswers_outsideUnit given).trans (ih answer ran)

end SourceSet

end Catalog
