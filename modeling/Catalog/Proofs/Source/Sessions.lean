import Catalog.Proofs.Source.Answers
import Catalog.Resolve.Constant
import Mathlib.Data.List.Forall2
import Mathlib.Data.List.Nodup

/-!
# Sessions

A source set is asked many things one after another, units are added in between, and every question
may change what the set keeps of modules outside of the repository. A new set with the same units
and the same directories keeps nothing. Both give the same answers: what is kept of a module is
what looking it up gives.

There is one exception. A module that cannot be looked up, since no file can have its name or since
the parser has no room for its text, is kept as missing. The call that asks for it first fails, and
later calls are told that there is no such module. So a session agrees with new sets up to its first
failure of this kind, and after that wherever no module that failed before is asked for.
-/

namespace Catalog

open Syntax Resolve

namespace SourceSet

/-- The set with the same units and the same directories in which nothing was asked for. -/
def renewed (s : SourceSet) : SourceSet :=
  { units := s.units, searchPaths := s.searchPaths }

/-! ## What is kept -/

/-- The module was asked for and cannot be looked up. It is kept as missing. -/
structure Gone (tree : FileTree) (s : SourceSet) (m : String) (e : Fault) : Prop where
  kept : s.outside.lookup m = some none
  failed : find tree s.searchPaths m = .error e

/-- What the set keeps of a module is what looking it up gives, or the module cannot be looked up,
for a cause that is noted. Each failure to load a module is that of a different module. -/
structure Keeps (tree : FileTree) (noted : Fault → Prop) (s : SourceSet) : Prop where
  answers : ∀ m answer, s.outside.lookup m = some answer →
    s.renewed.answers tree m = .ok answer ∨ ∃ e, s.Gone tree m e ∧ noted e
  failures : ∃ ms : List String, ms.Nodup ∧ (∀ m ∈ ms, (s.outside.lookup m).isSome) ∧
    List.Forall₂ (fun m warning => find tree s.searchPaths m = .ok (.broken warning)) ms
      s.outsideFailures

variable {α : Type} {tree : FileTree} {noted noted' : Fault → Prop} {s s' : SourceSet}

/-- The units and the directories of two sets are the same. -/
structure SameSources (s s' : SourceSet) : Prop where
  units : s'.units = s.units
  searchPaths : s'.searchPaths = s.searchPaths

theorem SameSources.renewed (same : SameSources s s') : s'.renewed = s.renewed := by
  rw [SourceSet.renewed, same.units, same.searchPaths, SourceSet.renewed]

theorem SameSources.trans {s'' : SourceSet} (first : SameSources s s')
    (second : SameSources s' s'') : SameSources s s'' :=
  ⟨second.units.trans first.units, second.searchPaths.trans first.searchPaths⟩

theorem keeps_new (units : List SourceUnit) (searchPaths : List Path) :
    Keeps tree noted { units, searchPaths } :=
  ⟨nofun, [], List.nodup_nil, nofun, .nil⟩

theorem Keeps.mono (keeps : Keeps tree noted s) (more : ∀ e, noted e → noted' e) :
    Keeps tree noted' s := by
  refine ⟨fun m answer known => ?_, keeps.failures⟩
  refine (keeps.answers m answer known).imp_right ?_
  rintro ⟨e, gone, old⟩
  exact ⟨e, gone, more e old⟩

theorem Keeps.add (keeps : Keeps tree noted s) (u : SourceUnit) : Keeps tree noted (s.add u) := by
  have same : (s.add u).renewed.answers tree = s.renewed.answers tree := by
    funext m
    rw [answers_eq, answers_eq]
    rfl
  refine ⟨fun m answer known => ?_, keeps.failures⟩
  rw [same]
  refine (keeps.answers m answer known).imp_right ?_
  rintro ⟨e, gone, old⟩
  exact ⟨e, ⟨gone.kept, gone.failed⟩, old⟩

theorem renewed_answers_eq (tree : FileTree) (s : SourceSet) (m : String) :
    s.renewed.answers tree m =
      match find tree s.searchPaths m with
      | .error cause => .error cause
      | .ok (.unit u) => .ok (some u)
      | .ok _ => .ok none := by
  rw [answers_eq]
  rfl

/-- Keeping one more module. A failure to load it is the first one of this module. -/
theorem Keeps.keep (keeps : Keeps tree noted s) {m : String} (new : s.outside.lookup m = none)
    {answer : Option SourceUnit}
    (given : s.renewed.answers tree m = .ok answer ∨
      ∃ e, find tree s.searchPaths m = .error e ∧ answer = none ∧ noted e)
    {failures : List String}
    (grown : failures = s.outsideFailures ∨ ∃ warning,
      find tree s.searchPaths m = .ok (.broken warning) ∧
        failures = s.outsideFailures ++ [warning]) :
    Keeps tree noted
      { s with outside := (m, answer) :: s.outside, outsideFailures := failures } := by
  have known (other : String) (inside : (s.outside.lookup other).isSome) :
      (List.lookup other ((m, answer) :: s.outside)).isSome := by
    rw [List.lookup_cons]
    split
    · rfl
    · exact inside
  refine ⟨fun other kept lookup => ?_, ?_⟩
  · rw [List.lookup_cons] at lookup
    split at lookup
    · rename_i same
      cases lookup
      rw [beq_iff_eq.mp same]
      refine given.imp_right ?_
      rintro ⟨e, failed, rfl, note⟩
      exact ⟨e, ⟨List.lookup_cons_self, failed⟩, note⟩
    · rename_i apart
      refine (keeps.answers other kept lookup).imp_right ?_
      rintro ⟨e, gone, note⟩
      refine ⟨e, ⟨?_, gone.failed⟩, note⟩
      rw [List.lookup_cons, apart]
      exact gone.kept
  · obtain ⟨ms, distinct, inside, broken⟩ := keeps.failures
    rcases grown with rfl | ⟨warning, found, rfl⟩
    · exact ⟨ms, distinct, fun other member => known other (inside other member), broken⟩
    · have fresh : m ∉ ms := by
        intro member
        have := inside m member
        rw [new] at this
        cases this
      refine ⟨ms ++ [m], ?_, ?_, ?_⟩
      · exact List.nodup_append.mpr ⟨distinct, List.nodup_singleton m, fun a member b same => by
          rintro rfl
          exact fresh (List.mem_singleton.mp same ▸ member)⟩
      · intro other member
        rcases List.mem_append.mp member with member | member
        · exact known other (inside other member)
        · rw [List.mem_singleton.mp member, List.lookup_cons_self]
          rfl
      · exact List.rel_append broken (.cons found .nil)

/-- What one question leaves behind, and how it is answered. A failure is noted. -/
theorem Keeps.outsideUnit (keeps : Keeps tree noted s) (m : String)
    {outcome : Except Fault (Option SourceUnit)} (asked : outsideUnit tree s m = (outcome, s')) :
    Keeps tree (fun e => noted e ∨ outcome = .error e) s' ∧ SameSources s s' ∧
      (outcome = s.renewed.answers tree m ∨ ∃ e, s.Gone tree m e ∧ noted e) := by
  rw [SourceSet.outsideUnit] at asked
  cases known : s.outside.lookup m with
  | some answer =>
    rw [known] at asked
    cases asked
    refine ⟨keeps.mono fun e old => .inl old, ⟨rfl, rfl⟩, ?_⟩
    exact (keeps.answers m answer known).imp_left Eq.symm
  | none =>
    rw [known] at asked
    have looked := renewed_answers_eq tree s m
    cases found : find tree s.searchPaths m with
    | error cause =>
      simp only [found] at asked looked
      cases asked
      refine ⟨?_, ⟨rfl, rfl⟩, .inl looked.symm⟩
      have keeps' : Keeps tree
          (fun e => noted e ∨ (Except.error cause : Except Fault (Option SourceUnit)) =
            .error e) s := keeps.mono fun e old => .inl old
      exact keeps'.keep known (.inr ⟨cause, found, rfl, .inr rfl⟩) (.inl rfl)
    | ok file =>
      simp only [found] at asked looked
      cases file with
      | missing =>
        cases asked
        exact ⟨(keeps.mono fun e old => .inl old).keep known (.inl looked) (.inl rfl), ⟨rfl, rfl⟩,
          .inl looked.symm⟩
      | unit u =>
        cases asked
        exact ⟨(keeps.mono fun e old => .inl old).keep known (.inl looked) (.inl rfl), ⟨rfl, rfl⟩,
          .inl looked.symm⟩
      | broken warning =>
        cases asked
        exact ⟨(keeps.mono fun e old => .inl old).keep known (.inl looked)
          (.inr ⟨warning, found, rfl⟩), ⟨rfl, rfl⟩, .inl looked.symm⟩

theorem Gone.answers {m : String} {e : Fault} (gone : s.Gone tree m e) :
    s.renewed.answers tree m = .error e := by
  rw [renewed_answers_eq, gone.failed]

/-- A question that is answered asks for no module that cannot be looked up. -/
theorem Gone.of_outsideUnit {m m' : String} {e : Fault} {answer : Option SourceUnit}
    (asked : outsideUnit tree s m = (.ok answer, s')) (gone : s'.Gone tree m' e) :
    s.Gone tree m' e := by
  have same := sameAnswers_outsideUnit asked
  have failed : find tree s.searchPaths m' = .error e := by
    rw [← same.searchPaths]
    exact gone.failed
  cases known : s.outside.lookup m' with
  | some kept =>
    have answered : s'.answers tree m' = s.answers tree m' := congrFun same.answers m'
    rw [answers_eq, answers_eq, gone.kept, known] at answered
    cases answered
    exact ⟨known, failed⟩
  | none =>
    have answered : s'.answers tree m' = s.answers tree m' := congrFun same.answers m'
    rw [answers_eq, answers_eq, gone.kept, known, failed] at answered
    cases answered

/-- What a query leaves behind, and how it is answered: like in a new set, or the new set fails for
a module that cannot be looked up and was asked for before. -/
theorem Keeps.run (keeps : Keeps tree noted s) (q : Query α) {outcome : Except Fault α}
    (ran : run tree q s = (outcome, s')) :
    Keeps tree (fun e => noted e ∨ outcome = .error e) s' ∧ SameSources s s' ∧
      (outcome = q.answer (s.renewed.answers tree) ∨
        ∃ m e, s.Gone tree m e ∧ noted e ∧
          q.answer (s.renewed.answers tree) = .error e) := by
  induction q generalizing s with
  | done a =>
    cases ran
    exact ⟨keeps.mono fun e old => .inl old, ⟨rfl, rfl⟩, .inl rfl⟩
  | fail cause =>
    cases ran
    exact ⟨keeps.mono fun e old => .inl old, ⟨rfl, rfl⟩, .inl rfl⟩
  | ask m next ih =>
    simp only [SourceSet.run] at ran
    rw [Query.answer]
    rcases given : SourceSet.outsideUnit tree s m with ⟨cause | answer, middle⟩
    · rw [given] at ran
      cases ran
      obtain ⟨kept, same, agrees⟩ := keeps.outsideUnit m given
      refine ⟨kept.mono fun e => Or.imp_right fun failed => ?_, same, ?_⟩
      · exact congrArg Except.error (Except.error.inj failed)
      · rcases agrees with agrees | ⟨e, gone, old⟩
        · exact .inl (by rw [← agrees])
        · exact .inr ⟨m, e, gone, old, by rw [gone.answers]⟩
    · rw [given] at ran
      obtain ⟨kept, same, agrees⟩ := keeps.outsideUnit m given
      -- a question that is answered notes nothing
      have kept : Keeps tree noted middle := kept.mono fun e =>
        Or.rec id fun failed => by cases failed
      obtain ⟨kept', same', agrees'⟩ := ih answer kept ran
      refine ⟨kept', same.trans same', ?_⟩
      rcases agrees with agrees | ⟨e, gone, old⟩
      · rw [← agrees]
        rw [same.renewed] at agrees'
        refine agrees'.imp_right ?_
        rintro ⟨m', e, gone, old, failed⟩
        exact ⟨m', e, gone.of_outsideUnit given, old, failed⟩
      · exact .inr ⟨m, e, gone, old, by rw [gone.answers]⟩

/-! ## Calls -/

/-- A call on a source set. -/
inductive Call where
  | add (u : SourceUnit)
  | unit (m : String)
  | split (q : String)
  | canonical (q : String)
  | name (u : SourceUnit) (expr : Node)
  | symbol (q : String)
  | value (u : SourceUnit) (ref : SymbolRef)

/-- The answer to a call. -/
inductive Answer where
  | added
  | unit (found : Option SourceUnit)
  | split (found : Option (SourceUnit × List String))
  | canonical (q : String)
  | name (q : Option String)
  | symbol (found : Option (SourceUnit × SymbolRef))
  | value (text : Option String)

/-- What a call asks, in a set with the given units. -/
def Call.query (units : List SourceUnit) : Call → Query Answer
  | add _ => return .added
  | unit m => return .unit (← unitFor? units m)
  | split q => return .split (← split? units q)
  | canonical q => return .canonical (← Resolve.canonical units q)
  | name u expr => return .name (← qualifiedName units u expr)
  | symbol q => return .symbol (← lookupSymbol units q)
  | value u ref => return .value (← symbolValue units u ref)

/-- The unit that a call adds. -/
def Call.added : Call → List SourceUnit
  | add u => [u]
  | _ => []

/-- The answer to a call, and the set after it. -/
def perform (tree : FileTree) (s : SourceSet) (c : Call) : Except Fault Answer × SourceSet :=
  let (outcome, s) := run tree (c.query s.units) s
  (outcome, c.added.foldl add s)

/-- The answers to calls that are made one after another, and the set after them. -/
def performAll (tree : FileTree) : SourceSet → List Call → List (Except Fault Answer) × SourceSet
  | s, [] => ([], s)
  | s, c :: rest =>
    let (outcome, s) := perform tree s c
    let (outcomes, s) := performAll tree s rest
    (outcome :: outcomes, s)

theorem foldl_add (s : SourceSet) (us : List SourceUnit) :
    us.foldl add s = { s with units := s.units ++ us } := by
  induction us generalizing s with
  | nil => rw [List.foldl_nil, List.append_nil]
  | cons u rest ih => rw [List.foldl_cons, ih, add, List.append_assoc, List.singleton_append]

theorem Keeps.addAll (keeps : Keeps tree noted s) (us : List SourceUnit) :
    Keeps tree noted (us.foldl SourceSet.add s) := by
  induction us generalizing s with
  | nil => exact keeps
  | cons u rest ih => exact ih (keeps.add u)

/-- One call of a session. -/
theorem Keeps.perform (keeps : Keeps tree noted s) (c : Call) {outcome : Except Fault Answer}
    (done : perform tree s c = (outcome, s')) :
    Keeps tree (fun e => noted e ∨ outcome = .error e) s' ∧
      s'.units = s.units ++ c.added ∧ s'.searchPaths = s.searchPaths ∧
      (outcome = (SourceSet.perform tree s.renewed c).1 ∨
        ∃ m e, s.Gone tree m e ∧ noted e ∧
          (SourceSet.perform tree s.renewed c).1 = .error e) := by
  have fresh : (SourceSet.perform tree s.renewed c).1 =
      (c.query s.units).answer (s.renewed.answers tree) := run_fst ..
  rw [fresh]
  rcases ran : SourceSet.run tree (c.query s.units) s with ⟨outcome', middle⟩
  rw [SourceSet.perform, ran] at done
  cases done
  obtain ⟨kept, same, agrees⟩ := keeps.run _ ran
  refine ⟨kept.addAll c.added, ?_, ?_, agrees⟩
  · rw [foldl_add, ← same.units]
  · rw [foldl_add, ← same.searchPaths]

/-- A whole session. -/
theorem Keeps.performAll (keeps : Keeps tree noted s) (calls : List Call)
    {outcomes : List (Except Fault Answer)} (done : performAll tree s calls = (outcomes, s')) :
    Keeps tree (fun e => noted e ∨ .error e ∈ outcomes) s' ∧
      s'.units = s.units ++ calls.flatMap Call.added ∧ s'.searchPaths = s.searchPaths := by
  induction calls generalizing s noted outcomes with
  | nil =>
    cases done
    exact ⟨keeps.mono fun e old => .inl old, (List.append_nil _).symm, rfl⟩
  | cons c rest ih =>
    rcases first : SourceSet.perform tree s c with ⟨outcome, middle⟩
    rcases more : SourceSet.performAll tree middle rest with ⟨outcomes', last⟩
    simp only [SourceSet.performAll, first, more] at done
    cases done
    obtain ⟨kept, units, paths, -⟩ := keeps.perform c first
    obtain ⟨kept', units', paths'⟩ := ih kept more
    refine ⟨kept'.mono fun e => ?_, ?_, paths'.trans paths⟩
    · rintro ((old | failed) | member)
      · exact .inl old
      · exact .inr (List.mem_cons.mpr (.inl failed.symm))
      · exact .inr (List.mem_cons_of_mem _ member)
    · rw [units', units, List.append_assoc, List.flatMap_cons]

/-- In a session that starts with a new set, every call is answered like by a new set with the
units so far and the same directories, unless the new set fails for a module that cannot be looked
up, and an earlier call of the session failed for the same module. No module is among the failures
to load twice. -/
theorem session_answers (tree : FileTree) (units : List SourceUnit) (searchPaths : List Path)
    (calls : List Call) (c : Call) :
    ((perform tree (performAll tree { units, searchPaths } calls).2 c).1 =
        (perform tree { units := units ++ calls.flatMap Call.added, searchPaths } c).1 ∨
      ∃ m e, (performAll tree { units, searchPaths } calls).2.Gone tree m e ∧
        .error e ∈ (performAll tree { units, searchPaths } calls).1 ∧
        (perform tree { units := units ++ calls.flatMap Call.added, searchPaths } c).1 =
          .error e) ∧
    ∃ ms : List String, ms.Nodup ∧
      List.Forall₂ (fun m warning => find tree searchPaths m = .ok (.broken warning)) ms
        (performAll tree { units, searchPaths } calls).2.outsideFailures := by
  have start : Keeps tree (fun _ => False) { units, searchPaths } := keeps_new units searchPaths
  rcases done : performAll tree { units, searchPaths } calls with ⟨outcomes, s⟩
  obtain ⟨keeps, same, paths⟩ := start.performAll calls done
  have keeps : Keeps tree (fun e => .error e ∈ outcomes) s :=
    keeps.mono fun e => Or.rec False.elim id
  have new : s.renewed = { units := units ++ calls.flatMap Call.added, searchPaths } := by
    rw [renewed, same, paths]
  constructor
  · obtain ⟨-, -, -, agrees⟩ := keeps.perform c rfl
    rw [new] at agrees
    exact agrees
  · obtain ⟨ms, distinct, -, broken⟩ := keeps.failures
    rw [paths] at broken
    exact ⟨ms, distinct, broken⟩

end SourceSet

end Catalog
