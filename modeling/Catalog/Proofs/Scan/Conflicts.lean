import Catalog.Proofs.Record.Faults
import Catalog.Scan.Conflicts
import Mathlib.Data.List.Nodup

/-!
# How the check for conflicts ends

The check has three stages, each of which is entered only if the one before lets it pass: the policy
must be known, the ids must differ from each other, and the snapshot must be there and hold records.
`Outcome` has one rule for each way in which it can end, with the failure or the progress lines and
the warnings that it leaves. Repeated ids, published records and changed authors are described by
where they stand in the lists, without the searches that find them.
-/

namespace Catalog.Conflicts

variable {tree : FileTree} {policy id : String} {existing : Path} {warnings seen : List String}
  {records published : List Record} {r previous : Record} {changes : List (Record × Record)}

/-! ## Repeated ids -/

/-- The id is that of the earliest record whose id occurred before it. -/
def FirstRepeat (records : List Record) (id : String) : Prop :=
  ∃ before r after, records = before ++ r :: after ∧ r.id = id ∧
    id ∈ before.map Record.id ∧ (before.map Record.id).Nodup

theorem duplicate?_eq_none_iff :
    duplicate? seen records = none ↔
      (records.map Record.id).Nodup ∧ ∀ r ∈ records, r.id ∉ seen := by
  induction records generalizing seen with
  | nil => simp [duplicate?]
  | cons r rest ih =>
    rw [duplicate?, List.map_cons, List.nodup_cons, List.forall_mem_cons]
    by_cases met : r.id ∈ seen
    · simp [met]
    · rw [if_neg (by simpa using met), ih]
      constructor
      · rintro ⟨nodup, apart⟩
        refine ⟨⟨?_, nodup⟩, met, fun r' member seen => ?_⟩
        · intro member
          obtain ⟨r', member, same⟩ := List.mem_map.mp member
          exact apart r' member (same ▸ List.mem_cons_self)
        · exact apart r' member (List.mem_cons_of_mem _ seen)
      · rintro ⟨⟨first, nodup⟩, -, apart⟩
        refine ⟨nodup, fun r' member seen => ?_⟩
        rcases List.mem_cons.mp seen with same | seen
        · exact first (same ▸ List.mem_map_of_mem member)
        · exact apart r' member seen

/-- Up to the record that is found no id repeats another one, and none was seen before. -/
theorem duplicate?_eq_some (found : duplicate? seen records = some id) :
    ∃ before r after, records = before ++ r :: after ∧ r.id = id ∧
      (before.map Record.id).Nodup ∧ (∀ r' ∈ before, r'.id ∉ seen) ∧
      (id ∈ seen ∨ id ∈ before.map Record.id) := by
  induction records generalizing seen with
  | nil => cases found
  | cons r rest ih =>
    rw [duplicate?] at found
    split at found
    · rename_i met
      cases found
      exact ⟨[], r, rest, rfl, rfl, List.nodup_nil, List.forall_mem_nil _,
        .inl (by simpa using met)⟩
    · rename_i met
      obtain ⟨before, r', after, rfl, rfl, nodup, apart, again⟩ := ih found
      refine ⟨r :: before, r', after, rfl, rfl, List.nodup_cons.mpr ⟨?_, nodup⟩, ?_, ?_⟩
      · intro member
        obtain ⟨other, member, same⟩ := List.mem_map.mp member
        exact apart other member (same ▸ List.mem_cons_self)
      · exact List.forall_mem_cons.mpr ⟨by simpa using met,
          fun other member seen => apart other member (List.mem_cons_of_mem _ seen)⟩
      · rcases again with again | again
        · rcases List.mem_cons.mp again with same | again
          · exact .inr (List.mem_cons.mpr (.inl same))
          · exact .inl again
        · exact .inr (List.mem_cons_of_mem _ again)

theorem FirstRepeat.not_nodup (repeated : FirstRepeat records id) :
    ¬(records.map Record.id).Nodup := by
  obtain ⟨before, r, after, rfl, rfl, again, -⟩ := repeated
  rw [List.map_append, List.map_cons, List.nodup_append]
  rintro ⟨-, -, apart⟩
  exact apart r.id again r.id List.mem_cons_self rfl

/-- There is only one first record whose id occurred before. -/
theorem FirstRepeat.unique {other : String} (one : FirstRepeat records id)
    (two : FirstRepeat records other) : id = other := by
  obtain ⟨before, r, after, rfl, rfl, again, nodup⟩ := one
  obtain ⟨before', r', after', split, rfl, again', nodup'⟩ := two
  -- the longer start would hold the repetition at the end of the shorter one
  rcases List.append_eq_append_iff.mp split with ⟨between, rfl, rest⟩ | ⟨between, rfl, rest⟩
  · cases between with
    | nil =>
      cases rest
      rfl
    | cons first between =>
      cases rest
      exact absurd nodup' (FirstRepeat.not_nodup ⟨before, r, between, rfl, rfl, again, nodup⟩)
  · cases between with
    | nil =>
      cases rest
      rfl
    | cons first between =>
      cases rest
      exact absurd nodup (FirstRepeat.not_nodup ⟨before', r', between, rfl, rfl, again', nodup'⟩)

theorem duplicate?_eq_some_iff : duplicate? [] records = some id ↔ FirstRepeat records id := by
  have found {id : String} (found : duplicate? [] records = some id) : FirstRepeat records id := by
    obtain ⟨before, r, after, split, same, nodup, -, again⟩ := duplicate?_eq_some found
    exact ⟨before, r, after, split, same, again.resolve_left List.not_mem_nil, nodup⟩
  refine ⟨found, fun repeated => ?_⟩
  cases outcome : duplicate? [] records with
  | none => exact absurd (duplicate?_eq_none_iff.mp outcome).1 repeated.not_nodup
  | some other => rw [(found outcome).unique repeated]

/-! ## Published records -/

/-- The record is published, and no later one in the snapshot has its id. -/
def Published (snapshot : List Record) (r : Record) : Prop :=
  ∃ before after, snapshot = before ++ r :: after ∧ ∀ later ∈ after, later.id ≠ r.id

/-- The record takes over an id that is published with another author. -/
def TakesOver (snapshot : List Record) (r previous : Record) : Prop :=
  Published snapshot previous ∧ previous.id = r.id ∧ previous.author ≠ r.author

theorem published?_eq_some :
    published? published id = some r ↔ Published published r ∧ r.id = id := by
  rw [published?, List.find?_eq_some_iff_append]
  constructor
  · rintro ⟨same, after, before, split, apart⟩
    obtain rfl : r.id = id := by simpa using same
    refine ⟨⟨before.reverse, after.reverse, ?_, ?_⟩, rfl⟩
    · rw [← List.reverse_reverse published, split]
      simp
    · intro later member
      simpa using apart later (List.mem_reverse.mp member)
  · rintro ⟨⟨before, after, rfl, apart⟩, rfl⟩
    refine ⟨by simp, after.reverse, before.reverse, by simp, fun later member => ?_⟩
    simpa using apart later (List.mem_reverse.mp member)

theorem otherAuthor?_eq_some {author : String} :
    otherAuthor? published r = some author ↔
      ∃ previous, TakesOver published r previous ∧ previous.author = author := by
  rw [otherAuthor?]
  constructor
  · intro changed
    split at changed
    · rename_i previous found
      obtain ⟨last, same⟩ := published?_eq_some.mp found
      split at changed
      · cases changed
      · rename_i different
        cases changed
        exact ⟨previous, ⟨last, same, by simpa using different⟩, rfl⟩
    · cases changed
  · rintro ⟨previous, ⟨last, same, different⟩, rfl⟩
    rw [published?_eq_some.mpr ⟨last, same⟩]
    exact if_neg (by simpa using different)

theorem otherAuthor?_eq_none :
    otherAuthor? published r = none ↔ ∀ previous, ¬TakesOver published r previous := by
  rw [Option.eq_none_iff_forall_ne_some]
  constructor
  · intro unchanged previous takes
    exact unchanged previous.author (otherAuthor?_eq_some.mpr ⟨previous, takes, rfl⟩)
  · intro free author changed
    obtain ⟨previous, takes, -⟩ := otherAuthor?_eq_some.mp changed
    exact free previous takes

/-- The published record of an id that occurs once. -/
theorem published?_of_mem (nodup : (records.map Record.id).Nodup) (member : r ∈ records) :
    published? records r.id = some r := by
  obtain ⟨before, after, rfl⟩ := List.append_of_mem member
  refine published?_eq_some.mpr ⟨⟨before, after, rfl, fun later inside same => ?_⟩, rfl⟩
  rw [List.map_append, List.map_cons, List.nodup_append, List.nodup_cons] at nodup
  exact nodup.2.1.1 (same ▸ List.mem_map_of_mem inside)

/-! ## Changed authors -/

/-- The records that take over an id, in their order, each with the published record. -/
inductive Changes (snapshot : List Record) : List Record → List (Record × Record) → Prop
  | nil : Changes snapshot [] []
  | free {r : Record} {rest : List Record} {changes : List (Record × Record)}
      (free : ∀ previous, ¬TakesOver snapshot r previous) (later : Changes snapshot rest changes) :
      Changes snapshot (r :: rest) changes
  | takes {r previous : Record} {rest : List Record} {changes : List (Record × Record)}
      (takes : TakesOver snapshot r previous) (later : Changes snapshot rest changes) :
      Changes snapshot (r :: rest) ((r, previous) :: changes)

/-- The message about a changed author. -/
def changeMessage (change : Record × Record) : String :=
  Failure.authorMessage change.1.id change.2.author change.1.author

theorem exists_changes (published records : List Record) :
    ∃ changes, Changes published records changes := by
  induction records with
  | nil => exact ⟨[], .nil⟩
  | cons r rest ih =>
    obtain ⟨changes, later⟩ := ih
    cases changed : otherAuthor? published r with
    | none => exact ⟨changes, .free (otherAuthor?_eq_none.mp changed) later⟩
    | some author =>
      obtain ⟨previous, takes, -⟩ := otherAuthor?_eq_some.mp changed
      exact ⟨_, .takes takes later⟩

/-- Records take over no id from a snapshot of the same records. -/
theorem changes_nil_of_perm (same : published.Perm records)
    (nodup : (records.map Record.id).Nodup) : Changes published records [] := by
  have free : ∀ r ∈ records, ∀ previous, ¬TakesOver published r previous := by
    rintro r member previous ⟨last, sameId, different⟩
    have found := published?_of_mem ((same.map Record.id).nodup_iff.mpr nodup)
      (same.mem_iff.mpr member)
    rw [published?_eq_some.mpr ⟨last, sameId⟩] at found
    exact different (congrArg Record.author (Option.some.inj found))
  clear same nodup
  induction records with
  | nil => exact .nil
  | cons r rest ih =>
    obtain ⟨first, later⟩ := List.forall_mem_cons.mp free
    exact .free first (ih later)

/-- The failure at the first changed author, if there is one. -/
def refusal : List (Record × Record) → Except Failure Unit
  | [] => .ok ()
  | (r, previous) :: _ => .error (.authorConflict r.id previous.author r.author)

theorem judge_free {rest : List Record} (free : ∀ previous, ¬TakesOver published r previous) :
    judge policy published warnings (r :: rest) = judge policy published warnings rest := by
  rw [judge, otherAuthor?_eq_none.mpr free]

theorem judge_takes {rest : List Record} (takes : TakesOver published r previous) :
    judge policy published warnings (r :: rest) =
      if policy == "error" then (refusal [(r, previous)], warnings)
      else if policy == "warn" then
        judge policy published (warnings ++ [changeMessage (r, previous)]) rest
      else judge policy published warnings rest := by
  rw [judge, otherAuthor?_eq_some.mpr ⟨previous, takes, rfl⟩]
  rfl

theorem judge_error (all : Changes published records changes) :
    judge "error" published warnings records = (refusal changes, warnings) := by
  induction all with
  | nil => rfl
  | free free _ ih => rw [judge_free free, ih]
  | takes takes _ _ =>
    rw [judge_takes takes]
    rfl

theorem judge_warn (all : Changes published records changes) :
    judge "warn" published warnings records = (.ok (), warnings ++ changes.map changeMessage) := by
  induction all generalizing warnings with
  | nil => rw [judge, List.map_nil, List.append_nil]
  | free free _ ih => rw [judge_free free, ih]
  | takes takes _ ih =>
    rw [judge_takes takes, if_neg (by decide), if_pos (by decide), ih, List.map_cons,
      List.append_assoc, List.singleton_append]

theorem judge_ignore (published records : List Record) (warnings : List String) :
    judge "ignore" published warnings records = (.ok (), warnings) := by
  obtain ⟨changes, all⟩ := exists_changes published records
  induction all with
  | nil => rfl
  | free free _ ih => rw [judge_free free, ih]
  | takes takes _ ih => rw [judge_takes takes, if_neg (by decide), if_neg (by decide), ih]

/-! ## The whole check -/

/-- How a check ends: with a failure or the progress lines, and with the warnings after it. -/
inductive Outcome (tree : FileTree) (records : List Record) (existing : Path)
    (warnings : List String) : String → Except Failure (List Progress) × List String → Prop
  | unknown {policy : String} (unknown : policy ∉ Failure.policies) :
      Outcome tree records existing warnings policy (.error (.unknownPolicy policy), warnings)
  | repeated {policy id : String} (known : policy ∈ Failure.policies)
      (repeated : FirstRepeat records id) :
      Outcome tree records existing warnings policy (.error (.duplicateId id), warnings)
  | missing {policy : String} (known : policy ∈ Failure.policies)
      (distinct : (records.map Record.id).Nodup)
      (missing : tree.readText existing = .error (.system .notFound)) :
      Outcome tree records existing warnings policy (.ok [missingNotice existing], warnings)
  | unreadable {policy : String} {e : Failure} (known : policy ∈ Failure.policies)
      (distinct : (records.map Record.id).Nodup) (fails : Snapshot.load tree existing = .error e) :
      Outcome tree records existing warnings policy (.error e, warnings)
  | agreed {policy : String} {published : List Record} (known : policy ∈ Failure.policies)
      (distinct : (records.map Record.id).Nodup)
      (loads : Snapshot.load tree existing = .ok (some published))
      (all : Changes published records []) :
      Outcome tree records existing warnings policy (.ok [], warnings)
  | refused {published : List Record} {r previous : Record} {later : List (Record × Record)}
      (distinct : (records.map Record.id).Nodup)
      (loads : Snapshot.load tree existing = .ok (some published))
      (all : Changes published records ((r, previous) :: later)) :
      Outcome tree records existing warnings "error"
        (.error (.authorConflict r.id previous.author r.author), warnings)
  | warned {published : List Record} {changes : List (Record × Record)}
      (distinct : (records.map Record.id).Nodup)
      (loads : Snapshot.load tree existing = .ok (some published))
      (all : Changes published records changes) :
      Outcome tree records existing warnings "warn"
        (.ok [], warnings ++ changes.map changeMessage)
  | ignored {published : List Record} (distinct : (records.map Record.id).Nodup)
      (loads : Snapshot.load tree existing = .ok (some published)) :
      Outcome tree records existing warnings "ignore" (.ok [], warnings)

theorem known_iff : policy ∈ Failure.policies ↔
    policy = "warn" ∨ policy = "error" ∨ policy = "ignore" := by
  simp [Failure.policies]

theorem load_eq_none_iff : Snapshot.load tree existing = .ok none ↔
    tree.readText existing = .error (.system .notFound) := by
  rw [Snapshot.load]
  cases tree.readText existing with
  | ok text =>
    dsimp only
    cases Snapshot.parse existing.text text <;> simp [Except.map]
  | error e =>
    cases e with
    | undecodable => simp
    | system cause => cases cause <;> simp

section

variable (known : policy ∈ Failure.policies) (distinct : (records.map Record.id).Nodup)
include known distinct

theorem examine_of_missing (missing : Snapshot.load tree existing = .ok none) :
    examine tree policy records existing warnings = (.ok [missingNotice existing], warnings) := by
  have unique : duplicate? [] records = none := duplicate?_eq_none_iff.mpr ⟨distinct, by simp⟩
  rw [examine, if_neg (by simpa using known), unique, missing]

theorem examine_of_fails {e : Failure} (fails : Snapshot.load tree existing = .error e) :
    examine tree policy records existing warnings = (.error e, warnings) := by
  have unique : duplicate? [] records = none := duplicate?_eq_none_iff.mpr ⟨distinct, by simp⟩
  rw [examine, if_neg (by simpa using known), unique, fails]

theorem examine_of_judge {outcome : Except Failure Unit} {after : List String}
    (loads : Snapshot.load tree existing = .ok (some published))
    (judged : judge policy published warnings records = (outcome, after)) :
    examine tree policy records existing warnings = (outcome.map fun () => [], after) := by
  have unique : duplicate? [] records = none := duplicate?_eq_none_iff.mpr ⟨distinct, by simp⟩
  rw [examine, if_neg (by simpa using known), unique]
  dsimp only
  rw [loads]
  dsimp only
  rw [judged]

end

theorem judge_nil (known : policy ∈ Failure.policies) (all : Changes published records []) :
    judge policy published warnings records = (.ok (), warnings) := by
  rcases known_iff.mp known with rfl | rfl | rfl
  · rw [judge_warn all, List.map_nil, List.append_nil]
  · exact judge_error all
  · exact judge_ignore published records warnings

theorem Outcome.examine_eq {result : Except Failure (List Progress) × List String}
    (outcome : Outcome tree records existing warnings policy result) :
    examine tree policy records existing warnings = result := by
  cases outcome with
  | unknown unknown => rw [examine, if_pos (by simpa using unknown)]
  | repeated known repeated =>
    rw [examine, if_neg (by simpa using known), duplicate?_eq_some_iff.mpr repeated]
  | missing known distinct missing =>
    exact examine_of_missing known distinct (load_eq_none_iff.mpr missing)
  | unreadable known distinct fails => exact examine_of_fails known distinct fails
  | agreed known distinct loads all =>
    exact examine_of_judge known distinct loads (judge_nil known all)
  | refused distinct loads all =>
    exact examine_of_judge (by decide) distinct loads (judge_error all)
  | warned distinct loads all => exact examine_of_judge (by decide) distinct loads (judge_warn all)
  | ignored distinct loads =>
    exact examine_of_judge (by decide) distinct loads (judge_ignore _ _ _)

/-- One of the rules applies to every check. -/
theorem exists_outcome (tree : FileTree) (policy : String) (records : List Record)
    (existing : Path) (warnings : List String) :
    ∃ result, Outcome tree records existing warnings policy result := by
  by_cases known : policy ∈ Failure.policies
  · cases repeats : duplicate? [] records with
    | some id => exact ⟨_, .repeated known (duplicate?_eq_some_iff.mp repeats)⟩
    | none =>
      have distinct := (duplicate?_eq_none_iff.mp repeats).1
      cases loads : Snapshot.load tree existing with
      | error e => exact ⟨_, .unreadable known distinct loads⟩
      | ok loaded =>
        cases loaded with
        | none => exact ⟨_, .missing known distinct (load_eq_none_iff.mp loads)⟩
        | some published =>
          obtain ⟨changes, all⟩ := exists_changes published records
          rcases known_iff.mp known with rfl | rfl | rfl
          · exact ⟨_, .warned distinct loads all⟩
          · rcases changes with _ | ⟨⟨r, previous⟩, later⟩
            · exact ⟨_, .agreed known distinct loads all⟩
            · exact ⟨_, .refused distinct loads all⟩
          · exact ⟨_, .ignored distinct loads⟩
  · exact ⟨_, .unknown known⟩

theorem examine_eq_iff {result : Except Failure (List Progress) × List String} :
    examine tree policy records existing warnings = result ↔
      Outcome tree records existing warnings policy result := by
  constructor
  · rintro rfl
    obtain ⟨result, outcome⟩ := exists_outcome tree policy records existing warnings
    rwa [outcome.examine_eq]
  · exact Outcome.examine_eq

theorem check_eq_ok {log : List Progress} :
    check tree policy records existing = .ok (warnings, log) ↔
      Outcome tree records existing [] policy (.ok log, warnings) := by
  rw [← examine_eq_iff, check]
  rcases examine tree policy records existing [] with ⟨e | log', warnings'⟩
  · simp [Except.map]
  · simp [Except.map, and_comm]

/-- Records are compared only if their ids are different, and with what the path led to. -/
theorem of_check {outcome : List String × List Progress}
    (checked : check tree policy records existing = .ok outcome) :
    (records.map Record.id).Nodup ∧ ∃ loaded, Snapshot.load tree existing = .ok loaded := by
  obtain ⟨warnings, log⟩ := outcome
  cases check_eq_ok.mp checked with
  | missing _ distinct missing => exact ⟨distinct, _, load_eq_none_iff.mpr missing⟩
  | agreed _ distinct loads _ => exact ⟨distinct, _, loads⟩
  | warned distinct loads _ => exact ⟨distinct, _, loads⟩
  | ignored distinct loads => exact ⟨distinct, _, loads⟩

/-- The check fails with a message of the kind. -/
def FailsAs (kind : FailureKind) (result : Except Failure (List Progress) × List String) : Prop :=
  ∃ e, result.1 = .error e ∧ e.kind? = some kind

theorem not_failsAs_ok {kind : FailureKind} {log : List Progress} :
    ¬FailsAs kind (.ok log, warnings) := by
  rintro ⟨e, fails, -⟩
  cases fails

theorem failsAs_error {kind : FailureKind} {e : Failure} :
    FailsAs kind (.error e, warnings) ↔ e.kind? = some kind := by
  simp [FailsAs]

/-- A snapshot that cannot be read does not fail as the stages before it do. -/
theorem kind?_of_load {e : Failure} (fails : Snapshot.load tree existing = .error e) :
    e.kind? ≠ some .config ∧ e.kind? ≠ some .duplicateId := by
  rcases Snapshot.load_fails fails with ⟨cause, rfl, -⟩ | kind
  · simp [Failure.kind?]
  · simp [kind]

theorem failsAs_config_iff : FailsAs .config (examine tree policy records existing warnings) ↔
    policy ∉ Failure.policies := by
  obtain ⟨result, outcome⟩ := exists_outcome tree policy records existing warnings
  rw [outcome.examine_eq]
  cases outcome with
  | unknown unknown => simp [failsAs_error, Failure.kind?, unknown]
  | repeated known _ => simp [failsAs_error, Failure.kind?, known]
  | missing known _ _ => simp [not_failsAs_ok, known]
  | unreadable known _ fails => simp [failsAs_error, (kind?_of_load fails).1, known]
  | agreed known _ _ _ => simp [not_failsAs_ok, known]
  | refused _ _ _ => simp [failsAs_error, Failure.kind?, Failure.policies]
  | warned _ _ _ => simp [not_failsAs_ok, Failure.policies]
  | ignored _ _ => simp [not_failsAs_ok, Failure.policies]

theorem failsAs_duplicateId_iff :
    FailsAs .duplicateId (examine tree policy records existing warnings) ↔
      policy ∈ Failure.policies ∧ ¬(records.map Record.id).Nodup := by
  obtain ⟨result, outcome⟩ := exists_outcome tree policy records existing warnings
  rw [outcome.examine_eq]
  cases outcome with
  | unknown unknown => simp [failsAs_error, Failure.kind?, unknown]
  | repeated known repeated =>
    simp only [failsAs_error, Failure.kind?, known, repeated.not_nodup, not_false_eq_true, and_self]
  | missing _ distinct _ => simp [not_failsAs_ok, distinct]
  | unreadable _ distinct fails => simp [failsAs_error, (kind?_of_load fails).2, distinct]
  | agreed _ distinct _ _ => simp [not_failsAs_ok, distinct]
  | refused distinct _ _ => simp [failsAs_error, Failure.kind?, distinct]
  | warned distinct _ _ => simp [not_failsAs_ok, distinct]
  | ignored distinct _ => simp [not_failsAs_ok, distinct]

/-- The snapshot is not read unless the policy is known and the ids are different. -/
theorem examine_of_early (early : policy ∉ Failure.policies ∨ ¬(records.map Record.id).Nodup)
    (other : FileTree) (elsewhere : Path) :
    examine other policy records elsewhere warnings =
      examine tree policy records existing warnings := by
  rw [examine, examine]
  split
  · rfl
  · rename_i known
    cases repeats : duplicate? [] records with
    | some id => rfl
    | none =>
      have distinct := (duplicate?_eq_none_iff.mp repeats).1
      exact absurd distinct (early.resolve_left (by simpa using known))

/-- Every check ends as the rules of `Outcome` say. It fails for the policy if and only if the
policy is unknown, and else for a repeated id if and only if an id occurs twice; then no snapshot,
wherever it is, makes a difference. -/
theorem examine_outcome (tree : FileTree) (policy : String) (records : List Record)
    (existing : Path) (warnings : List String) :
    (∀ result, examine tree policy records existing warnings = result ↔
      Outcome tree records existing warnings policy result) ∧
    (FailsAs .config (examine tree policy records existing warnings) ↔
      policy ∉ Failure.policies) ∧
    (FailsAs .duplicateId (examine tree policy records existing warnings) ↔
      policy ∈ Failure.policies ∧ ¬(records.map Record.id).Nodup) ∧
    (policy ∉ Failure.policies ∨ ¬(records.map Record.id).Nodup →
      ∀ other elsewhere, examine other policy records elsewhere warnings =
        examine tree policy records existing warnings) :=
  ⟨fun _ => examine_eq_iff, failsAs_config_iff, failsAs_duplicateId_iff, examine_of_early⟩

/-- Three records, of which the last one repeats the id of the first, under the strictest policy. -/
theorem examine_outcome_repeated :
    let records : List Record := [{ id := "a" }, { id := "b" }, { id := "a", author := "other" }]
    examine {} "error" records {} ["before"] = (.error (.duplicateId "a"), ["before"]) ∧
      ∀ other elsewhere, examine other "error" records elsewhere ["before"] =
        examine {} "error" records {} ["before"] := by
  intro records
  obtain ⟨rules, -, -, early⟩ := examine_outcome {} "error" records {} ["before"]
  refine ⟨(rules _).mpr (.repeated (by decide) ?_), early (.inr (by decide))⟩
  exact ⟨[{ id := "a" }, { id := "b" }], _, [], rfl, rfl, by decide, by decide⟩

end Catalog.Conflicts
