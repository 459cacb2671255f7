import Catalog.Proofs.Source.Answers
import Catalog.Proofs.Text.Dotted
import Catalog.Resolve.Name
import Mathlib.Logic.Relation

/-!
# Following imports

A qualified name is cut into the longest module that is known and the segments after it. Where the
module only imports the first of these segments, the name leads on to another one: the target of
the import, with the segments that are left. `Step` is one such redirect, `Path` a sequence of them
with the names it passes.

Following imports from a name is taking steps until a name has none or was passed before. So the
outcome is the end of the only path that passes no name twice, and following imports from the
outcome comes back to it: at a name without a step at once, and on a circle after one round.
-/

namespace Catalog.Resolve

/-- The index leads from each name but the empty one to the first unit of that name. -/
theorem indexed?_eq_some_iff {units : List SourceUnit} {m : String} {u : SourceUnit} :
    indexed? units m = some u ↔
      m ≠ "" ∧ u.moduleName = m ∧
        ∃ before after, units = before ++ u :: after ∧ ∀ v ∈ before, v.moduleName ≠ m := by
  rw [indexed?]
  by_cases unnamed : m = ""
  · subst unnamed
    exact iff_of_false nofun fun h => h.1 rfl
  · rw [if_neg (by simpa using unnamed), List.find?_eq_some_iff_append]
    simp [unnamed]

theorem named_of_indexed? {units : List SourceUnit} {m : String} {u : SourceUnit}
    (found : indexed? units m = some u) : u ∈ units ∧ u.moduleName = m ∧ m ≠ "" := by
  obtain ⟨named, name, before, after, rfl, -⟩ := indexed?_eq_some_iff.mp found
  exact ⟨List.mem_append_right before List.mem_cons_self, name, named⟩

/-- What the meaning of a name depends on: the units of the repository, and the answers about
modules outside of it. -/
structure Modules where
  units : List SourceUnit
  known : String → Except Fault (Option SourceUnit)

namespace Modules

/-- The modules of a source set. -/
def ofSources (tree : FileTree) (s : SourceSet) : Modules :=
  { units := s.units, known := s.answers tree }

variable (M : Modules)

/-- The unit is one of the repository, or one outside of it that is found. -/
def Has (u : SourceUnit) : Prop :=
  u ∈ M.units ∨ ∃ m, M.known m = .ok (some u)

variable {M}

theorem mem_of_indexed? {m : String} {u : SourceUnit} (found : indexed? M.units m = some u) :
    u ∈ M.units ∧ u.moduleName = m ∧ m ≠ "" :=
  named_of_indexed? found

theorem has_of_indexed? {m : String} {u : SourceUnit} (found : indexed? M.units m = some u) :
    M.Has u :=
  .inl (mem_of_indexed? found).1

theorem has_of_mem {tree : FileTree} {s : SourceSet} {u : SourceUnit} (member : u ∈ s.units) :
    (ofSources tree s).Has u :=
  .inl member

/-! ## Cutting a name -/

/-- The first of the cuts whose module is known is that of the unit `u`, and leaves `rest`. -/
def FirstCut (knows : String → SourceUnit → Prop) (lacks : String → Prop)
    (cs : List (String × List String)) (u : SourceUnit) (rest : List String) : Prop :=
  ∃ longer m shorter, cs = longer ++ (m, rest) :: shorter ∧ knows m u ∧ ∀ c ∈ longer, lacks c.1

/-- The first cut of a longer list is among the first cuts, or it is one of the others. -/
theorem FirstCut.append {knows : String → SourceUnit → Prop} {lacks : String → Prop}
    {long short : List (String × List String)} {u : SourceUnit} {rest : List String}
    (first : FirstCut knows lacks (long ++ short) u rest) :
    (∃ m, (m, rest) ∈ long) ∨ FirstCut knows lacks short u rest := by
  obtain ⟨longer, m, shorter, split, found, passed⟩ := first
  rcases List.append_eq_append_iff.mp split with ⟨more, rfl, same⟩ | ⟨more, rfl, same⟩
  · exact .inr ⟨more, m, shorter, same, found, fun c member =>
      passed c (List.mem_append_right _ member)⟩
  · cases more with
    | nil => exact .inr ⟨[], m, shorter, same.symm, found, by simp⟩
    | cons c more =>
      cases same
      exact .inl ⟨m, by simp⟩

/-- Segments that are left over by all cuts are left over by the first one. -/
theorem FirstCut.of_map {knows : String → SourceUnit → Prop} {lacks : String → Prop}
    {cs : List (String × List String)} {tail : List String} {u : SourceUnit} {rest : List String}
    (first : FirstCut knows lacks (cs.map fun c => (c.1, c.2 ++ tail)) u rest) :
    ∃ own, rest = own ++ tail ∧ FirstCut knows lacks cs u own := by
  obtain ⟨longer, m, shorter, split, found, passed⟩ := first
  obtain ⟨longer', others, rfl, rfl, same⟩ := List.map_eq_append_iff.mp split
  obtain ⟨⟨m', own⟩, shorter', rfl, pair, rfl⟩ := List.map_eq_cons_iff.mp same
  cases pair
  refine ⟨own, rfl, longer', m', shorter', rfl, found, fun c member => ?_⟩
  exact passed (c.1, c.2 ++ tail) (List.mem_map_of_mem (f := fun c => (c.1, c.2 ++ tail)) member)

theorem cuts_eq_cons (q : String) :
    ∃ shorter, cuts q = (q, []) :: shorter := by
  obtain ⟨s, rest, parts⟩ := List.exists_cons_of_ne_nil (Dotted.segments_ne_nil q)
  have whole : Dotted.ofSegments (s :: rest) = q := by rw [← parts, Dotted.ofSegments_segments]
  refine List.head?_eq_some_iff.mp ?_
  simp [cuts, parts, List.head?_range, List.take_of_length_le, List.drop_of_length_le, whole]

/-- A name that is put together can be cut behind its first part, or inside of it. -/
theorem cuts_ofSegments (t : String) {tail : List String} (plain : ∀ s ∈ tail, Dotted.IsPlain s) :
    cuts (Dotted.ofSegments (t :: tail)) =
      ((List.range tail.length).map fun k =>
        (Dotted.ofSegments (Dotted.segments t ++ tail.take (tail.length - k)),
          tail.drop (tail.length - k))) ++
      (cuts t).map fun c => (c.1, c.2 ++ tail) := by
  rw [cuts, Dotted.segments_ofSegments t plain, List.length_append, Nat.add_comm,
    List.range_add, List.map_append, List.map_map, cuts, List.map_map]
  congr 1
  · refine List.map_congr_left fun k inside => ?_
    have behind : tail.length + (Dotted.segments t).length - k =
        (Dotted.segments t).length + (tail.length - k) := by
      have := List.mem_range.mp inside
      omega
    rw [behind, List.take_length_add_append, List.drop_length_add_append]
  · refine List.map_congr_left fun k _ => ?_
    have within : tail.length + (Dotted.segments t).length - (tail.length + k) =
        (Dotted.segments t).length - k := by
      omega
    have short : (Dotted.segments t).length - k ≤ (Dotted.segments t).length := Nat.sub_le _ _
    simp only [Function.comp, within, List.take_append_of_le_length short,
      List.drop_append_of_le_length short]

theorem suffix_of_mem_cuts {q m : String} {rest : List String} (member : (m, rest) ∈ cuts q) :
    rest <:+ Dotted.segments q := by
  obtain ⟨k, _, same⟩ := List.mem_map.mp member
  cases same
  exact List.drop_suffix _ _

theorem firstOutside?_eq_some_iff {known : String → Except Fault (Option SourceUnit)}
    {cs : List (String × List String)} {u : SourceUnit} {rest : List String} :
    (firstOutside? cs).answer known = .ok (some (u, rest)) ↔
      FirstCut (fun m u => known m = .ok (some u)) (fun m => known m = .ok none) cs u rest := by
  induction cs with
  | nil => simp [firstOutside?, FirstCut]
  | cons c more ih =>
    obtain ⟨m, own⟩ := c
    have asked (found : Option SourceUnit) :
        (Query.outside m).answer known = .ok found ↔ known m = .ok found := by
      rw [Query.outside, Query.answer]
      cases known m <;> simp
    rw [firstOutside?, Query.answer_bind_eq_ok]
    constructor
    · rintro ⟨_ | found, given, ended⟩
      · obtain ⟨longer, m', shorter, rfl, hit, passed⟩ := ih.mp ended
        exact ⟨(m, own) :: longer, m', shorter, rfl, hit,
          List.forall_mem_cons.mpr ⟨(asked none).mp given, passed⟩⟩
      · cases ended
        exact ⟨[], m, more, rfl, (asked _).mp given, by simp⟩
    · rintro ⟨_ | ⟨c, longer⟩, m', shorter, split, hit, passed⟩
      · cases split
        exact ⟨some u, (asked _).mpr hit, rfl⟩
      · cases split
        obtain ⟨first, passed⟩ := List.forall_mem_cons.mp passed
        exact ⟨none, (asked none).mpr first, ih.mpr ⟨longer, m', shorter, rfl, hit, passed⟩⟩

variable (M)

/-- The longest known module that `q` begins with is `u`, and `rest` are the segments after it. -/
def Splits (q : String) (u : SourceUnit) (rest : List String) : Prop :=
  (split? M.units q).answer M.known = .ok (some (u, rest))

variable {M}

/-- Modules of the repository come first; of those that come first, the longest is taken. -/
theorem splits_iff {q : String} {u : SourceUnit} {rest : List String} :
    M.Splits q u rest ↔
      FirstCut (fun m u => indexed? M.units m = some u) (fun m => indexed? M.units m = none)
        (cuts q) u rest ∨
      (∀ c ∈ cuts q, indexed? M.units c.1 = none) ∧
        FirstCut (fun m u => M.known m = .ok (some u)) (fun m => M.known m = .ok none)
          (cuts q) u rest := by
  have indexed (found : SourceUnit × List String)
      (look : String × List String → Option (SourceUnit × List String))
      (looks : ∀ m rest, look (m, rest) = (indexed? M.units m).map (·, rest)) :
      (cuts q).findSome? look = some found ↔
        FirstCut (fun m u => indexed? M.units m = some u) (fun m => indexed? M.units m = none)
          (cuts q) found.1 found.2 := by
    rw [List.findSome?_eq_some_iff]
    constructor
    · rintro ⟨longer, ⟨m, own⟩, shorter, split, hit, passed⟩
      rw [looks] at hit
      obtain ⟨u, known, rfl⟩ := Option.map_eq_some_iff.mp hit
      exact ⟨longer, m, shorter, split, known, fun c member => by
        simpa [looks] using passed c member⟩
    · rintro ⟨longer, m, shorter, split, known, passed⟩
      exact ⟨longer, (m, found.2), shorter, split, by simp [looks, known],
        fun c member => by simp [looks, passed c member]⟩
  rw [Splits, split?]
  split
  · rename_i found hit
    have first := (indexed found _ fun _ _ => rfl).mp hit
    constructor
    · intro same
      cases same
      exact .inl first
    · rintro (other | ⟨unknown, -⟩)
      · cases hit.symm.trans ((indexed (u, rest) _ fun _ _ => rfl).mpr other)
        rfl
      · obtain ⟨longer, m, shorter, split, known, -⟩ := first
        rw [unknown (m, found.2) (by simp [split])] at known
        cases known
  · rename_i miss
    have unknown : ∀ c ∈ cuts q, indexed? M.units c.1 = none := by
      intro c member
      have missed := List.findSome?_eq_none_iff.mp miss c member
      simpa using missed
    rw [firstOutside?_eq_some_iff]
    constructor
    · exact fun first => .inr ⟨unknown, first⟩
    · rintro (other | ⟨-, first⟩)
      · cases miss.symm.trans ((indexed (u, rest) _ fun _ _ => rfl).mpr other)
      · exact first

theorem Splits.has {q : String} {u : SourceUnit} {rest : List String} (split : M.Splits q u rest) :
    M.Has u := by
  rcases splits_iff.mp split with ⟨_, m, _, _, found, _⟩ | ⟨_, _, m, _, _, found, _⟩
  · exact has_of_indexed? found
  · exact .inr ⟨m, found⟩

theorem Splits.exists_cut {q : String} {u : SourceUnit} {rest : List String}
    (split : M.Splits q u rest) : ∃ m, (m, rest) ∈ cuts q := by
  rcases splits_iff.mp split with ⟨_, m, _, at_, _⟩ | ⟨_, _, m, _, at_, _⟩ <;>
    exact ⟨m, by simp [at_]⟩

theorem Splits.suffix {q : String} {u : SourceUnit} {rest : List String}
    (split : M.Splits q u rest) : rest <:+ Dotted.segments q := by
  obtain ⟨m, member⟩ := split.exists_cut
  exact suffix_of_mem_cuts member

/-- A name that is put together is cut behind its first part, or where that part is cut. -/
theorem Splits.of_ofSegments {t : String} {tail : List String}
    (plain : ∀ s ∈ tail, Dotted.IsPlain s) {u : SourceUnit} {rest : List String}
    (split : M.Splits (Dotted.ofSegments (t :: tail)) u rest) :
    rest <:+ tail ∨ ∃ own, rest = own ++ tail ∧ M.Splits t u own := by
  have behind {m : String} (member : (m, rest) ∈ (List.range tail.length).map fun k =>
      (Dotted.ofSegments (Dotted.segments t ++ tail.take (tail.length - k)),
        tail.drop (tail.length - k))) : rest <:+ tail := by
    obtain ⟨k, _, same⟩ := List.mem_map.mp member
    cases same
    exact List.drop_suffix _ _
  rw [splits_iff, cuts_ofSegments t plain] at split
  rcases split with first | ⟨unknown, first⟩
  · rcases first.append with ⟨m, member⟩ | first
    · exact .inl (behind member)
    · obtain ⟨own, rfl, inner⟩ := first.of_map
      exact .inr ⟨own, rfl, splits_iff.mpr (.inl inner)⟩
  · rcases first.append with ⟨m, member⟩ | first
    · exact .inl (behind member)
    · obtain ⟨own, rfl, inner⟩ := first.of_map
      refine .inr ⟨own, rfl, splits_iff.mpr (.inr ⟨fun c member => ?_, inner⟩)⟩
      exact unknown (c.1, c.2 ++ tail)
        (List.mem_append_right _ (List.mem_map_of_mem (f := fun c => (c.1, c.2 ++ tail)) member))

/-! ## One redirect -/

variable (M)

/-- What a module imports under a name at its top: the target of the import that alone binds the
name, or a name of a module of which everything is imported, if nothing binds it. -/
inductive Imports (u : SourceUnit) (name : String) : String → Prop
  | own {symbol : Symbol} {binding : Binding} {target : String}
      (bound : u.topSymbol? name = some symbol) (only : symbol.definite? = some binding)
      (form : binding.form = .imported target) : Imports u name target
  | star {target : String} (unbound : u.topSymbol? name = none)
      (found : (starTarget? M.units u name).answer M.known = .ok (some target)) :
      Imports u name target

/-- The name `q` leads on to `target`, with the segments `tail` after it. -/
def Takes (q target : String) (tail : List String) : Prop :=
  ∃ u name, M.Splits q u (name :: tail) ∧ M.Imports u name target

/-- The name `q` is only an import of `next`. -/
def Step (q next : String) : Prop :=
  (redirect? M.units q).answer M.known = .ok (some next)

/-- The name `q` is known to be no import. -/
def Final (q : String) : Prop :=
  (redirect? M.units q).answer M.known = .ok none

variable {M}

theorem Step.unique {q a b : String} (first : M.Step q a) (second : M.Step q b) : a = b :=
  Option.some.inj (Except.ok.inj (first.symm.trans second))

theorem Final.not_step {q next : String} (final : M.Final q) : ¬ M.Step q next := by
  intro step
  cases final.symm.trans step

theorem target?_eq_some_iff {form : BindingForm} {target : String} :
    form.target? = some target ↔ form = .imported target := by
  cases form <;> simp [BindingForm.target?]

theorem step_iff {q next : String} :
    M.Step q next ↔
      ∃ target tail, M.Takes q target tail ∧ next = Dotted.ofSegments (target :: tail) := by
  rw [Step, redirect?, Query.answer_bind_eq_ok]
  constructor
  · rintro ⟨_ | ⟨u, _ | ⟨name, tail⟩⟩, split, given⟩
    · cases given
    · cases given
    · cases bound : u.topSymbol? name with
      | none =>
        simp only [bound] at given
        obtain ⟨_ | target, found, same⟩ := (Query.answer_bind_eq_ok _).mp given
        · cases same
        · cases same
          exact ⟨target, tail, ⟨u, name, split, .star bound found⟩, rfl⟩
      | some symbol =>
        simp only [bound, Query.answer_pure, Except.ok.injEq] at given
        obtain ⟨target, only, rfl⟩ := Option.map_eq_some_iff.mp given
        obtain ⟨binding, only, form⟩ := Option.bind_eq_some_iff.mp only
        exact ⟨target, tail, ⟨u, name, split, .own bound only (target?_eq_some_iff.mp form)⟩, rfl⟩
  · rintro ⟨target, tail, ⟨u, name, split, imports⟩, rfl⟩
    refine ⟨some (u, name :: tail), split, ?_⟩
    cases imports with
    | own bound only form => simp [bound, only, form, BindingForm.target?]
    | star unbound found =>
      simp only [unbound]
      exact (Query.answer_bind_eq_ok _).mpr ⟨some target, found, rfl⟩

/-! ## Paths -/

variable (M)

/-- Steps lead from one name to the other. -/
def Leads : String → String → Prop := Relation.ReflTransGen M.Step

/-- Steps lead from the first name to the last, and pass the names of the list before it. -/
inductive Path : String → List String → String → Prop
  | here (q : String) : Path q [] q
  | step {q next r : String} {passed : List String} (first : M.Step q next)
      (more : Path next passed r) : Path q (q :: passed) r

variable {M}

namespace Path

variable {p q r : String} {before passed : List String}

theorem append (first : M.Path p before q) (second : M.Path q passed r) :
    M.Path p (before ++ passed) r := by
  induction first with
  | here => exact second
  | step first _ ih => exact .step first (ih second)

/-- A path can be taken apart at a name that it passes. -/
theorem split (path : M.Path p passed r) (member : q ∈ passed) :
    ∃ before after, passed = before ++ q :: after ∧ M.Path p before q ∧
      M.Path q (q :: after) r := by
  induction path with
  | here => exact absurd member List.not_mem_nil
  | @step p next r passed first more ih =>
    rcases List.mem_cons.mp member with rfl | member
    · exact ⟨[], passed, rfl, .here q, .step first more⟩
    · obtain ⟨before, after, rfl, reached, rest⟩ := ih member
      exact ⟨p :: before, after, rfl, .step first reached, rest⟩

/-- A path can be stopped at any place. -/
theorem take (path : M.Path p passed r) (n : Nat) : ∃ q, M.Path p (passed.take n) q := by
  induction path generalizing n with
  | here q => exact ⟨q, by simpa using Path.here q⟩
  | @step p next r passed first _ ih =>
    cases n with
    | zero => exact ⟨p, .here p⟩
    | succ n =>
      obtain ⟨q, start⟩ := ih n
      exact ⟨q, .step first start⟩

/-- All paths to names without a step are the same. -/
theorem eq_of_final {r' : String} {passed' : List String} (first : M.Path p passed r)
    (second : M.Path p passed' r') (final : M.Final r) (final' : M.Final r') :
    passed = passed' := by
  induction first generalizing passed' with
  | here =>
    cases second with
    | here => rfl
    | step step _ => exact absurd step final.not_step
  | step step _ ih =>
    cases second with
    | here => exact absurd step final'.not_step
    | step step' more' =>
      cases step.unique step'
      rw [ih more' final]

/-- A path to a name without a step passes no name twice. -/
theorem nodup_of_final (path : M.Path p passed r) (final : M.Final r) : passed.Nodup := by
  induction path with
  | here => exact List.nodup_nil
  | @step p next r passed first more ih =>
    refine List.nodup_cons.mpr ⟨fun again => ?_, ih final⟩
    obtain ⟨before, after, rfl, -, rest⟩ := more.split again
    -- the path goes on from the second place as it did from the first
    have same := (Path.step first more).eq_of_final rest final final
    have lengths := congrArg List.length same
    simp at lengths
    omega

end Path

theorem leads_iff {p r : String} : M.Leads p r ↔ ∃ passed, M.Path p passed r := by
  constructor
  · intro leads
    induction leads using Relation.ReflTransGen.head_induction_on with
    | refl => exact ⟨[], .here r⟩
    | head first _ ih =>
      obtain ⟨passed, more⟩ := ih
      exact ⟨_, .step first more⟩
  · rintro ⟨passed, path⟩
    induction path with
    | here => exact .refl
    | step first _ ih => exact ih.head first

/-! ## The loop -/

theorem canonicalFrom_succ (units : List SourceUnit) (limit : Nat) {seen : List String} {q : String}
    (new : q ∉ seen) :
    canonicalFrom units (limit + 1) seen q = (do
      match ← redirect? units q with
      | none => return q
      | some next => canonicalFrom units limit (q :: seen) next) := by
  rw [canonicalFrom]
  exact if_neg (by simpa using new)

theorem canonicalFrom_of_mem (units : List SourceUnit) (limit : Nat) {seen : List String}
    {q : String} (old : q ∈ seen) : canonicalFrom units (limit + 1) seen q = pure q := by
  rw [canonicalFrom, if_pos (by simpa using old)]

/-- The loop goes along a path that passes no name twice. -/
theorem answer_canonicalFrom_of_path {p r : String} {passed seen : List String}
    (path : M.Path p passed r) (distinct : passed.Nodup) (new : ∀ q ∈ passed, q ∉ seen)
    (limit : Nat) :
    (canonicalFrom M.units (limit + passed.length) seen p).answer M.known =
      (canonicalFrom M.units limit (passed.reverse ++ seen) r).answer M.known := by
  induction path generalizing seen with
  | here => rfl
  | @step p next r passed first more ih =>
    obtain ⟨unseen, new⟩ := List.forall_mem_cons.mp new
    obtain ⟨once, distinct⟩ := List.nodup_cons.mp distinct
    have new' : ∀ q ∈ passed, q ∉ p :: seen := by
      intro q member
      rw [List.mem_cons, not_or]
      exact ⟨fun same => once (same ▸ member), new q member⟩
    have stepped : (redirect? M.units p).answer M.known = .ok (some next) := first
    rw [List.length_cons, ← Nat.add_assoc, canonicalFrom_succ M.units _ unseen, Query.answer_bind,
      stepped, List.reverse_cons, List.append_assoc, List.singleton_append]
    exact ih distinct new'

/-- The loop does not get to the end of a path that is too long. -/
theorem answer_canonicalFrom_of_long {p r : String} {passed seen : List String}
    (path : M.Path p passed r) (distinct : passed.Nodup) (new : ∀ q ∈ passed, q ∉ seen)
    {limit : Nat} (long : limit ≤ passed.length) :
    (canonicalFrom M.units limit seen p).answer M.known = .error .endless := by
  obtain ⟨q, start⟩ := path.take limit
  have stopped := answer_canonicalFrom_of_path start (distinct.sublist (List.take_sublist _ _))
    (fun q member => new q (List.mem_of_mem_take member)) 0
  rw [Nat.zero_add, List.length_take, Nat.min_eq_left long] at stopped
  exact stopped

/-- The loop ends at a name exactly if a path leads there that passes nothing twice and is short
enough, and the name has no step or was met before. -/
theorem canonicalFrom_eq_ok_iff {limit : Nat} {seen : List String} {p r : String} :
    (canonicalFrom M.units limit seen p).answer M.known = .ok r ↔
      ∃ passed, M.Path p passed r ∧ passed.Nodup ∧ (∀ q ∈ passed, q ∉ seen) ∧
        passed.length < limit ∧ (M.Final r ∨ r ∈ passed ∨ r ∈ seen) := by
  constructor
  · intro ended
    induction limit generalizing seen p with
    | zero => cases ended
    | succ limit ih =>
      by_cases old : p ∈ seen
      · rw [canonicalFrom_of_mem M.units limit old] at ended
        cases ended
        exact ⟨[], .here r, List.nodup_nil, by simp, by simp, .inr (.inr old)⟩
      · rw [canonicalFrom_succ M.units limit old, Query.answer_bind_eq_ok] at ended
        obtain ⟨_ | next, asked, ended⟩ := ended
        · cases ended
          exact ⟨[], .here r, List.nodup_nil, by simp, by simp, .inl asked⟩
        · obtain ⟨passed, path, distinct, new, short, last⟩ := ih ended
          refine ⟨p :: passed, .step asked path, ?_, ?_, by simpa using short, ?_⟩
          · exact List.nodup_cons.mpr ⟨fun member => new p member List.mem_cons_self, distinct⟩
          · refine List.forall_mem_cons.mpr ⟨old, fun q member inside => ?_⟩
            exact new q member (List.mem_cons_of_mem p inside)
          · rcases last with final | member | member
            · exact .inl final
            · exact .inr (.inl (List.mem_cons_of_mem p member))
            · rcases List.mem_cons.mp member with rfl | member
              · exact .inr (.inl List.mem_cons_self)
              · exact .inr (.inr member)
  · rintro ⟨passed, path, distinct, new, short, last⟩
    obtain ⟨left, rfl⟩ : ∃ left, limit = left + 1 + passed.length :=
      ⟨limit - passed.length - 1, by omega⟩
    rw [answer_canonicalFrom_of_path path distinct new]
    by_cases old : r ∈ passed.reverse ++ seen
    · rw [canonicalFrom_of_mem M.units left old, Query.answer_pure]
    · have final : M.Final r := by
        rcases last with final | member | member
        · exact final
        · exact absurd (List.mem_append_left _ (List.mem_reverse.mpr member)) old
        · exact absurd (List.mem_append_right _ member) old
      rw [canonicalFrom_succ M.units left old, Query.answer_bind_eq_ok]
      exact ⟨none, final, rfl⟩

theorem canonical_eq_ok_iff {p r : String} :
    (canonical M.units p).answer M.known = .ok r ↔
      ∃ passed, M.Path p passed r ∧ passed.Nodup ∧ passed.length < maxRedirects ∧
        (M.Final r ∨ r ∈ passed) := by
  rw [canonical, canonicalFrom_eq_ok_iff]
  simp

/-- Following imports from where they lead gives the same name: there the path ends, or it is on
the circle that the path ran into. -/
theorem canonicalFrom_idem {limit : Nat} {p r : String}
    (ended : (canonicalFrom M.units limit [] p).answer M.known = .ok r) :
    (canonicalFrom M.units limit [] r).answer M.known = .ok r := by
  obtain ⟨passed, path, distinct, -, short, last⟩ := canonicalFrom_eq_ok_iff.mp ended
  rw [canonicalFrom_eq_ok_iff]
  rcases last with final | member | member
  · exact ⟨[], .here r, List.nodup_nil, by simp, Nat.zero_lt_of_lt short, .inl final⟩
  · obtain ⟨before, after, rfl, -, round⟩ := path.split member
    refine ⟨r :: after, round, (List.nodup_append.mp distinct).2.1, by simp, ?_,
      .inr (.inl List.mem_cons_self)⟩
    rw [List.length_append] at short
    omega
  · cases member

end Modules

end Catalog.Resolve
