import Catalog.Proofs.Resolve.Failures
import Catalog.Proofs.Resolve.Targets

/-!
# Following imports comes to an end

Every step adds a name to those that were met, but a redirect may make a name longer, so that alone
does not bound the loop. What bounds it is the rest of the name: as long as no redirect leads to a
name with two or more segments behind its module, the segments that a step leaves over are always
the last ones of the name at the start.

The other part of the name is then the target of an import. It cannot grow for ever either: a step
leaves all segments behind the target over unless the module has all of the target in its name but
the last segment, and the module stands in a file, whose path is bounded. This bounds the module's
name but for two kinds of segments. There are no more empty ones than at the start, since a target
has only those that it takes from the name of the importing module. And a segment with a slash comes
from the name at the start, too; the segments before the last one of these are those of an earlier
target.
-/

namespace Catalog.Resolve

open Dotted

namespace Modules

variable {M : Modules}

/-! ## Names that imports come to -/

theorem segments_of_splits {tree : FileTree} {s : SourceSet} (reached : s.Reached tree)
    {q : String} {u : SourceUnit} {rest : List String}
    (split : (ofSources tree s).Splits q u rest) :
    segments q = segments u.moduleName ++ rest := by
  rcases splits_iff.mp split with ⟨_, m, _, cut, found, _⟩ | ⟨_, _, m, _, cut, found, _⟩
  · rw [(mem_of_indexed? found).2.1]
    exact mem_cuts_iff.mp (by simp [cut])
  · rw [(reached.isKept.of_answers found).named]
    exact mem_cuts_iff.mp (by simp [cut])

section

variable (most room : Nat) (q : String)

/-- How much longer a target gets than the segments up to its last one with a slash. -/
def growth : Nat := room + (segments q).count "" + most

/-- How long the target may be, up to its last segment with a slash, while the segments behind it
are the last `left` ones of the name at the start. -/
def reach (left : Nat) : Nat :=
  size (segments q) + most +
    ((segments q).length - left) * (growth most room q + size (segments q) + most)

theorem le_reach (left : Nat) : size (segments q) + most ≤ reach most room q left :=
  Nat.le_add_right _ _

theorem reach_le_zero (left : Nat) : reach most room q left ≤ reach most room q 0 :=
  Nat.add_le_add_left (Nat.mul_le_mul_right _ (Nat.sub_le_sub_left (Nat.zero_le left) _)) _

/-- Whenever fewer segments are left, the target may be longer. -/
theorem reach_le {left fewer : Nat} (less : fewer < left) (le : left ≤ (segments q).length) :
    reach most room q left + (growth most room q + size (segments q) + most) ≤
      reach most room q fewer := by
  have steps : (segments q).length - left + 1 ≤ (segments q).length - fewer := by omega
  have product := Nat.mul_le_mul_right (growth most room q + size (segments q) + most) steps
  rw [Nat.succ_mul] at product
  rw [reach, reach]
  omega

variable (M)

/-- The target of an import, which leaves at most one segment behind its module, and last segments
of `q`. -/
structure Arrives (target : String) (tail : List String) : Prop where
  short : ∀ u rest, M.Splits target u rest → rest.length ≤ 1
  last : tail <:+ segments q
  anchored : Anchored (reach most room q tail.length) (segments target)
  small : size (segments target) ≤ reach most room q tail.length + growth most room q
  blanks : (segments target ++ tail).count "" ≤ (segments q).count ""

/-- The name is `q` itself, or put together from a target and last segments of `q`. -/
def Bounded (p : String) : Prop :=
  p = q ∨ ∃ target tail, M.Arrives most room q target tail ∧ p = ofSegments (target :: tail)

end

variable {most room : Nat} {q m target : String} {tail : List String}

theorem Arrives.of_size_le (ext : Extends most m target)
    (short : ∀ u rest, M.Splits target u rest → rest.length ≤ 1) (last : tail <:+ segments q)
    (fits : size (segments m) + most ≤ reach most room q tail.length)
    (blanks : (segments m ++ tail).count "" ≤ (segments q).count "") :
    M.Arrives most room q target tail := by
  have fits := ext.size_le.trans fits
  refine ⟨short, last, .of_size_le fits, fits.trans (Nat.le_add_right _ _), ?_⟩
  rw [List.count_append] at blanks ⊢
  exact (Nat.add_le_add_right ext.count_le _).trans blanks

theorem Arrives.of_anchored (ext : Extends most m target)
    (short : ∀ u rest, M.Splits target u rest → rest.length ≤ 1) (last : tail <:+ segments q)
    (anchored : Anchored (reach most room q tail.length) (segments m))
    (fits : size (segments m) ≤ reach most room q tail.length + room + (segments m).count "")
    (blanks : (segments m ++ tail).count "" ≤ (segments q).count "") :
    M.Arrives most room q target tail := by
  rw [List.count_append] at blanks
  refine ⟨short, last, ext.anchored anchored, ?_, ?_⟩
  · have size := ext.size_le
    rw [growth]
    omega
  · rw [List.count_append]
    exact (Nat.add_le_add_right ext.count_le _).trans blanks

theorem isPlain_of_suffix (last : tail <:+ segments q) : ∀ s ∈ tail, IsPlain s :=
  fun s member => isPlain_of_mem_segments s (last.mem member)

/-- A step goes into the segments behind the target, or takes its last segment only. -/
theorem Arrives.cut {tree : FileTree} {s : SourceSet} (reached : s.Reached tree)
    (arrives : (ofSources tree s).Arrives most room q target tail) {u : SourceUnit}
    {name : String} {rest : List String}
    (split : (ofSources tree s).Splits (ofSegments (target :: tail)) u (name :: rest)) :
    name :: rest <:+ tail ∨ rest = tail ∧ segments target = segments u.moduleName ++ [name] := by
  rcases split.of_ofSegments (isPlain_of_suffix arrives.last) with inside | ⟨own, same, inner⟩
  · exact .inl inside
  · have few := arrives.short u own inner
    match own, same with
    | [], same => exact .inl (same ▸ List.suffix_refl _)
    | [s], same =>
      cases same
      exact .inr ⟨rfl, segments_of_splits reached inner⟩
    | s :: s' :: more, _ => simp at few

/-- What a step from a bounded name leads to is bounded. -/
theorem Bounded.step {tree : FileTree} {s : SourceSet} (reached : s.Reached tree)
    (targets : ∀ u name target, (ofSources tree s).Has u →
      (ofSources tree s).Imports u name target → Extends most u.moduleName target)
    (names : ∀ u, (ofSources tree s).Has u → ∀ front, Anchored front (segments u.moduleName) →
      size (segments u.moduleName) ≤ front + room + (segments u.moduleName).count "")
    {p next : String} (bounded : (ofSources tree s).Bounded most room q p)
    (step : (ofSources tree s).Step p next)
    (short : ∀ target tail u rest, (ofSources tree s).Takes p target tail →
      (ofSources tree s).Splits target u rest → rest.length ≤ 1) :
    (ofSources tree s).Bounded most room q next := by
  obtain ⟨target', tail', takes, rfl⟩ := step_iff.mp step
  obtain ⟨u, name, split, imports⟩ := id takes
  have ext := targets u name target' split.has imports
  have parts := segments_of_splits reached split
  have single : ∀ u rest, (ofSources tree s).Splits target' u rest → rest.length ≤ 1 :=
    fun u rest => short target' tail' u rest takes
  have less : (segments u.moduleName ++ tail').Sublist (segments u.moduleName ++ name :: tail') :=
    (List.sublist_cons_self name tail').append_left _
  refine .inr ⟨target', tail', ?_, rfl⟩
  rcases bounded with rfl | ⟨target, tail, arrives, rfl⟩
  · have size := size_le_of_front (parts ▸ List.prefix_append _ _)
    refine .of_size_le ext single ?_ ?_ (parts ▸ less.count_le "")
    · exact (List.suffix_cons name tail').trans split.suffix
    · exact (Nat.add_le_add_right size most).trans (le_reach _ _ _ _)
  · rw [segments_ofSegments target (isPlain_of_suffix arrives.last)] at parts
    have blanks := (less.count_le "").trans (parts ▸ arrives.blanks)
    rcases arrives.cut reached split with inside | ⟨rfl, whole⟩
    · have last := (List.suffix_cons name tail').trans inside
      refine .of_size_le ext single (last.trans arrives.last) ?_ blanks
      have fewer := reach_le most room q inside.length_le arrives.last.length_le
      have size := size_le_of_front (parts ▸ List.prefix_append _ _ :
        segments u.moduleName <+: segments target ++ tail)
      have size' := size_le_of_suffix arrives.last
      have small := arrives.small
      rw [size_append] at size
      omega
    · have anchored := arrives.anchored.of_prefix (whole ▸ List.prefix_append _ _)
      exact .of_anchored ext single arrives.last anchored (names u split.has _ anchored) blanks

/-- As long as no redirect leads to a longer rest, imports come to bounded names only. -/
theorem bounded_of_leads {tree : FileTree} {s : SourceSet} (reached : s.Reached tree)
    (targets : ∀ u name target, (ofSources tree s).Has u →
      (ofSources tree s).Imports u name target → Extends most u.moduleName target)
    (names : ∀ u, (ofSources tree s).Has u → ∀ front, Anchored front (segments u.moduleName) →
      size (segments u.moduleName) ≤ front + room + (segments u.moduleName).count "")
    {p : String} (leads : (ofSources tree s).Leads q p)
    (short : ∀ p target tail u rest, (ofSources tree s).Leads q p →
      (ofSources tree s).Takes p target tail → (ofSources tree s).Splits target u rest →
        rest.length ≤ 1) : (ofSources tree s).Bounded most room q p := by
  induction leads with
  | refl => exact .inl rfl
  | @tail p next leads step ih =>
    exact ih.step reached targets names step fun target tail u rest =>
      short p target tail u rest leads

theorem finite_bounded (most room : Nat) (q : String) :
    {p | M.Bounded most room q p}.Finite := by
  refine ((Set.finite_singleton q).union (Set.Finite.image2
    (fun target tail => ofSegments (target :: tail))
    (finite_size_le (reach most room q 0 + growth most room q))
    (List.finite_toSet (segments q).tails))).subset ?_
  rintro p (same | ⟨target, tail, arrives, rfl⟩)
  · exact .inl same
  · have small := arrives.small.trans (Nat.add_le_add_right (reach_le_zero most room q _) _)
    exact .inr ⟨target, small, tail, (List.mem_tails tail _).mpr arrives.last, rfl⟩

/-! ## The loop -/

/-- The loop does not meet more names than there are to come to. -/
theorem answer_canonicalFrom_ne_endless (ends : ∀ m, M.known m ≠ .error .endless)
    {S : Finset String} {limit : Nat} {seen : List String} {p : String} (distinct : seen.Nodup)
    (met : ∀ q ∈ seen, q ∈ S) (inside : ∀ r, M.Leads p r → r ∈ S)
    (enough : S.card < limit + seen.length) :
    (canonicalFrom M.units limit seen p).answer M.known ≠ .error .endless := by
  induction limit generalizing seen p with
  | zero =>
    have few : seen.length ≤ S.card := by
      rw [← List.toFinset_card_of_nodup distinct]
      exact Finset.card_le_card fun q member => met q (List.mem_toFinset.mp member)
    omega
  | succ limit ih =>
    by_cases old : p ∈ seen
    · rw [canonicalFrom_of_mem M.units limit old, Query.answer_pure]
      exact fun failed => by cases failed
    · rw [canonicalFrom_succ M.units limit old, Query.answer_bind]
      cases asked : (redirect? M.units p).answer M.known with
      | error cause =>
        obtain never | ⟨m, failed⟩ :=
          (failsOnly_redirect? (P := fun _ => False) M.units p).cause asked
        · exact never.elim
        · intro same
          cases same
          exact ends m failed
      | ok found =>
        cases found with
        | none => exact fun failed => by cases failed
        | some next =>
          have distinct' : (p :: seen).Nodup := List.nodup_cons.mpr ⟨old, distinct⟩
          have met' : ∀ q ∈ p :: seen, q ∈ S := List.forall_mem_cons.mpr ⟨inside p .refl, met⟩
          refine ih distinct' met' (fun r leads => inside r (leads.head asked)) ?_
          rw [List.length_cons]
          omega

end Modules

open Modules in
/-- In a set in use, following imports from a name ends after finitely many steps, unless a redirect
on the way leads to a name with two or more segments behind its module. The modules on the way may
be those of the repository, and those that are loaded from the search paths. -/
theorem following_ends (tree : FileTree) (sources : SourceSet) (reached : sources.Reached tree)
    (q : String) :
    (∃ most, ∀ limit, most < limit →
      (SourceSet.run tree (canonicalFrom sources.units limit [] q) sources).1 ≠
        .error .endless) ∨
    ∃ p target tail u rest, (ofSources tree sources).Leads q p ∧
      (ofSources tree sources).Takes p target tail ∧
      (ofSources tree sources).Splits target u rest ∧ 2 ≤ rest.length := by
  by_cases long : ∃ p target tail u rest, (ofSources tree sources).Leads q p ∧
      (ofSources tree sources).Takes p target tail ∧
      (ofSources tree sources).Splits target u rest ∧ 2 ≤ rest.length
  · exact .inr long
  · have short : ∀ p target tail u rest, (ofSources tree sources).Leads q p →
        (ofSources tree sources).Takes p target tail →
        (ofSources tree sources).Splits target u rest → rest.length ≤ 1 := by
      intro p target tail u rest leads takes split
      by_contra more
      exact long ⟨p, target, tail, u, rest, leads, takes, split, by omega⟩
    obtain ⟨most, targets⟩ := exists_extends reached
    obtain ⟨room, modules⟩ := reached.exists_room
    have names := finite_bounded (M := ofSources tree sources) most room q
    refine .inl ⟨names.toFinset.card, fun limit enough => ?_⟩
    rw [SourceSet.run_fst]
    refine answer_canonicalFrom_ne_endless (M := ofSources tree sources) ?_ List.nodup_nil
      (by simp) (fun r leads => ?_) enough
    · intro m failed
      obtain ⟨_, _, _, _, refuses⟩ := SourceSet.refuses_of_answers failed
      cases refuses
    · exact names.mem_toFinset.mpr (bounded_of_leads reached targets modules leads short)

/-- Two modules that import the same name from each other. -/
def circleTree : FileTree :=
  .ofTexts [("a.py", "from k import x\n"), ("k.py", "from a import x\n")]

/-- The first of the modules is the only one of the repository. The other one is found where the
search path leads. -/
def circle : SourceSet :=
  { SourceSet.ofTexts [("a.py", "from k import x\n")] with searchPaths := [{}] }

theorem reached_circle : circle.Reached circleTree := by
  have stand : ∀ f ∈ [("a.py", "from k import x\n")],
      circleTree.readText (({} : Path) / f.1) = .ok f.2 := by
    intro f member
    obtain rfl := List.mem_singleton.mp member
    exact FileTree.readText_ofTexts (by decide) List.mem_cons_self (by decide)
  exact .load (SourceSet.loadFiles_searching stand (by decide +kernel) [{}])

theorem exists_loads_circle : ∃ u, circle.Loads circleTree "k" u := by
  have plain : circleTree.IsPlain := by decide
  have package : circleTree.isFile { parts := ["k", "__init__.py"] } = .ok false :=
    plain.isFile (by decide)
  have text : circleTree.readText { parts := ["k.py"] } = .ok "from a import x\n" :=
    plain.readText (by decide) rfl (by decide)
  exact SourceSet.exists_loads (by decide) package (plain.isFile (by decide)) text
    (by decide +kernel)

/-- Following the imports of a module that is loaded from a search path comes to an end. -/
theorem following_ends_circle :
    circle.Reached circleTree ∧ (∃ u, circle.answers circleTree "k" = .ok (some u)) ∧
    ((∃ most, ∀ limit, most < limit →
      (SourceSet.run circleTree (canonicalFrom circle.units limit [] "a.x") circle).1 ≠
        .error .endless) ∨
    ∃ p target tail u rest, (Modules.ofSources circleTree circle).Leads "a.x" p ∧
      (Modules.ofSources circleTree circle).Takes p target tail ∧
      (Modules.ofSources circleTree circle).Splits target u rest ∧ 2 ≤ rest.length) := by
  obtain ⟨u, loads⟩ := exists_loads_circle
  have answered := reached_circle.inUse.keeps.answers_eq_some_iff.mpr loads
  exact ⟨reached_circle, ⟨u, answered⟩, following_ends circleTree circle reached_circle "a.x"⟩

end Catalog.Resolve
