import Catalog.Proofs.Resolve.Vocabulary
import Catalog.Proofs.Source.Sizes

/-!
# What imports come to

The target of an import is written in the module that imports, in full or, if the import is
relative, from one of the packages around the module on. So it begins with a part of the module's
own name, which may be empty, and goes on with names that stand in the text. These are identifiers
of the language, and in the modules of one set there are only finitely many of them.
-/

namespace Catalog

open Syntax

/-! ## Relative names -/

namespace ModuleName

theorem segments_package (m : Identity) :
    m.package = "" ∨ Dotted.segments m.package <+: Dotted.segments m.name := by
  rw [Identity.package]
  split
  · exact .inr (List.prefix_refl _)
  · rw [Dotted.parent]
    by_cases none : (Dotted.segments m.name).dropLast = []
    · exact .inl (by rw [none]; rfl)
    · rw [Dotted.segments_ofSegments_of_isPlain none fun s member =>
        Dotted.isPlain_of_mem_segments s (List.mem_of_mem_dropLast member)]
      exact .inr (List.dropLast_prefix _)

/-- The absolute name of a module is a part of the package that the level leads to, which may be
empty, and the name that is given. -/
theorem exists_kept_of_absolute? {module : Option String} {level : Int} {package m : String}
    (named : absolute? module level package = some m) :
    ∃ kept, (kept = [] ∨ package ≠ "" ∧ kept <+: Dotted.segments package) ∧
      Dotted.segments m = kept ++ if module.getD "" = "" then [] else
        Dotted.segments (module.getD "") := by
  have given {s : String} (found : (if s.isEmpty then none else some s) = some m) :
      s ≠ "" ∧ s = m := by
    split at found
    · cases found
    · rename_i held
      cases found
      exact ⟨by simpa using held, rfl⟩
  rw [absolute?] at named
  dsimp only at named
  split at named
  · obtain ⟨held, rfl⟩ := given named
    exact ⟨[], .inl rfl, by rw [if_neg held, List.nil_append]⟩
  · generalize pieces : (if package.isEmpty then [] else Dotted.segments package) = base at named
    split at named
    · cases named
    · obtain ⟨held, rfl⟩ := given named
      have above : base = [] ∨ package ≠ "" ∧ base = Dotted.segments package := by
        rw [← pieces]
        split
        · exact .inl rfl
        · rename_i held
          exact .inr ⟨by simpa using held, rfl⟩
      have plain : ∀ s ∈ base, Dotted.IsPlain s := by
        rcases above with rfl | ⟨-, rfl⟩
        · exact List.forall_mem_nil _
        · exact Dotted.isPlain_of_mem_segments
      generalize base.length - (level - 1).toNat = count at held ⊢
      have kept : ∀ s ∈ base.take count, Dotted.IsPlain s := fun s member =>
        plain s (List.mem_of_mem_take member)
      refine ⟨base.take count, ?_, ?_⟩
      · rcases above with rfl | ⟨some, rfl⟩
        · exact .inl List.take_nil
        · exact .inr ⟨some, List.take_prefix _ _⟩
      · by_cases bare : module.getD "" = ""
        · simp only [bare, String.isEmpty_iff, if_true, List.append_nil] at held ⊢
          refine Dotted.segments_ofSegments_of_isPlain (fun none => held ?_) kept
          rw [none]
          rfl
        · simp only [bare, String.isEmpty_iff, if_false]
          refine Dotted.segments_ofSegments_of_isPlain ?_ (List.forall_mem_append.mpr
            ⟨kept, Dotted.isPlain_of_mem_segments⟩)
          exact List.append_ne_nil_of_right_ne_nil _ (Dotted.segments_ne_nil _)

end ModuleName

namespace Resolve

open Dotted

/-- The name is a part of `m` from its beginning on, which may be empty, followed by components of
bounded size. -/
def Extends (most : Nat) (m target : String) : Prop :=
  ∃ kept own, segments target = kept ++ own ∧ kept <+: segments m ∧
    (∀ s ∈ own, ModuleName.IsComponent s) ∧ size own ≤ most

namespace Extends

variable {most : Nat} {m target : String}

theorem of_isImportable (importable : ModuleName.IsImportable target)
    (short : size (segments target) ≤ most) : Extends most m target :=
  ⟨[], segments target, rfl, List.nil_prefix, importable, short⟩

theorem mono {more : Nat} (ext : Extends most m target) (le : most ≤ more) :
    Extends more m target := by
  obtain ⟨kept, own, parts, front, components, short⟩ := ext
  exact ⟨kept, own, parts, front, components, short.trans le⟩

theorem append_dot (ext : Extends most m target) {s : String}
    (component : ModuleName.IsComponent s) (short : size (segments s) ≤ most) :
    Extends (most + most) m (target ++ "." ++ s) := by
  obtain ⟨kept, own, parts, front, components, small⟩ := ext
  refine ⟨kept, own ++ segments s, ?_, front, ?_, ?_⟩
  · rw [segments_append_dot, parts, List.append_assoc]
  · exact List.forall_mem_append.mpr ⟨components, component.isImportable⟩
  · rw [size_append]
    exact Nat.add_le_add small short

theorem size_le (ext : Extends most m target) :
    size (segments target) ≤ size (segments m) + most := by
  obtain ⟨kept, own, parts, front, -, short⟩ := ext
  rw [parts, size_append]
  exact Nat.add_le_add (size_le_of_front front) short

theorem count_le (ext : Extends most m target) :
    (segments target).count "" ≤ (segments m).count "" := by
  obtain ⟨kept, own, parts, front, components, -⟩ := ext
  have named : own.count "" = 0 :=
    List.count_eq_zero.mpr fun blank => (components "" blank).some rfl
  rw [parts, List.count_append, named]
  exact front.sublist.count_le ""

theorem anchored (ext : Extends most m target) {front : Nat}
    (before : Anchored front (segments m)) : Anchored front (segments target) := by
  obtain ⟨kept, own, parts, first, components, -⟩ := ext
  rw [parts]
  exact (before.of_prefix first).append components

end Extends

/-! ## Imports -/

/-- The words of a node that can be part of what is imported: those that it imports, and the names
that it binds. -/
def importWords (n : Node) : List String := n.accessed ++ n.boundNames

section

variable {u : SourceUnit} {n : Node} {target : String} {most : Nat} (read : u.IsRead)
  (short : ∀ n ∈ Node.preorder u.body, ∀ w ∈ importWords n, size (segments w) ≤ most)
include read short

theorem extends_of_importsFrom (inside : n ∈ Node.preorder u.body)
    (imports : n.ImportsFrom u.package target) : Extends most u.moduleName target := by
  obtain ⟨c, shape⟩ := SourceUnit.exists_shaped read inside
  obtain ⟨named⟩ := imports
  rename_i info names module level
  obtain ⟨kept, front, parts⟩ := ModuleName.exists_kept_of_absolute? named
  have above : kept <+: segments u.moduleName := by
    rcases front with rfl | ⟨some, front⟩
    · exact List.nil_prefix
    · exact front.trans ((ModuleName.segments_package u.identity).resolve_left some)
  have importable : ∀ m ∈ module, ModuleName.IsImportable m := shape.isImportable_of_importFrom
  refine ⟨kept, _, parts, above, ?_⟩
  split
  · exact ⟨nofun, Nat.zero_le _⟩
  · rename_i some
    cases module with
    | none => exact absurd rfl some
    | some m =>
      exact ⟨importable m rfl, short _ inside m (List.mem_append_left _ (by simp [Node.accessed]))⟩

theorem extends_of_imports (inside : n ∈ Node.preorder u.body)
    (imports : n.Imports u.package target) : Extends (most + most) u.moduleName target := by
  obtain ⟨c, shape⟩ := SourceUnit.exists_shaped read inside
  have written {info : Info} {label : String} {asName : Option String}
      (one : .importAlias info label asName ∈ n.children) : size (segments label) ≤ most :=
    short (.importAlias info label asName) (Node.mem_preorder_of_child inside one) label
      (List.mem_append_left _ (List.mem_singleton_self label))
  cases imports with
  | module one =>
    exact (Extends.of_isImportable (shape.isImportable_of_importModules one) (written one)).mono
      (Nat.le_add_right most most)
  | @package _ _ _ label one =>
    have importable := shape.isImportable_of_importModules one
    refine (Extends.of_isImportable importable.head.isImportable ?_).mono
      (Nat.le_add_right most most)
    rw [segments_of_isPlain importable.head.plain]
    exact (size_head_le label).trans (written one)
  | member named one =>
    exact (extends_of_importsFrom read short inside (.intro named)).append_dot
      (shape.isComponent_of_importFrom one) (written one)

end

namespace Modules

variable {M : Modules}

theorem answer_unitFor? {m : String} {u : SourceUnit}
    (found : (unitFor? M.units m).answer M.known = .ok (some u)) : M.Has u := by
  rw [unitFor?] at found
  split at found
  · rename_i indexed
    cases found
    exact has_of_indexed? indexed
  · split at found
    · cases found
    · rw [Query.outside, Query.answer] at found
      split at found
      · rename_i answer known
        cases found
        exact .inr ⟨m, known⟩
      · cases found

/-- What everything is imported from is a module that binds the name. -/
theorem exists_of_starTarget? {u : SourceUnit} {name target : String}
    (found : (starTarget? M.units u name).answer M.known = .ok (some target)) :
    ∃ m ∈ u.topScope.stars, ∃ origin, M.Has origin ∧ origin.topScope.binds name = true ∧
      target = m ++ "." ++ name := by
  rw [starTarget?] at found
  generalize u.topScope.stars = stars at found ⊢
  induction stars with
  | nil => cases found
  | cons m rest ih =>
    have further (found : (starTargetIn? M.units name rest).answer M.known = .ok (some target)) :
        ∃ m' ∈ m :: rest, ∃ origin, M.Has origin ∧ origin.topScope.binds name = true ∧
          target = m' ++ "." ++ name := by
      obtain ⟨m', member, star⟩ := ih found
      exact ⟨m', List.mem_cons_of_mem m member, star⟩
    rw [starTargetIn?, Query.answer_bind_eq_ok] at found
    obtain ⟨_ | origin, known, found⟩ := found
    · exact further found
    · dsimp only at found
      split at found
      · rename_i visible
        cases found
        exact ⟨m, List.mem_cons_self, origin, answer_unitFor? known,
          (Bool.and_eq_true_iff.mp visible).1, rfl⟩
      · exact further found

end Modules

/-- In a set in use, what a module imports begins with a part of its name and goes on with
components, which are bounded for all modules together. -/
theorem exists_extends {tree : FileTree} {s : SourceSet} (reached : s.Reached tree) :
    ∃ most, ∀ u name target, (Modules.ofSources tree s).Has u →
      (Modules.ofSources tree s).Imports u name target → Extends most u.moduleName target := by
  obtain ⟨longest, bound⟩ := reached.exists_longest importWords
  refine ⟨longest + longest, fun u name target has imports => ?_⟩
  have read := Modules.isRead_of_has reached has
  cases imports with
  | @own _ b _ top only form =>
    have only : definite? u (atTop name) = some b := by
      rw [definite?_atTop, top]
      exact only
    have made := (SourceUnit.made_of_definite? read only).2.1
    rw [form] at made
    obtain ⟨n, inside, imports⟩ := made
    exact extends_of_imports read (bound u has) inside imports
  | star unbound found =>
    obtain ⟨m, star, origin, known, binds, rfl⟩ := Modules.exists_of_starTarget? found
    obtain ⟨n, inside, imports⟩ := SourceUnit.exists_importsFrom read star
    have read' := Modules.isRead_of_has reached known
    obtain ⟨symbol, top⟩ := Option.isSome_iff_exists.mp binds
    have top : origin.scopes.symbol? (atTop name) = some symbol := by
      rw [symbol?_atTop]
      exact top
    obtain ⟨n', inside', own⟩ := SourceUnit.exists_mem_boundNames read' top
    exact (extends_of_importsFrom read (bound u has) inside imports).append_dot
      (SourceUnit.isComponent_of_symbol? read' top)
      (bound origin known n' inside' name (List.mem_append_right _ own))

end Resolve

end Catalog
