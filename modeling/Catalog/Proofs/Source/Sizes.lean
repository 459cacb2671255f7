import Catalog.Proofs.FileTree.Frame
import Catalog.Proofs.Resolve.Splitting
import Catalog.Proofs.Source.Reached
import Mathlib.Data.Set.Finite.Lattice
import Mathlib.Data.Set.Finite.List

/-!
# How long the names of modules are

A path that is too long leads to no file. So the name of a module that is loaded from a directory is
no longer than a path, but for two kinds of segments: empty ones leave the path as it is, and one
with a slash may begin a new path, and then those before it do not count.

One file can be loaded under many names. But a tree holds finitely many texts, so there are
finitely many modules if their names are left aside.
-/

namespace Catalog

namespace Dotted

/-- The bytes of a dotted name with the given segments, and one more. -/
def size (parts : List String) : Nat := (parts.map fun s => s.utf8ByteSize + 1).sum

@[simp] theorem size_nil : size [] = 0 := rfl

@[simp] theorem size_cons (s : String) (rest : List String) :
    size (s :: rest) = s.utf8ByteSize + 1 + size rest := by
  simp [size]

@[simp] theorem size_append (first rest : List String) :
    size (first ++ rest) = size first + size rest := by
  simp [size]

theorem size_le_of_front {first parts : List String} (front : first <+: parts) :
    size first ≤ size parts := by
  obtain ⟨rest, rfl⟩ := front
  rw [size_append]
  exact Nat.le_add_right _ _

theorem size_le_of_suffix {last parts : List String} (back : last <:+ parts) :
    size last ≤ size parts := by
  obtain ⟨first, rfl⟩ := back
  rw [size_append]
  exact Nat.le_add_left _ _

theorem size_filter_add_count (parts : List String) :
    size (parts.filter (· != "")) + parts.count "" = size parts := by
  induction parts with
  | nil => rfl
  | cons s rest ih =>
    by_cases blank : s = ""
    · subst blank
      simp only [bne_self_eq_false, Bool.false_eq_true, not_false_eq_true, List.filter_cons_of_neg,
        List.count_cons_self, size_cons, String.utf8ByteSize_empty]
      omega
    · rw [List.filter_cons_of_pos (by simpa using blank), List.count_cons_of_ne blank, size_cons,
        size_cons]
      omega

theorem utf8ByteSize_join {sep : String} (one : sep.utf8ByteSize = 1) {parts : List String}
    (some : parts ≠ []) : (Text.join sep parts).utf8ByteSize + 1 = size parts := by
  match parts with
  | [] => exact absurd rfl some
  | [s] => simp
  | s :: t :: rest =>
    have ih := utf8ByteSize_join one (List.cons_ne_nil t rest)
    rw [Text.join_cons_cons, String.utf8ByteSize_append, String.utf8ByteSize_append, one,
      size_cons, ← ih]
    omega

theorem size_segments (s : String) : size (segments s) = s.utf8ByteSize + 1 := by
  have whole := @utf8ByteSize_join "." rfl _ (segments_ne_nil s)
  rw [← whole]
  exact congrArg (String.utf8ByteSize · + 1) (ofSegments_segments s)

theorem size_head_le (s : String) : size [head s] ≤ size (segments s) := by
  obtain ⟨first, rest, parts⟩ := List.exists_cons_of_ne_nil (segments_ne_nil s)
  rw [head, parts, List.headD_cons]
  exact size_le_of_front (List.prefix_append [first] rest)

/-- There are finitely many names of bounded size. -/
theorem finite_size_le (most : Nat) : {s : String | size (segments s) ≤ most}.Finite := by
  have bytes : Finite UInt8 := Finite.of_injective UInt8.toFin fun a b same => by
    cases a
    cases b
    exact congrArg _ (BitVec.eq_of_toFin_eq same)
  refine Set.Finite.of_injOn (f := fun s => s.toByteArray.data.toList) ?_ ?_
    (List.finite_length_le UInt8 most)
  · intro s small
    rw [Set.mem_ofPred_eq, size_segments] at small
    exact Nat.le_of_succ_le small
  · intro s _ t _ same
    exact String.toByteArray_inj.mp (ByteArray.ext (Array.toList_inj.mp same))

/-- The segments with a slash are among those of the first `most` bytes. -/
def Anchored (most : Nat) (parts : List String) : Prop :=
  ∃ first last, parts = first ++ last ∧ size first ≤ most ∧ ∀ s ∈ last, '/' ∉ s.toList

namespace Anchored

variable {most : Nat} {parts : List String}

theorem of_size_le (small : size parts ≤ most) : Anchored most parts :=
  ⟨parts, [], (List.append_nil parts).symm, small, nofun⟩

theorem of_prefix (anchored : Anchored most parts) {first : List String}
    (front : first <+: parts) : Anchored most first := by
  obtain ⟨path, last, rfl, small, whole⟩ := anchored
  rcases List.prefix_or_prefix_of_prefix front (List.prefix_append path last) with
    inside | ⟨more, rfl⟩
  · exact of_size_le ((size_le_of_front inside).trans small)
  · have inside := (List.prefix_append_right_inj path).mp front
    exact ⟨path, more, rfl, small, fun s member => whole s (inside.mem member)⟩

theorem append (anchored : Anchored most parts) {own : List String}
    (plain : ∀ s ∈ own, ModuleName.IsComponent s) : Anchored most (parts ++ own) := by
  obtain ⟨path, last, rfl, small, whole⟩ := anchored
  refine ⟨path, last ++ own, List.append_assoc .., small, ?_⟩
  exact List.forall_mem_append.mpr ⟨whole, fun s member => (plain s member).single⟩

end Anchored

end Dotted

/-! ## Paths -/

namespace Path

variable {parts : List String}

/-- Empty names leave a path as it is. -/
theorem foldl_div_of_isName (base : Path) (each : ∀ s ∈ parts, s = "" ∨ IsName s) :
    parts.foldl (· / ·) base = { base with parts := base.parts ++ parts.filter (· != "") } := by
  induction parts generalizing base with
  | nil => simp
  | cons s rest ih =>
    obtain ⟨first, each⟩ := List.forall_mem_cons.mp each
    rw [List.foldl_cons, ih _ each]
    rcases first with rfl | isName
    · have same : base / "" = base := by
        change base.append (ofString "") = base
        have empty : ofString "" = {} := by decide
        rw [empty]
        simp [append, isAbsolute]
      rw [same]
      simp
    · have step := foldl_div base (List.forall_mem_singleton.mpr isName)
      rw [List.foldl_cons, List.foldl_nil] at step
      rw [step, List.filter_cons_of_pos (by simpa using isName.some), List.append_assoc,
        List.singleton_append]

theorem size_le_text {path : Path} (some : path.parts ≠ []) :
    Dotted.size path.parts ≤ path.text.utf8ByteSize + 1 := by
  have joined := @Dotted.utf8ByteSize_join "/" rfl _ some
  rw [text, if_neg (by simp [some]), String.utf8ByteSize_append]
  omega

end Path

namespace SourceSet

open Dotted

variable {tree : FileTree} {base : Path} {m : String} {most : Nat}

/-- The names that end the path of a candidate, from where it is no longer than `most`. -/
theorem exists_parts_of_mem_candidates {c : Path × Bool} (place : c ∈ candidates base m)
    {first last : List String} (parts : segments m = first ++ last) (some : last ≠ [])
    (whole : ∀ s ∈ last, '/' ∉ s.toList) :
    ∃ above below, c.1.parts = above ++ below ∧ below ≠ [] ∧
      size (last.filter (· != "")) ≤ size below := by
  have names : ∀ s ∈ last, s = "" ∨ Path.IsName s := by
    intro s member
    have plain := isPlain_of_mem_segments s (parts ▸ List.mem_append_right first member)
    refine (Decidable.em (s = "")).imp_right fun other => ⟨other, ?_, whole s member⟩
    rintro rfl
    exact plain (by decide)
  simp only [candidates, List.mem_cons, List.not_mem_nil, or_false] at place
  rcases place with rfl | rfl
  · have all : ∀ s ∈ last ++ ["__init__.py"], s = "" ∨ Path.IsName s :=
      List.forall_mem_append.mpr ⟨names, List.forall_mem_singleton.mpr (.inr (by decide))⟩
    refine ⟨(first.foldl (· / ·) base).parts, (last ++ ["__init__.py"]).filter (· != ""),
      ?_, ?_, ?_⟩
    · dsimp only
      rw [parts, List.append_assoc, List.foldl_append, Path.foldl_div_of_isName _ all]
    · simp
    · rw [List.filter_append, size_append]
      exact Nat.le_add_right _ _
  · obtain ⟨before, s, rfl⟩ := (List.eq_nil_or_concat' last).resolve_left some
    have inner := List.forall_mem_append.mp whole
    have file := ModuleName.isName_file (inner.2 s (List.mem_singleton_self s))
    have all : ∀ t ∈ before ++ [s ++ ".py"], t = "" ∨ Path.IsName t :=
      List.forall_mem_append.mpr
        ⟨(List.forall_mem_append.mp names).1, List.forall_mem_singleton.mpr (.inr file)⟩
    refine ⟨(first.foldl (· / ·) base).parts, (before ++ [s ++ ".py"]).filter (· != ""),
      ?_, ?_, ?_⟩
    · dsimp only
      rw [parts, ← List.append_assoc, List.dropLast_concat, List.getLastD_concat,
        List.append_assoc, List.foldl_append, Path.foldl_div_of_isName _ all]
    · simp
    · have kept : [s ++ ".py"].filter (· != "") = [s ++ ".py"] := by simp
      rw [List.filter_append, List.filter_append, size_append, size_append, kept]
      refine Nat.add_le_add_left ?_ _
      by_cases blank : s = ""
      · simp [blank]
      · have own : [s].filter (· != "") = [s] := by simp [blank]
        simp only [own, size_cons, size_nil, String.utf8ByteSize_append]
        omega

/-- The name of a module that has a file is no longer than a path, but for empty segments and those
that may begin a new path. -/
theorem size_le_of_isFile {c : Path × Bool} (place : c ∈ candidates base m)
    (file : tree.isFile c.1 = .ok true) (anchored : Anchored most (segments m)) :
    size (segments m) ≤ most + FileTree.maxPathBytes + 1 + (segments m).count "" := by
  obtain ⟨first, last, parts, small, whole⟩ := anchored
  by_cases none : last = []
  · rw [parts, none, List.append_nil]
    omega
  · obtain ⟨above, below, path, some, fits⟩ :=
      exists_parts_of_mem_candidates place parts none whole
    have short := (FileTree.fits_of_test file).short
    have long := @Path.size_le_text c.1 (by simp [path, some])
    rw [path, size_append] at long
    have blank := size_filter_add_count last
    rw [parts, size_append, List.count_append]
    omega

end SourceSet

/-! ## Texts -/

/-- A tree holds finitely many texts. -/
theorem FileTree.finite_texts (tree : FileTree) :
    {text | ∃ path, tree.readText path = .ok text}.Finite := by
  have single (item : List String × Entry) : {text | ∃ bytes whole, item.2 = .file bytes ∧
      String.fromUTF8? bytes = some whole ∧ text = Text.unifyBreaks whole}.Subsingleton := by
    rintro _ ⟨bytes, whole, file, decoded, rfl⟩ _ ⟨bytes', whole', file', decoded', rfl⟩
    cases file.symm.trans file'
    cases decoded.symm.trans decoded'
    rfl
  refine ((List.finite_toSet tree.entries).biUnion fun item _ => (single item).finite).subset ?_
  rintro text ⟨path, read⟩
  rw [readText, stat] at read
  split at read
  · cases read
  · rename_i location bytes found
    split at found
    · rename_i there entry leads
      cases found
      have entry := entry_of_followFrom (follow_eq_ok_iff.mp leads).2
      split at read
      · rename_i decoded
        cases read
        cases location with
        | nil => cases entry
        | cons name rest =>
          obtain ⟨before, after, split, -⟩ := List.lookup_eq_some_iff.mp entry.symm
          have member : (name :: rest, Entry.file bytes) ∈ tree.entries := by simp [split]
          exact Set.mem_iUnion₂.mpr ⟨_, member, bytes, _, rfl, decoded, rfl⟩
      · cases read
    · cases found
    · cases found
  · cases read
  · cases read

namespace SourceSet

open Dotted Resolve.Modules Syntax

variable {tree : FileTree} {s : SourceSet}

theorem Reached.inUse (reached : s.Reached tree) : s.InUse tree := by
  induction reached with
  | load loaded =>
    obtain ⟨fresh, quiet⟩ := outside_of_loadFiles loaded
    exact .new fresh quiet
  | add _ _ _ ih => exact ih.add _
  | run _ q ih => exact ih.run q

/-- What is found outside of the repository is loaded from a file. -/
theorem Reached.loads (reached : s.Reached tree) {m : String} {u : SourceUnit}
    (found : s.answers tree m = .ok (some u)) : s.Loads tree m u :=
  reached.inUse.keeps.answers_eq_some_iff.mp found

/-- The modules of a set in use have finitely many trees. -/
theorem Reached.finite_bodies (reached : s.Reached tree) :
    {body | ∃ u, (ofSources tree s).Has u ∧ u.body = body}.Finite := by
  have loaded := tree.finite_texts.biUnion fun text _ =>
    List.finite_toSet ((Syntax.Module.parse text).toOption.map Syntax.Module.body).toList
  refine ((List.finite_toSet (s.units.map SourceUnit.body)).union loaded).subset ?_
  rintro body ⟨u, member | ⟨m, found⟩, rfl⟩
  · exact .inl (List.mem_map_of_mem member)
  · obtain ⟨before, path, isPackage, after, -, -, -, read⟩ := reached.loads found
    obtain ⟨text, given, read⟩ := ofText_of_readModule read
    unfold SourceUnit.ofText at read
    split at read
    · cases read
    · rename_i module parsed
      split at read
      · cases read
      · cases read
        exact .inr (Set.mem_iUnion₂.mpr ⟨text, ⟨path, given⟩,
          by simp [parsed, Except.toOption, SourceUnit.ofModule]⟩)

/-- The words that are written in the modules of a set in use are bounded. -/
theorem Reached.exists_longest (reached : s.Reached tree) (words : Node → List String) :
    ∃ most, ∀ u, (ofSources tree s).Has u → ∀ n ∈ Node.preorder u.body, ∀ w ∈ words n,
      size (segments w) ≤ most := by
  have written := reached.finite_bodies.biUnion fun body _ =>
    List.finite_toSet (((Node.preorder body).flatMap words).map fun w => size (segments w))
  obtain ⟨most, bound⟩ := written.bddAbove
  refine ⟨most, fun u has n inside w word => bound ?_⟩
  refine Set.mem_iUnion₂.mpr ⟨u.body, ⟨u, has, rfl⟩, List.mem_map.mpr ⟨w, ?_, rfl⟩⟩
  exact List.mem_flatMap.mpr ⟨n, inside, word⟩

/-- So are the names of the modules, but for empty segments and for those up to the last one with a
slash. -/
theorem Reached.exists_room (reached : s.Reached tree) :
    ∃ room, ∀ u, (ofSources tree s).Has u → ∀ most, Anchored most (segments u.moduleName) →
      size (segments u.moduleName) ≤ most + room + (segments u.moduleName).count "" := by
  obtain ⟨longest, bound⟩ :=
    (List.finite_toSet (s.units.map fun u => size (segments u.moduleName))).bddAbove
  refine ⟨longest + FileTree.maxPathBytes + 1, fun u has most anchored => ?_⟩
  rcases has with member | ⟨m, found⟩
  · have own : size (segments u.moduleName) ≤ longest :=
      bound (List.mem_map.mpr ⟨u, member, rfl⟩)
    omega
  · have loads := reached.loads found
    obtain rfl := loads.moduleName_eq
    obtain ⟨before, path, isPackage, after, files, -, file, -⟩ := loads
    have place : (path, isPackage) ∈ s.searchPaths.flatMap (candidates · u.moduleName) := by
      rw [files]
      exact List.mem_append_right before List.mem_cons_self
    obtain ⟨base, -, place⟩ := List.mem_flatMap.mp place
    have bound := size_le_of_isFile place file anchored
    omega

end SourceSet

end Catalog
