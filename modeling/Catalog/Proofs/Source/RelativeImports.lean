import Catalog.Proofs.Source.Locations

/-!
# Relative imports

A relative import counts packages upwards and then names a module below the one that it reaches.
Files stand in directories, and one can go up from the directory of the importing file in the same
way. The two agree below a source root: the name that is computed is the name of the file that one
finds, and the import has no absolute name if going up leaves the source root.

Everything that is computed from a path is read off one list, the names below the source root. The
directories among them are the package of the file, whether it is a module or the file of a package,
and going up drops the last of them.
-/

namespace Catalog

/-! ## Going up -/

namespace Path

/-- The directory that is `n` levels above `dir`, as long as going up does not leave `top`. -/
def ascend? (top : Path) : (n : Nat) → (dir : Path) → Option Path
  | 0, dir => some dir
  | n + 1, dir => if dir = top then none else ascend? top n dir.parent

/-- Below a directory going up drops names until none are left. -/
theorem ascend?_below (top : Path) (n : Nat) (names : List String) :
    ascend? top n { top with parts := top.parts ++ names } =
      if names.length < n then none
      else some { top with parts := top.parts ++ names.take (names.length - n) } := by
  induction n generalizing names with
  | zero => simp [ascend?]
  | succ n ih =>
    rcases names.eq_nil_or_concat with rfl | ⟨names, last, rfl⟩
    · simp [ascend?]
    · have below : ({ top with parts := top.parts ++ (names ++ [last]) } : Path) ≠ top := by
        intro same
        have lengths := congrArg (fun p => p.parts.length) same
        simp at lengths
      have up : ({ top with parts := top.parts ++ (names ++ [last]) } : Path).parent =
          { top with parts := top.parts ++ names } := by
        rw [parent, ← List.append_assoc, List.dropLast_concat]
      rw [List.concat_eq_append, ascend?, if_neg below, up, ih, List.length_append,
        List.length_singleton]
      by_cases leaves : names.length < n
      · rw [if_pos leaves, if_pos (by omega)]
      · rw [if_neg leaves, if_neg (by omega), Nat.add_sub_add_right,
          List.take_append_of_le_length (by omega)]

/-- A text of names is a relative path, also with a slash at its end. -/
theorem ofString_join_slash {parts : List String} (some : parts ≠ [])
    (each : ∀ s ∈ parts, IsName s) : ofString (Text.join "/" parts ++ "/") = { parts } := by
  have whole : Text.join "/" parts ++ "/" = Text.join "/" (parts ++ [""]) := by
    rw [← Text.join_append_join some (List.cons_ne_nil "" []), Text.join_singleton,
      String.append_empty]
  have pieces : Text.split '/' (Text.join "/" (parts ++ [""])) = parts ++ [""] :=
    Text.split_join (by simp)
      (List.forall_mem_append.mpr ⟨fun s member => (each s member).single, by simp⟩)
  have kept : parts.filter (fun name => name != "" && name != ".") = parts := by
    rw [List.filter_eq_self]
    intro s member
    simp [(each s member).some, (each s member).other]
  rw [ofString, rootOf_join some each, names, whole, pieces, List.filter_append, kept]
  simp

end Path

namespace ModuleName

open Catalog.Path

variable {roots : List String} {path : String}

/-! ## Source roots -/

/-- The directory of the source root above a path. -/
def rootDir (roots : List String) (path : String) : Path :=
  Path.ofString ((sourceRoot? path roots).getD "")

theorem isName_of_mem_normalNames {s : String} : ∀ n ∈ normalNames s, IsName n := by
  have step (absolute : Bool) (stack : List String) (name : String)
      (each : ∀ n ∈ stack, IsName n) (single : '/' ∉ name.toList) :
      ∀ n ∈ normalStep absolute stack name, IsName n := by
    have up : IsName ".." := by decide
    unfold normalStep
    split
    · exact each
    · rename_i some
      simp only [Bool.or_eq_true, beq_iff_eq, not_or] at some
      split
      · exact List.forall_mem_cons.mpr ⟨⟨some.1, some.2, single⟩, each⟩
      · split
        · split
          · exact List.forall_mem_nil _
          · exact List.forall_mem_singleton.mpr up
        · split
          · exact List.forall_mem_cons.mpr ⟨up, each⟩
          · exact (List.forall_mem_cons.mp each).2
  have all (pieces : List String) (single : ∀ name ∈ pieces, '/' ∉ name.toList) :
      ∀ stack : List String, (∀ n ∈ stack, IsName n) →
        ∀ n ∈ pieces.foldl (normalStep (Text.beginsWith s "/")) stack, IsName n := by
    induction pieces with
    | nil => exact fun stack each => each
    | cons name pieces ih =>
      obtain ⟨first, single⟩ := List.forall_mem_cons.mp single
      exact fun stack each => ih single _ (step _ stack name each first)
  intro n member
  refine all (Text.split '/' s) (fun name inside => ?_) [] (List.forall_mem_nil _) n
    (List.mem_reverse.mp member)
  obtain ⟨piece, cut, rfl⟩ := List.mem_map.mp inside
  rw [String.toList_ofList]
  exact Text.not_mem_of_mem_splitChars piece cut

/-- The text with which the paths below some directories begin. -/
def rootText (names : List String) : String :=
  if names = [] then "" else Text.join "/" names ++ "/"

theorem rootPrefix_eq (root : String) : rootPrefix root = rootText (normalNames root) := by
  rw [rootPrefix, rootText]
  cases normalNames root <;> rfl

/-- The source root of a path is made of names. -/
theorem exists_rootNames (path : String) (roots : List String) :
    ∃ names, (∀ n ∈ names, IsName n) ∧ (sourceRoot? path roots).getD "" = rootText names := by
  have known : ∀ r ∈ sourceRoot? path roots, ∃ root, r = rootPrefix root := by
    refine List.foldlRecOn (motive := fun best => ∀ r ∈ best, ∃ root, r = rootPrefix root)
      roots _ nofun fun best known root _ => ?_
    have this : ∀ r ∈ some (rootPrefix root), ∃ root, r = rootPrefix root := by
      rintro r ⟨⟩
      exact ⟨root, rfl⟩
    dsimp only
    split
    · exact known
    · split
      · exact this
      · split
        · exact this
        · exact known
  cases found : sourceRoot? path roots with
  | none => exact ⟨[], List.forall_mem_nil _, rfl⟩
  | some r =>
    obtain ⟨root, rfl⟩ := known r found
    exact ⟨normalNames root, isName_of_mem_normalNames, rootPrefix_eq root⟩

theorem ofString_rootText {names : List String} (each : ∀ n ∈ names, IsName n) :
    Path.ofString (rootText names) = { parts := names } := by
  by_cases none : names = []
  · subst none
    decide
  · rw [rootText, if_neg none, ofString_join_slash none each]

theorem rootText_append_join {names parts : List String} (some : parts ≠ []) :
    rootText names ++ Text.join "/" parts = Text.join "/" (names ++ parts) := by
  by_cases none : names = []
  · subst none
    exact String.empty_append
  · rw [rootText, if_neg none, Text.join_append_join none some]

/-! ## Files below their source root -/

/-- A file whose path below its source root is made of names without dots, apart from the
extension. -/
def IsPlainFile (roots : List String) (path : String) : Prop :=
  ∃ names last, (∀ n ∈ names, IsComponent n) ∧ IsComponent last ∧
    path = (sourceRoot? path roots).getD "" ++ file names last

theorem ofString_rootText_file {top names : List String} {last : String}
    (above : ∀ n ∈ top, IsName n) (each : ∀ n ∈ names, IsComponent n)
    (component : IsComponent last) :
    Path.ofString (rootText top ++ file names last) =
      { parts := top ++ (names ++ [last ++ ".py"]) } := by
  rw [file, rootText_append_join (by simp)]
  exact ofString_join (by simp) (List.forall_mem_append.mpr
    ⟨above, isName_of_file each component⟩)

/-- The package of a file is made of the directories below the source root. -/
theorem package_ofPath {names : List String} {last : String} (each : ∀ n ∈ names, IsComponent n)
    (component : IsComponent last)
    (spelled : path = (sourceRoot? path roots).getD "" ++ file names last) :
    (ofPath path roots).package = Dotted.ofSegments names := by
  rw [ofPath_below each component spelled]
  by_cases package : last = "__init__"
  · rw [if_pos package]
    rfl
  · have plain : ∀ n ∈ names ++ [last], Dotted.IsPlain n :=
      List.forall_mem_append.mpr ⟨fun n member => (each n member).plain,
        List.forall_mem_singleton.mpr component.plain⟩
    rw [if_neg package]
    change Dotted.parent (Dotted.ofSegments (names ++ [last])) = _
    rw [Dotted.parent, Dotted.segments_ofSegments_of_isPlain (by simp) plain,
      List.dropLast_concat]

theorem ofSegments_eq_empty_iff {names : List String} (each : ∀ n ∈ names, IsComponent n) :
    Dotted.ofSegments names = "" ↔ names = [] := by
  constructor
  · intro none
    by_contra some
    have whole := Dotted.segments_ofSegments_of_isPlain some fun n member => (each n member).plain
    rw [none] at whole
    have first : "" ∈ names := whole ▸ List.mem_singleton_self ""
    exact (each "" first).some rfl
  · rintro rfl
    rfl

/-- An import that starts at a package goes up by dropping the last segments of its name. -/
theorem absolute?_ofSegments {names : List String} (each : ∀ n ∈ names, IsComponent n)
    {level : Int} (up : 1 ≤ level) {tail : String}
    (below : ∀ s ∈ Dotted.segments tail, IsComponent s) :
    absolute? (some tail) level (Dotted.ofSegments names) =
      if names.length < (level - 1).toNat then none
      else some (Dotted.ofSegments
        (names.take (names.length - (level - 1).toNat) ++ Dotted.segments tail)) := by
  have named : tail.isEmpty = false := by
    rw [Bool.eq_false_iff, ne_eq, String.isEmpty_iff]
    rintro rfl
    exact (below "" (by decide)).some rfl
  have base : (if (Dotted.ofSegments names).isEmpty then []
      else Dotted.segments (Dotted.ofSegments names)) = names := by
    by_cases none : names = []
    · subst none
      rfl
    · have some : ¬ (Dotted.ofSegments names).isEmpty = true := by
        rwa [String.isEmpty_iff, ofSegments_eq_empty_iff each]
      rw [if_neg some, Dotted.segments_ofSegments_of_isPlain none
        fun n member => (each n member).plain]
  have all : ∀ n ∈ names.take (names.length - (level - 1).toNat) ++ Dotted.segments tail,
      IsComponent n :=
    List.forall_mem_append.mpr ⟨fun n member => each n (List.mem_of_mem_take member), below⟩
  have result : (Dotted.ofSegments
      (names.take (names.length - (level - 1).toNat) ++ Dotted.segments tail)).isEmpty = false := by
    rw [Bool.eq_false_iff, ne_eq, String.isEmpty_iff, ofSegments_eq_empty_iff all]
    exact List.append_ne_nil_of_right_ne_nil _ (Dotted.segments_ne_nil tail)
  have relative : ¬ level ≤ 0 := by omega
  simp only [absolute?, Option.getD_some, relative, if_false, base, named, Bool.false_eq_true,
    result]

theorem text_below {top parts : List String} (some : parts ≠ []) :
    ({ parts := top ++ parts } : Path).text = rootText top ++ Text.join "/" parts := by
  have whole : (top ++ parts).isEmpty = false := by simp [some]
  rw [Path.text, whole, rootText_append_join some]
  exact String.empty_append

/-- The files in which a module may stand: that of a package and that of a module. -/
theorem candidates_below (top : List String) {names : List String} {tail : String}
    (below : ∀ s ∈ Dotted.segments tail, IsComponent s) {found : Path × Bool}
    (reached : found ∈ SourceSet.candidates { parts := top ++ names } tail) :
    found.1.text = rootText top ++ file (names ++ Dotted.segments tail) "__init__" ∨
      ∃ dirs last, Dotted.segments tail = dirs ++ [last] ∧
        found.1.text = rootText top ++ file (names ++ dirs) last := by
  have init : IsComponent "__init__" := by decide
  obtain ⟨dirs, last, cut⟩ : ∃ dirs last, Dotted.segments tail = dirs ++ [last] :=
    ⟨_, _, (List.dropLast_append_getLast (Dotted.segments_ne_nil tail)).symm⟩
  rw [cut] at below
  obtain ⟨each, component⟩ := List.forall_mem_append.mp below
  have component := List.forall_mem_singleton.mp component
  rw [SourceSet.candidates, cut, List.getLastD_concat, List.dropLast_concat] at reached
  rcases List.mem_pair.mp reached with rfl | rfl
  · have isName := isName_of_file below init
    have extension : "__init__" ++ ".py" = "__init__.py" := by decide
    refine .inl ?_
    rw [← extension, cut, foldl_div _ isName, List.append_assoc, text_below (by simp), file,
      List.append_assoc names]
  · have isName := isName_of_file each component
    refine .inr ⟨dirs, last, cut, ?_⟩
    rw [foldl_div _ isName, List.append_assoc, text_below (by simp), file, List.append_assoc]

/-- Relative imports name the file that they point to. If going up from the directory of the
importing file stays below its source root, the name is that of the file which is found there under
the words of the import, as long as this file has the same source root. If going up leaves the
source root, there is no name. -/
theorem relative_import_names_file (plain : IsPlainFile roots path) {level : Int} (up : 1 ≤ level)
    {tail : String} (below : ∀ s ∈ Dotted.segments tail, IsComponent s)
    (module : (Dotted.segments tail).getLast? ≠ some "__init__") :
    (∀ dir, ascend? (rootDir roots path) (level - 1).toNat (Path.ofString path).parent = some dir →
      ∀ found ∈ SourceSet.candidates dir tail,
        sourceRoot? found.1.text roots = sourceRoot? path roots →
          absolute? (some tail) level (ofPath path roots).package =
            some (ofPath found.1.text roots).name) ∧
      (ascend? (rootDir roots path) (level - 1).toNat (Path.ofString path).parent = none →
        absolute? (some tail) level (ofPath path roots).package = none) := by
  obtain ⟨names, last, each, component, spelled⟩ := plain
  obtain ⟨top, above, root⟩ := exists_rootNames path roots
  have directory : (Path.ofString path).parent = { parts := top ++ names } := by
    rw [spelled, root, ofString_rootText_file above each component, ← List.append_assoc]
    exact Path.parent_append_name { parts := top ++ names } _
  rw [rootDir, root, ofString_rootText above, directory, ascend?_below { parts := top },
    package_ofPath each component spelled, absolute?_ofSegments each up below]
  by_cases leaves : names.length < (level - 1).toNat
  · rw [if_pos leaves, if_pos leaves]
    exact ⟨by rintro dir ⟨⟩, fun _ => rfl⟩
  · rw [if_neg leaves, if_neg leaves]
    refine ⟨fun dir climbed found reached same => ?_, by rintro ⟨⟩⟩
    cases climbed
    have kept : ∀ n ∈ names.take (names.length - (level - 1).toNat), IsComponent n :=
      fun n member => each n (List.mem_of_mem_take member)
    rcases candidates_below top below reached with text | ⟨dirs, stem, cut, text⟩
    · have target := ofPath_below (List.forall_mem_append.mpr ⟨kept, below⟩)
        (by decide : IsComponent "__init__") (by rw [same, root, text])
      rw [target, if_pos rfl]
    · rw [cut] at below module ⊢
      obtain ⟨each', component'⟩ := List.forall_mem_append.mp below
      have target := ofPath_below (List.forall_mem_append.mpr ⟨kept, each'⟩)
        (List.forall_mem_singleton.mp component') (by rw [same, root, text])
      have other : stem ≠ "__init__" := by
        rintro rfl
        exact module List.getLast?_concat
      rw [target, if_neg other, List.append_assoc]

/-- Going up twice from `src/a/b` just reaches the source root, and going up once more leaves it. -/
theorem relative_import_names_file_top :
    IsPlainFile ["src", "."] "src/a/b/c.py" ∧
      absolute? (some "k.v") 3 (ofPath "src/a/b/c.py" ["src", "."]).package =
        some (ofPath "src/k/v/__init__.py" ["src", "."]).name ∧
      absolute? (some "k.v") 4 (ofPath "src/a/b/c.py" ["src", "."]).package = none := by
  have plain : IsPlainFile ["src", "."] "src/a/b/c.py" :=
    ⟨["a", "b"], "c", by decide, by decide, by decide⟩
  have below : ∀ s ∈ Dotted.segments "k.v", IsComponent s := by decide
  have module : (Dotted.segments "k.v").getLast? ≠ some "__init__" := by decide
  have within := relative_import_names_file plain (by decide : (1 : Int) ≤ 3) below module
  have beyond := relative_import_names_file plain (by decide : (1 : Int) ≤ 4) below module
  have reached := within.1 { parts := ["src"] } (by decide)
    ({ parts := ["src", "k", "v", "__init__.py"] }, true) (by decide) (by decide)
  exact ⟨plain, reached, beyond.2 (by decide)⟩

end ModuleName

end Catalog
