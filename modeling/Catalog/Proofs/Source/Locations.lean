import Catalog.Proofs.FileTree.Plain
import Catalog.Proofs.Resolve.Vocabulary
import Catalog.Proofs.Source.Reached

/-!
# Where modules stand

A file of a repository is a module, and its name follows from the path. A module on a search path
is found the other way round, by the paths that follow from its name. If the names of the files are
single words the two agree: the directory of a search path gives for the name of a module the file
that gives this name in a repository.
-/

namespace Catalog

open Syntax

/-! ## Texts that are joined -/

namespace Text

theorem split_join {sep : Char} {pieces : List String} (some : pieces ≠ [])
    (absent : ∀ p ∈ pieces, sep ∉ p.toList) :
    split sep (join (String.ofList [sep]) pieces) = pieces := by
  induction pieces with
  | nil => exact absurd rfl some
  | cons p rest ih =>
    obtain ⟨first, absent⟩ := List.forall_mem_cons.mp absent
    cases rest with
    | nil => rw [join_singleton, split, splitChars_of_not_mem first, List.map_singleton,
        String.ofList_toList]
    | cons q rest =>
      have chars : (p ++ String.ofList [sep] ++ join (String.ofList [sep]) (q :: rest)).toList =
          p.toList ++ sep :: (join (String.ofList [sep]) (q :: rest)).toList := by
        simp
      have more := ih (List.cons_ne_nil _ _) absent
      rw [split] at more
      rw [join_cons_cons, split, chars, splitChars_append, List.map_append, more,
        splitChars_of_not_mem first, List.map_singleton, String.ofList_toList,
        List.singleton_append]

theorem join_append (sep : String) (names : List String) (last tail : String) :
    join sep (names ++ [last ++ tail]) = join sep (names ++ [last]) ++ tail := by
  induction names with
  | nil => rfl
  | cons name rest ih =>
    obtain ⟨next, more, rest_eq⟩ := List.exists_cons_of_ne_nil
      (List.append_ne_nil_of_right_ne_nil rest (List.cons_ne_nil last []))
    obtain ⟨next', more', rest_eq'⟩ := List.exists_cons_of_ne_nil
      (List.append_ne_nil_of_right_ne_nil rest (List.cons_ne_nil (last ++ tail) []))
    rw [List.cons_append, List.cons_append, rest_eq, rest_eq', join_cons_cons, join_cons_cons,
      ← rest_eq, ← rest_eq', ih, String.append_assoc, String.append_assoc, String.append_assoc]

end Text

/-! ## Paths of names -/

namespace Path

/-- The text is a single name of a path. -/
structure IsName (s : String) : Prop where
  some : s ≠ ""
  other : s ≠ "."
  single : '/' ∉ s.toList

instance (s : String) : Decidable (IsName s) :=
  decidable_of_iff (s ≠ "" ∧ s ≠ "." ∧ '/' ∉ s.toList)
    ⟨fun h => ⟨h.1, h.2.1, h.2.2⟩, fun h => ⟨h.some, h.other, h.single⟩⟩

variable {s : String} {parts : List String}

theorem rootOf_of_head {first : Char} {rest : List Char} (chars : s.toList = first :: rest)
    (other : first ≠ '/') : rootOf s = "" := by
  have below (start : String) (slash : start.toList.head? = some '/') :
      Text.beginsWith s start = false := by
    rw [Text.beginsWith, chars]
    cases slashes : start.toList with
    | nil =>
      rw [slashes] at slash
      cases slash
    | cons c more =>
      rw [slashes] at slash
      cases slash
      simp [List.isPrefixOf, Ne.symm other]
  rw [rootOf, below "//" (by decide), below "/" (by decide)]
  rfl

theorem rootOf_join (some : parts ≠ []) (each : ∀ s ∈ parts, IsName s) (tail : String) :
    rootOf (Text.join "/" parts ++ tail) = "" := by
  obtain ⟨first, rest, rfl⟩ := List.exists_cons_of_ne_nil some
  have isName := each first List.mem_cons_self
  obtain ⟨c, more, chars⟩ := List.exists_cons_of_ne_nil
    (fun none => isName.some (String.toList_eq_nil_iff.mp none) : first.toList ≠ [])
  have other : c ≠ '/' := by
    rintro rfl
    exact isName.single (by rw [chars]; exact List.mem_cons_self)
  cases rest with
  | nil =>
    refine @rootOf_of_head _ c (more ++ tail.toList) ?_ other
    simp [chars]
  | cons next rest =>
    refine @rootOf_of_head _ c
      (more ++ '/' :: (Text.join "/" (next :: rest)).toList ++ tail.toList) ?_ other
    simp [Text.join_cons_cons, chars]

theorem ofString_join (some : parts ≠ []) (each : ∀ s ∈ parts, IsName s) :
    ofString (Text.join "/" parts) = { parts } := by
  have pieces : Text.split '/' (Text.join "/" parts) = parts :=
    Text.split_join some fun s member => (each s member).single
  have names : names (Text.join "/" parts) = parts := by
    rw [Path.names, pieces, List.filter_eq_self]
    intro s member
    simp [(each s member).some, (each s member).other]
  have root := rootOf_join some each ""
  rw [String.append_empty] at root
  rw [ofString, names, root]

theorem div_join (base : Path) (some : parts ≠ []) (each : ∀ s ∈ parts, IsName s) :
    base / Text.join "/" parts = { base with parts := base.parts ++ parts } := by
  change base.append (ofString _) = _
  rw [ofString_join some each]
  rfl

theorem foldl_div (base : Path) (each : ∀ s ∈ parts, IsName s) :
    parts.foldl (· / ·) base = { base with parts := base.parts ++ parts } := by
  induction parts generalizing base with
  | nil => simp
  | cons s rest ih =>
    obtain ⟨first, each⟩ := List.forall_mem_cons.mp each
    have step := div_join base (List.cons_ne_nil s []) (List.forall_mem_singleton.mpr first)
    rw [Text.join_singleton] at step
    rw [List.foldl_cons, ih _ each, step, List.append_assoc, List.singleton_append]

end Path

/-! ## Files of modules -/

namespace ModuleName

/-- The path of a file below directories. -/
def file (names : List String) (last : String) : String :=
  Text.join "/" (names ++ [last ++ ".py"])

variable {names : List String} {last s : String}

theorem IsComponent.isName (component : IsComponent s) : Path.IsName s where
  some := component.some
  other := by
    rintro rfl
    exact component.plain (by decide)
  single := component.single

theorem isName_file (single : '/' ∉ s.toList) : Path.IsName (s ++ ".py") where
  some := by simp
  other := by
    intro same
    have length := congrArg (fun t => t.toList.length) same
    simp at length
  single := by simp [single]

theorem isName_of_file (each : ∀ n ∈ names, IsComponent n) (component : IsComponent last) :
    ∀ n ∈ names ++ [last ++ ".py"], Path.IsName n :=
  List.forall_mem_append.mpr ⟨fun n member => (each n member).isName,
    List.forall_mem_singleton.mpr (isName_file component.single)⟩

/-- A file and where it stands below a directory. -/
theorem div_file (base : Path) (each : ∀ n ∈ names, IsComponent n)
    (component : IsComponent last) :
    base / file names last = (names ++ [last ++ ".py"]).foldl (· / ·) base := by
  have isName := isName_of_file each component
  rw [file, Path.div_join base (by simp) isName, Path.foldl_div base isName]

/-- The module that a file below its source root is. -/
theorem ofPath_below {path : String} {roots : List String}
    (each : ∀ n ∈ names, IsComponent n) (component : IsComponent last)
    (spelled : path = (sourceRoot? path roots).getD "" ++ file names last) :
    ofPath path roots =
      if last = "__init__" then { name := Dotted.ofSegments names, isPackage := true }
      else { name := Dotted.ofSegments (names ++ [last]), isPackage := false } := by
  have stem : file names last = Text.join "/" (names ++ [last]) ++ ".py" :=
    Text.join_append "/" names last ".py"
  have ends : Text.endsWith (file names last) ".py" = true := by
    rw [Text.endsWith, stem, List.isSuffixOf_iff_suffix, String.toList_append]
    exact List.suffix_append _ _
  have stem : Text.dropEnd 3 (file names last) = Text.join "/" (names ++ [last]) := by
    have three : (".py" : String).toList.length = 3 := by decide
    rw [Text.dropEnd, stem, String.toList_append, List.length_append, three, Nat.add_sub_cancel,
      List.take_left, String.ofList_toList]
  have all : ∀ n ∈ names ++ [last], IsComponent n :=
    List.forall_mem_append.mpr ⟨each, List.forall_mem_singleton.mpr component⟩
  have parts : (Text.split '/' (Text.join "/" (names ++ [last]))).filter (· != "") =
      names ++ [last] := by
    have pieces : Text.split '/' (Text.join "/" (names ++ [last])) = names ++ [last] :=
      Text.split_join (by simp) fun n member => (all n member).single
    rw [pieces, List.filter_eq_self]
    exact fun n member => by simpa using (all n member).some
  have below : Text.drop ((sourceRoot? path roots).getD "").length path = file names last := by
    generalize (sourceRoot? path roots).getD "" = start at spelled ⊢
    rw [spelled, Text.drop, String.toList_append, ← String.length_toList, List.drop_left,
      String.ofList_toList]
  simp only [ofPath, below, ends, if_true, stem, parts, List.getLast?_concat,
    List.dropLast_concat]
  by_cases package : last = "__init__"
  · simp [package]
  · simp [package]

/-- The module that a file of the repository is, if there is no other source root. -/
theorem ofPath_file (each : ∀ n ∈ names, IsComponent n) (component : IsComponent last) :
    ofPath (file names last) ["."] =
      if last = "__init__" then { name := Dotted.ofSegments names, isPackage := true }
      else { name := Dotted.ofSegments (names ++ [last]), isPackage := false } := by
  have root : sourceRoot? (file names last) ["."] = some "" := by
    have start : rootPrefix "." = "" := by decide
    simp [sourceRoot?, start, Text.beginsWith]
  refine ofPath_below each component ?_
  rw [root, Option.getD_some, String.empty_append]

/-- A word by which modules can be looked up: the name of a directory and, with the extension, that
of a file, other than a package's own file. -/
structure IsSearchable (s : String) : Prop where
  component : IsComponent s
  module : s ≠ "__init__"

instance (s : String) : Decidable (IsSearchable s) :=
  decidable_of_iff (IsComponent s ∧ s ≠ "__init__")
    ⟨fun h => ⟨h.1, h.2⟩, fun h => ⟨h.component, h.module⟩⟩

/-- The files of a registry: their paths are made of components, and each has a module name of its
own. -/
structure IsRegistry (files : List String) : Prop where
  components : ∀ p ∈ files, ∃ names last,
    (∀ n ∈ names, IsComponent n) ∧ IsComponent last ∧ p = file names last
  distinct : (files.map fun p => (ofPath p ["."]).name).Nodup

end ModuleName

open ModuleName

/-- Of the files of modules, the directory holds exactly the given ones. Where a path is too long,
it cannot be seen if there is a file. -/
def FileTree.HoldsModules (tree : FileTree) (site : Path) (files : List String) : Prop :=
  ∀ names last, (∀ n ∈ names, IsComponent n) → IsComponent last →
    tree.isFile ((names ++ [last ++ ".py"]).foldl (· / ·) site) =
        .ok (decide (file names last ∈ files)) ∨
      tree.isFile ((names ++ [last ++ ".py"]).foldl (· / ·) site) = .error .nameTooLong

namespace FileTree

/-- In a tree without links, a directory holds the modules whose files are listed below it. -/
theorem holdsModules_of_isPlain {tree : FileTree} {site : Path} {files : List String}
    (plain : tree.IsPlain) (down : ".." ∉ site.parts) (registry : IsRegistry files)
    (listed : ∀ p ∈ files, (tree.find? (site / p).parts).any Entry.isFile = true)
    (only : ∀ item ∈ tree.entries, site.parts <+: item.1 → item.2.isFile = true →
      item.1 ∈ files.map fun p => (site / p).parts) :
    tree.HoldsModules site files := by
  intro names last components component
  have parts {dirs : List String} {stem : String} (each : ∀ n ∈ dirs, IsComponent n)
      (component : IsComponent stem) :
      (site / file dirs stem).parts = site.parts ++ (dirs ++ [stem ++ ".py"]) := by
    rw [div_file site each component, Path.foldl_div site (isName_of_file each component)]
  have leads : ".." ∉ (site / file names last).parts := by
    rw [parts components component, List.mem_append, List.mem_append, List.mem_singleton]
    rintro (up | up | up)
    · exact down up
    · exact absurd (components _ up).plain (by decide)
    · have length := congrArg (fun t => t.toList.length) up
      simp at length
  rw [← div_file site components component]
  refine (plain.isFile_or leads).imp (fun seen => seen.trans (congrArg _ ?_)) And.right
  rw [Bool.eq_iff_iff, decide_eq_true_iff]
  constructor
  · intro found
    obtain ⟨entry, there, isFile⟩ := (Option.any_eq_true _ _).mp found
    have below : (site / file names last).parts ≠ [] := by
      rw [parts components component]
      simp
    have member := only _ (mem_of_find? below there)
      (by rw [parts components component]; exact List.prefix_append _ _) isFile
    obtain ⟨p, inside, same⟩ := List.mem_map.mp member
    obtain ⟨dirs, stem, each', component', rfl⟩ := registry.components p inside
    rw [parts each' component', parts components component, List.append_cancel_left_eq] at same
    rw [file, ← same]
    exact inside
  · exact listed _

end FileTree

/-! ## Looking a module up -/

theorem Dotted.segments_ofSegments_of_isPlain {parts : List String} (some : parts ≠ [])
    (plain : ∀ t ∈ parts, IsPlain t) : segments (ofSegments parts) = parts := by
  obtain ⟨first, rest, rfl⟩ := List.exists_cons_of_ne_nil some
  obtain ⟨first, plain⟩ := List.forall_mem_cons.mp plain
  rw [segments_ofSegments _ plain, segments_of_isPlain first, List.singleton_append]

namespace ModuleName

/-- The files that have the name of a module: the package's own file, and the file of that name. -/
theorem name_file_eq_iff {m last : String} {names : List String}
    (parts : Dotted.segments m = names ++ [last])
    (components : ∀ t ∈ names ++ [last], IsComponent t)
    (module : last ≠ "__init__") {dirs : List String} {stem : String}
    (each : ∀ n ∈ dirs, IsComponent n) (component : IsComponent stem) :
    (ofPath (file dirs stem) ["."]).name = m ↔
      dirs = names ++ [last] ∧ stem = "__init__" ∨ dirs = names ∧ stem = last := by
  have whole : Dotted.ofSegments (names ++ [last]) = m := by
    rw [← parts, Dotted.ofSegments_segments]
  have cut {l : List String} (some : l ≠ []) (each : ∀ n ∈ l, IsComponent n) :
      Dotted.ofSegments l = m ↔ l = names ++ [last] := by
    constructor
    · intro same
      rw [← parts, ← same,
        Dotted.segments_ofSegments_of_isPlain some fun t member => (each t member).plain]
    · rintro rfl
      exact whole
  rw [ofPath_file each component]
  by_cases package : stem = "__init__"
  · have other : ¬(dirs = names ∧ stem = last) := by
      rintro ⟨-, rfl⟩
      exact module package
    rw [if_pos package, or_iff_left other, and_iff_left package]
    cases dirs with
    | nil =>
      refine iff_of_false (fun none => ?_) (by simp)
      have empty : Dotted.segments m = [""] := by
        rw [← none]
        decide
      rw [empty] at parts
      exact (components "" (parts ▸ List.mem_singleton_self "")).some rfl
    | cons first rest => exact cut (List.cons_ne_nil first rest) each
  · rw [if_neg package]
    have all : ∀ n ∈ dirs ++ [stem], IsComponent n :=
      List.forall_mem_append.mpr ⟨each, List.forall_mem_singleton.mpr component⟩
    have other : ¬(dirs = names ++ [last] ∧ stem = "__init__") := fun both => package both.2
    rw [or_iff_right other]
    refine (cut (by simp) all).trans ?_
    constructor
    · intro same
      obtain ⟨dirs_eq, stem_eq⟩ := List.append_inj' same rfl
      exact ⟨dirs_eq, List.singleton_inj.mp stem_eq⟩
    · rintro ⟨rfl, rfl⟩
      rfl

end ModuleName

namespace SourceSet

/-- Of two files the first one that is there is read, unless a path is too long to look for it. -/
theorem readFirst_pair {tree : FileTree} {m : String} {path path' : Path}
    {isPackage isPackage' found found' : Bool}
    (first : tree.isFile path = .ok found ∨ tree.isFile path = .error .nameTooLong)
    (second : tree.isFile path' = .ok found' ∨ tree.isFile path' = .error .nameTooLong) :
    (readFirst tree m [(path, isPackage), (path', isPackage')] =
      if found then readModule tree m path isPackage
      else if found' then readModule tree m path' isPackage' else .ok .missing) ∨
      readFirst tree m [(path, isPackage), (path', isPackage')] =
        .error (.system .nameTooLong) := by
  rw [readFirst, readFirst, readFirst]
  rcases first with first | long
  · cases found with
    | true => exact .inl (by rw [first]; rfl)
    | false =>
      rw [first]
      rcases second with second | long
      · rw [second]
        cases found' <;> exact .inl rfl
      · exact .inr (by rw [long])
  · exact .inr (by rw [long])

/-- In the directory of a registry, the file that gives a name in a repository is found under this
name, unless a path is too long to look for it. -/
theorem find_of_holdsModules {tree : FileTree} {site : Path} {files : List String} {m : String}
    (registry : IsRegistry files) (holds : tree.HoldsModules site files)
    (searchable : Dotted.MadeOf IsSearchable m) :
    (find tree [site] m = match files.find? fun p => (ofPath p ["."]).name == m with
      | none => .ok .missing
      | some p => readModule tree m (site / p) (ofPath p ["."]).isPackage) ∨
      find tree [site] m = .error (.system .nameTooLong) := by
  obtain ⟨names, last, parts⟩ :=
    (List.eq_nil_or_concat (Dotted.segments m)).resolve_left (Dotted.segments_ne_nil m)
  rw [List.concat_eq_append] at parts
  have words : ∀ t ∈ names ++ [last], IsSearchable t := by
    rw [← parts]
    exact searchable
  have components : ∀ t ∈ names ++ [last], IsComponent t :=
    fun t member => (words t member).component
  obtain ⟨each, one⟩ := List.forall_mem_append.mp words
  have own := List.forall_mem_singleton.mp one
  have init : IsComponent "__init__" := by decide
  have first := holds (names ++ [last]) "__init__" components init
  have second := holds names last (fun t member => (each t member).component) own.component
  have both : candidates site m =
      [((names ++ [last] ++ ["__init__" ++ ".py"]).foldl (· / ·) site, true),
        ((names ++ [last ++ ".py"]).foldl (· / ·) site, false)] := by
    simp only [candidates, parts, List.dropLast_concat, List.getLastD_concat]
    rfl
  have name_iff {dirs : List String} {stem : String} (each : ∀ n ∈ dirs, IsComponent n)
      (component : IsComponent stem) := name_file_eq_iff parts components own.module each component
  have package : (ofPath (file (names ++ [last]) "__init__") ["."]).name = m :=
    (name_iff components init).mpr (.inl ⟨rfl, rfl⟩)
  have module : (ofPath (file names last) ["."]).name = m :=
    (name_iff (fun n member => (each n member).component) own.component).mpr (.inr ⟨rfl, rfl⟩)
  rw [find, List.flatMap_singleton, both]
  refine (readFirst_pair first second).imp_left fun read => read.trans ?_
  cases found : files.find? fun p => (ofPath p ["."]).name == m with
  | none =>
    rw [List.find?_eq_none] at found
    have absent : file (names ++ [last]) "__init__" ∉ files := fun member =>
      found _ member (beq_iff_eq.mpr package)
    have absent' : file names last ∉ files := fun member =>
      found _ member (beq_iff_eq.mpr module)
    simp [absent, absent']
  | some p =>
    have inside := List.mem_of_find?_eq_some found
    have named : (ofPath p ["."]).name = m := by simpa using List.find?_some found
    obtain ⟨dirs, stem, parts', component, rfl⟩ := registry.components p inside
    rcases (name_iff parts' component).mp named with ⟨rfl, rfl⟩ | ⟨rfl, rfl⟩
    · have isPackage : (ofPath (file (names ++ [last]) "__init__") ["."]).isPackage = true := by
        rw [ofPath_file components init, if_pos rfl]
      simp only [div_file site components init, isPackage, inside, decide_true, if_true]
    · have isPackage : (ofPath (file dirs stem) ["."]).isPackage = false := by
        rw [ofPath_file parts' component, if_neg own.module]
      -- a package of this name would be a second file that gives it
      have absent : file (dirs ++ [stem]) "__init__" ∉ files := by
        intro member
        have same := List.inj_on_of_nodup_map registry.distinct member inside
          (package.trans named.symm)
        have differ := congrArg (fun p => (ofPath p ["."]).isPackage) same
        rw [ofPath_file components init, if_pos rfl] at differ
        simp [isPackage] at differ
      simp only [div_file site parts' component, isPackage, inside, absent, decide_true,
        decide_false, if_true, Bool.false_eq_true, if_false]

end SourceSet

/-! ## Loading files -/

namespace SourceUnit

/-- The unit without its place among the units. -/
def placeless (u : SourceUnit) : SourceUnit := { u with origin := .repository 0 }

/-- The unit as it is found in the directory of a search path. -/
def moved (site : Path) (u : SourceUnit) : SourceUnit :=
  { u with origin := .searchPath u.moduleName, path := (site / u.path).text }

/-- The unit of a text is the same in all places. -/
theorem ofText_eq (origin other : Origin) (path there : String) (identity : Identity)
    (text : String) :
    ofText origin path identity text =
      (ofText other there identity text).map fun u => { u with origin, path } := by
  rw [ofText, ofText]
  cases Module.parse text with
  | error e => rfl
  | ok m =>
    dsimp only
    split <;> rfl

theorem of_ofText {origin : Origin} {path text : String} {identity : Identity} {u : SourceUnit}
    (read : ofText origin path identity text = .ok u) :
    u.path = path ∧ u.identity = identity := by
  rw [ofText] at read
  split at read
  · cases read
  · split at read
    · cases read
    · cases read
      exact ⟨rfl, rfl⟩

end SourceUnit

namespace SourceSet

variable {tree : FileTree} {repo : Path} {roots : List String}

/-- The unit that a file of a repository gives, if it gives one. -/
def reading (tree : FileTree) (repo : Path) (roots : List String) (path : String) :
    Option SourceUnit :=
  match tree.readText (repo / path) with
  | .ok text => (SourceUnit.parse roots 0 path text).toOption
  | .error _ => none

theorem of_reading {path : String} {u : SourceUnit}
    (read : reading tree repo roots path = some u) :
    u.path = path ∧ u.identity = ofPath path roots := by
  unfold reading at read
  split at read
  · rename_i text _
    cases parsed : SourceUnit.parse roots 0 path text with
    | error e =>
      rw [parsed] at read
      cases read
    | ok v =>
      rw [parsed] at read
      cases read
      exact SourceUnit.of_ofText parsed
  · cases read

/-- The unit that was loaded, if there is one. -/
def Loaded.unit? : Loaded → Option SourceUnit
  | unit u => some u
  | failed _ => none

theorem reading_of_loadFile {index : Nat} {path : String} {found : Loaded}
    (loaded : loadFile tree repo roots index path = .ok found) :
    reading tree repo roots path = found.unit?.map SourceUnit.placeless := by
  unfold loadFile at loaded
  unfold reading
  split at loaded
  · cases loaded
  · rename_i e _ read
    cases loaded
    rw [read]
    rfl
  · rename_i text read
    have parsed : SourceUnit.parse roots 0 path text =
        (SourceUnit.parse roots index path text).map
          fun u => { u with origin := .repository 0, path } := SourceUnit.ofText_eq ..
    rw [read]
    dsimp only
    rw [parsed]
    split at loaded
    · rename_i u read
      cases loaded
      rw [read, ← (SourceUnit.of_ofText read).1]
      rfl
    · cases loaded
    · rename_i e _ read
      cases loaded
      rw [read]
      rfl

/-- The units of a repository are those that its files give, in the order of the files. -/
theorem units_of_loadFiles {start s : SourceSet} {paths warnings : List String}
    (loaded : loadFiles tree repo roots start paths = .ok (s, warnings)) :
    s.units.map SourceUnit.placeless =
      start.units.map SourceUnit.placeless ++ paths.filterMap (reading tree repo roots) := by
  replace loaded := loadsFiles_of_loadFiles loaded
  induction loaded with
  | nil => simp
  | unit found _ ih =>
    rw [ih, List.filterMap_cons_some (reading_of_loadFile found)]
    simp [add]
  | failed found _ ih => rw [ih, List.filterMap_cons_none (reading_of_loadFile found)]

/-- The units of some of the files are those that these files give. -/
theorem units_filter_of_loadFiles {s : SourceSet} {paths warnings : List String}
    {searchPaths : List Path}
    (loaded : loadFiles tree repo roots { searchPaths } paths = .ok (s, warnings))
    (keep : String → Bool) :
    (s.units.filter fun u => keep u.path).map SourceUnit.placeless =
      (paths.filter keep).filterMap (reading tree repo roots) := by
  calc (s.units.filter fun u => keep u.path).map SourceUnit.placeless
      = (s.units.map SourceUnit.placeless).filter fun u => keep u.path := by
        rw [List.filter_map]
        rfl
    _ = (paths.filterMap (reading tree repo roots)).filter fun u => keep u.path := by
        rw [units_of_loadFiles loaded]
        rfl
    _ = (paths.filter keep).filterMap (reading tree repo roots) := by
        rw [List.filter_filterMap, List.filterMap_filter]
        refine List.filterMap_congr fun p _ => ?_
        cases read : reading tree repo roots p with
        | none => simp
        | some u => simp [Option.filter, (of_reading read).1]

theorem path_of_loadFiles {s : SourceSet} {paths warnings : List String} {searchPaths : List Path}
    (loaded : loadFiles tree repo roots { searchPaths } paths = .ok (s, warnings)) :
    ∀ u ∈ s.units, u.path ∈ paths ∧ u.identity = ofPath u.path roots := by
  intro u member
  have inside := List.mem_map_of_mem (f := SourceUnit.placeless) member
  rw [units_of_loadFiles loaded, List.map_nil, List.nil_append] at inside
  obtain ⟨p, listed, read⟩ := List.mem_filterMap.mp inside
  have path : u.path = p := (of_reading read).1
  have identity : u.identity = ofPath p roots := (of_reading read).2
  rw [path]
  exact ⟨listed, identity⟩

/-- A file ends the loading if its name is invalid, or if the parser has no room for its text. -/
inductive EndsLoading (tree : FileTree) (path : Path) : Fault → Prop
  | name (invalid : tree.readText path = .error (.system .invalidName)) :
    EndsLoading tree path (.system .invalidName)
  | text (exhausts : tree.Exhausts path) : EndsLoading tree path .outOfMemory

theorem EndsLoading.congr {tree' : FileTree} {path path' : Path} {cause : Fault}
    (ends : EndsLoading tree path cause) (same : tree.readText path = tree'.readText path') :
    EndsLoading tree' path' cause := by
  rcases ends with invalid | ⟨text, read, exhausted⟩
  · exact .name (same ▸ invalid)
  · exact .text ⟨text, same ▸ read, exhausted⟩

theorem loadFile_eq_error_iff {index : Nat} {path : String} {cause : Fault} :
    loadFile tree repo roots index path = .error cause ↔
      EndsLoading tree (repo / path) cause := by
  unfold loadFile
  constructor
  · intro failed
    split at failed
    · rename_i invalid
      cases failed
      exact .name invalid
    · cases failed
    · rename_i text read
      split at failed
      · cases failed
      · rename_i exhausted
        cases failed
        exact .text ⟨text, read, SourceUnit.ofText_eq_exhausted_iff.mp exhausted⟩
      · cases failed
  · rintro (invalid | ⟨text, read, exhausted⟩)
    · rw [invalid]
    · have exhausted : SourceUnit.parse roots index path text = .error .exhausted :=
        SourceUnit.ofText_eq_exhausted_iff.mpr exhausted
      rw [read]
      dsimp only
      rw [exhausted]

/-- Files are loaded unless one of them ends the loading. -/
theorem exists_loadFiles_iff {start : SourceSet} {paths : List String} :
    (∃ s warnings, loadFiles tree repo roots start paths = .ok (s, warnings)) ↔
      ∀ p ∈ paths, ∀ cause, ¬EndsLoading tree (repo / p) cause := by
  induction paths generalizing start with
  | nil => exact iff_of_true ⟨start, [], rfl⟩ nofun
  | cons p rest ih =>
    rw [List.forall_mem_cons, loadFiles_cons]
    cases loaded : loadFile tree repo roots start.units.length p with
    | error cause =>
      refine iff_of_false nofun fun proceeds => ?_
      exact proceeds.1 cause (loadFile_eq_error_iff.mp loaded)
    | ok found =>
      have proceeds (cause : Fault) : ¬EndsLoading tree (repo / p) cause := fun ends => by
        rw [loadFile_eq_error_iff.mpr ends] at loaded
        cases loaded
      rw [and_iff_right proceeds]
      cases found with
      | unit u => exact ih
      | failed warning =>
        rw [← @ih { start with failed := start.failed ++ [p] }]
        dsimp only
        constructor
        · rintro ⟨s, warnings, done⟩
          split at done
          · cases done
          · rename_i more
            exact ⟨_, _, more⟩
        · rintro ⟨s, warnings, done⟩
          exact ⟨s, warning :: warnings, by rw [done]⟩

theorem searchPaths_of_loadFiles {start s : SourceSet} {paths warnings : List String}
    (loaded : loadFiles tree repo roots start paths = .ok (s, warnings)) :
    s.searchPaths = start.searchPaths := by
  replace loaded := loadsFiles_of_loadFiles loaded
  induction loaded with
  | nil => rfl
  | unit _ _ same => exact same
  | failed _ _ same => exact same

/-- What a set answers that looks for modules in the directory of a registry: the units that the
files give in a repository, moved there, as far as the paths are not too long. -/
theorem answers_of_holdsModules {tree' : FileTree} {s : SourceSet} {site : Path}
    {files : List String} (registry : IsRegistry files) (holds : tree'.HoldsModules site files)
    (same : ∀ p ∈ files, tree'.readText (site / p) = tree.readText (repo / p))
    (room : ∀ p ∈ files, ¬tree.Exhausts (repo / p)) (searched : s.searchPaths = [site])
    (new : s.outside = []) {m : String} (searchable : Dotted.MadeOf IsSearchable m) :
    (s.answers tree' m =
      .ok (((files.find? fun p => (ofPath p ["."]).name == m).bind (reading tree repo ["."])).map
        (SourceUnit.moved site))) ∨
      find tree' [site] m = .error (.system .nameTooLong) := by
  refine (find_of_holdsModules registry holds searchable).imp_left fun looked => ?_
  rw [answers_eq, new, searched, looked]
  cases found : files.find? fun p => (ofPath p ["."]).name == m with
  | none => rfl
  | some p =>
    have named : (ofPath p ["."]).name = m := by simpa using List.find?_some found
    have identity : ({ name := m, isPackage := (ofPath p ["."]).isPackage } : Identity) =
        ofPath p ["."] := by
      rw [← named]
    simp only [List.lookup_nil, Option.bind_some, readModule,
      same p (List.mem_of_find?_eq_some found), identity]
    unfold reading
    cases read : tree.readText (repo / p) with
    | error e => cases e <;> rfl
    | ok text =>
      dsimp only
      rw [SourceUnit.parse, SourceUnit.ofText_eq (.searchPath m) (.repository 0) _ p]
      cases parsed : SourceUnit.ofText (.repository 0) p (ofPath p ["."]) text with
      | error e =>
        have some : e ≠ .exhausted := by
          rintro rfl
          exact room p (List.mem_of_find?_eq_some found)
            ⟨text, read, SourceUnit.ofText_eq_exhausted_iff.mp parsed⟩
        cases e <;> first | rfl | exact absurd rfl some
      | ok u =>
        obtain ⟨path, own⟩ := SourceUnit.of_ofText parsed
        have module : u.moduleName = m := by rw [SourceUnit.moduleName, own, named]
        rw [← module, ← path]
        rfl

end SourceSet

end Catalog
