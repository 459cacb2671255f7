import Catalog.Proofs.FileTree.Frame
import Catalog.Proofs.Resolve.Redirects
import Catalog.Proofs.Scan.Records

/-!
# Source sets in use

A source set starts with the units of a repository, or without any, and nothing else. From then on
it changes by units that are added at the end, and by what is asked. In all sets that are reached
like this, every unit was read from a text, and a unit is known by its origin: those of the
repository by their place, the others by the name they are looked up under.
-/

namespace Catalog

namespace SourceSet

/-- The set comes from loading files of a repository, and after that from adding units that were
read from texts and from running queries. -/
inductive Reached (tree : FileTree) : SourceSet → Prop
  | load {repo : Path} {roots paths warnings : List String} {searchPaths : List Path}
      {s : SourceSet}
      (loaded : loadFiles tree repo roots { searchPaths } paths = .ok (s, warnings)) :
      Reached tree s
  | add {s : SourceSet} {u : SourceUnit} (before : Reached tree s)
      (next : u.origin = .repository s.units.length) (read : u.IsRead) : Reached tree (s.add u)
  | run {α : Type} {s : SourceSet} (before : Reached tree s) (q : Query α) :
      Reached tree (run tree q s).2

/-- The unit was read from a text as the module with the name, which was looked up. -/
structure IsFoundAs (m : String) (u : SourceUnit) : Prop where
  origin : u.origin = .searchPath m
  named : u.moduleName = m
  read : u.IsRead

/-- The units of the set stand where their origins say, and what is kept of other modules was read
under the name it is kept under. -/
structure IsKept (s : SourceSet) : Prop where
  orderly : s.IsOrderly
  outside : ∀ m u, s.outside.lookup m = some (some u) → IsFoundAs m u

variable {tree : FileTree} {s : SourceSet}

/-! ## Looking a module up -/

/-- A file that is a module was read as a text under the name that was asked for. -/
theorem ofText_of_readModule {m : String} {path : Path} {isPackage : Bool} {u : SourceUnit}
    (read : readModule tree m path isPackage = .ok (.unit u)) :
    ∃ text, tree.readText path = .ok text ∧
      SourceUnit.ofText (.searchPath m) path.text { name := m, isPackage } text = .ok u := by
  unfold readModule at read
  dsimp only at read
  split at read
  · cases read
  · cases read
  · rename_i text given
    split at read
    · rename_i parsed
      cases read
      exact ⟨text, given, parsed⟩
    · cases read
    · cases read

theorem unit_of_readModule {m : String} {path : Path} {isPackage : Bool} {u : SourceUnit}
    (read : readModule tree m path isPackage = .ok (.unit u)) : IsFoundAs m u := by
  obtain ⟨text, -, read⟩ := ofText_of_readModule read
  unfold SourceUnit.ofText at read
  split at read
  · cases read
  · rename_i parsed
    split at read
    · cases read
    · cases read
      exact ⟨rfl, rfl, _, _, _, text, _, parsed, rfl⟩

theorem unit_of_readFirst {m : String} {files : List (Path × Bool)} {u : SourceUnit}
    (read : readFirst tree m files = .ok (.unit u)) : IsFoundAs m u := by
  induction files with
  | nil => cases read
  | cons file rest ih =>
    obtain ⟨path, isPackage⟩ := file
    unfold readFirst at read
    split at read
    · cases read
    · exact unit_of_readModule read
    · exact ih read

/-! ## What is kept -/

/-- A unit that is found outside of the repository was read under the name that was asked for. -/
theorem IsKept.of_answers (kept : s.IsKept) {m : String} {u : SourceUnit}
    (found : s.answers tree m = .ok (some u)) : IsFoundAs m u := by
  rw [answers_eq] at found
  split at found
  · rename_i answer known
    cases found
    exact kept.outside m u known
  · split at found
    · cases found
    · rename_i looked
      cases found
      exact unit_of_readFirst looked
    · cases found

theorem IsKept.outsideUnit (kept : s.IsKept) (m : String) :
    (outsideUnit tree s m).2.IsKept := by
  have adds (answer : Option SourceUnit) (failures : List String)
      (read : ∀ u, answer = some u → IsFoundAs m u) :
      IsKept { s with outside := (m, answer) :: s.outside, outsideFailures := failures } := by
    refine ⟨⟨kept.orderly.origins, kept.orderly.texts⟩, fun other u known => ?_⟩
    rw [List.lookup_cons] at known
    split at known
    · rename_i same
      rw [beq_iff_eq.mp same]
      exact read u (Option.some.inj known)
    · exact kept.outside other u known
  unfold SourceSet.outsideUnit
  cases s.outside.lookup m with
  | some answer => exact kept
  | none =>
    cases looked : find tree s.searchPaths m with
    | error cause => exact adds none _ (by simp)
    | ok found =>
      cases found with
      | missing | broken => exact adds none _ (by simp)
      | unit u =>
        refine adds (some u) _ fun u' same => ?_
        cases same
        exact unit_of_readFirst looked

theorem IsKept.run {α : Type} (kept : s.IsKept) (q : Query α) : (run tree q s).2.IsKept := by
  induction q generalizing s with
  | done | fail => exact kept
  | ask m next ih =>
    have kept' : (SourceSet.outsideUnit tree s m).2.IsKept := kept.outsideUnit m
    rw [SourceSet.run]
    rcases given : SourceSet.outsideUnit tree s m with ⟨cause | answer, s'⟩
    · rw [given] at kept'
      exact kept'
    · rw [given] at kept'
      exact ih answer kept'

/-- Loading files keeps nothing of other modules. -/
theorem outside_of_loadFiles {repo : Path} {roots paths warnings : List String}
    {start : SourceSet} (loaded : loadFiles tree repo roots start paths = .ok (s, warnings)) :
    s.outside = start.outside ∧ s.outsideFailures = start.outsideFailures := by
  replace loaded := loadsFiles_of_loadFiles loaded
  induction loaded with
  | nil => exact ⟨rfl, rfl⟩
  | unit _ _ same => exact same
  | failed _ _ same => exact same

theorem Reached.isKept (reached : s.Reached tree) : s.IsKept := by
  induction reached with
  | load loaded =>
    refine ⟨isOrderly_of_loadFiles ⟨by simp, by simp⟩ loaded, fun m u known => ?_⟩
    rw [(outside_of_loadFiles loaded).1] at known
    cases known
  | add _ next read ih => exact ⟨ih.orderly.add next read, ih.outside⟩
  | run _ q ih => exact ih.run q

/-- The units of the repository stand at different places. -/
theorem IsKept.nodup_origins (kept : s.IsKept) : (s.units.map SourceUnit.origin).Nodup := by
  rw [kept.orderly.origins]
  exact List.nodup_range.map fun i j same => Origin.repository.inj same

theorem IsKept.placed (kept : s.IsKept) {u : SourceUnit} (member : u ∈ s.units) :
    ∃ index, u.origin = .repository index := by
  have inside := List.mem_map_of_mem (f := SourceUnit.origin) member
  rw [kept.orderly.origins] at inside
  obtain ⟨index, _, same⟩ := List.mem_map.mp inside
  exact ⟨index, same.symm⟩

end SourceSet

/-! ## Sets of texts -/

namespace FileTree

/-- The tree that holds the given texts as files, each under its name. -/
def ofTexts (texts : List (String × String)) : FileTree :=
  { entries := texts.map fun (name, text) => ([name], .file text.toUTF8) }

/-- The name is that of a file below the root, and the text is read as it is written. -/
def isSimple (name text : String) : Bool :=
  Path.ofString name = { parts := [name] } && name != ".." &&
    name.utf8ByteSize ≤ maxNameBytes && !name.toList.contains '\x00' &&
    Text.unifyBreaks text = text

variable {texts : List (String × String)} {name text : String}

theorem find?_ofTexts (distinct : (texts.map Prod.fst).Nodup) (member : (name, text) ∈ texts) :
    (ofTexts texts).find? [name] = some (.file text.toUTF8) := by
  rw [find?, ofTexts]
  induction texts with
  | nil => cases member
  | cons first rest ih =>
    obtain ⟨new, distinct⟩ := List.nodup_cons.mp distinct
    rcases List.mem_cons.mp member with rfl | member
    · simp
    · have other : [name] ≠ [first.1] := by
        rintro ⟨⟩
        exact new (List.mem_map.mpr ⟨_, member, rfl⟩)
      rw [List.map_cons, List.lookup_cons, beq_eq_false_iff_ne.mpr other]
      exact ih distinct member

theorem readText_ofTexts (distinct : (texts.map Prod.fst).Nodup) (member : (name, text) ∈ texts)
    (simple : isSimple name text = true) :
    (ofTexts texts).readText (({} : Path) / name) = .ok text := by
  simp only [isSimple, Bool.and_eq_true, decide_eq_true_eq, bne_iff_ne, Bool.not_eq_true']
    at simple
  obtain ⟨⟨⟨⟨path, up⟩, short⟩, valid⟩, read⟩ := simple
  have location : ({} : Path) / name = { parts := [name] } := by
    change Path.append {} (Path.ofString name) = _
    rw [path]
    rfl
  have followed : (ofTexts texts).follow true { parts := [name] } =
      .ok ([name], some (.file text.toUTF8)) := by
    have fits : Fits { parts := [name] } := by
      refine ⟨by simpa [isInvalid] using valid, ?_⟩
      have whole : maxNameBytes ≤ maxPathBytes := by decide
      rw [Path.text_single]
      exact short.trans whole
    rw [fits.follow]
    simp [followFrom, find?_ofTexts distinct member, up, Nat.not_lt.mpr short]
  have decoded : String.fromUTF8? text.toUTF8 = some text := dif_pos text.isValidUTF8
  rw [location, readText, stat, followed]
  simp only [decoded, read]

theorem find?_ofTexts_ne_link (texts : List (String × String)) (l : List String)
    (target : String) : (ofTexts texts).find? l ≠ some (.link target) := by
  intro found
  cases l with
  | nil => cases found
  | cons name rest =>
    obtain ⟨before, after, split, -⟩ := List.lookup_eq_some_iff.mp found
    have member : (name :: rest, Entry.link target) ∈ (ofTexts texts).entries := by
      rw [split]
      exact List.mem_append_right _ List.mem_cons_self
    obtain ⟨file, -, same⟩ := List.mem_map.mp member
    cases same

/-- Files do not lead elsewhere, so paths are resolved by their names alone. -/
theorem resolveFrom_ofTexts (texts : List (String × String)) (links : Nat)
    (here todo : List String) :
    (ofTexts texts).resolveFrom links here todo =
      .ok (todo.foldl (fun here name => if name == ".." then here.dropLast else here ++ [name])
        here) := by
  induction todo generalizing here with
  | nil => rw [resolveFrom, List.foldl_nil]
  | cons name rest ih =>
    rw [resolveFrom, List.foldl_cons]
    split
    · exact ih _
    · split
      · rename_i target found
        exact absurd found (find?_ofTexts_ne_link texts _ target)
      · exact ih _

theorem exists_resolve_ofTexts (texts : List (String × String)) {path : Path}
    (valid : isInvalid path = false) :
    ∃ resolved, (ofTexts texts).resolve path = .ok resolved := by
  rw [resolve, if_neg (by simp [valid]), resolveFrom_ofTexts]
  exact ⟨_, rfl⟩

end FileTree

namespace SourceSet

/-- Files whose texts can be read and parsed are loaded one after another. -/
theorem loadFiles_of_texts {tree : FileTree} {repo : Path} {roots : List String}
    {texts : List (String × String)} {start : SourceSet}
    (stand : ∀ f ∈ texts, tree.readText (repo / f.1) = .ok f.2)
    (parsed : ∀ f ∈ texts.zipIdx start.units.length,
      (SourceUnit.parse roots f.2 f.1.1 f.1.2).isOk = true) :
    loadFiles tree repo roots start (texts.map Prod.fst) =
      .ok ({ start with units := start.units ++
        (texts.zipIdx start.units.length).filterMap fun ((path, text), index) =>
          (SourceUnit.parse roots index path text).toOption }, []) := by
  induction texts generalizing start with
  | nil =>
    rw [List.zipIdx_nil, List.filterMap_nil, List.append_nil]
    rfl
  | cons f rest ih =>
    obtain ⟨path, text⟩ := f
    obtain ⟨here, stand⟩ := List.forall_mem_cons.mp stand
    rw [List.zipIdx_cons] at parsed
    obtain ⟨first, parsed⟩ := List.forall_mem_cons.mp parsed
    cases read : SourceUnit.parse roots start.units.length path text with
    | error e =>
      rw [read] at first
      cases first
    | ok u =>
      have loaded : loadFile tree repo roots start.units.length path = .ok (.unit u) := by
        unfold loadFile
        simp only [here, read]
      have more := @ih (start.add u) stand (by simpa [add] using parsed)
      rw [List.map_cons, loadFiles_cons, loaded]
      simp only [more]
      simp [add, read, Except.toOption]

section

variable {tree : FileTree} {repo : Path} {texts : List (String × String)}
  (stand : ∀ f ∈ texts, tree.readText (repo / f.1) = .ok f.2)
  (parsed : ∀ f ∈ texts.zipIdx, (SourceUnit.parse ["."] f.2 f.1.1 f.1.2).isOk = true)
include stand parsed

theorem loadFiles_searching (searchPaths : List Path) :
    loadFiles tree repo ["."] { searchPaths } (texts.map Prod.fst) =
      .ok ({ ofTexts texts with searchPaths }, []) :=
  loadFiles_of_texts stand parsed

theorem loadFiles_ofTexts :
    loadFiles tree repo ["."] {} (texts.map Prod.fst) = .ok (ofTexts texts, []) :=
  loadFiles_searching stand parsed []

end

theorem answers_ofTexts (tree : FileTree) (texts : List (String × String)) :
    (ofTexts texts).answers tree = fun _ => .ok none :=
  funext fun _ => answers_of_searchPaths_nil rfl rfl _

/-- A set of texts that parse is in use, when they stand in files. -/
theorem reached_ofTexts {texts : List (String × String)}
    (distinct : (texts.map Prod.fst).Nodup)
    (simple : ∀ f ∈ texts, FileTree.isSimple f.1 f.2 = true)
    (parsed : ∀ f ∈ texts.zipIdx, (SourceUnit.parse ["."] f.2 f.1.1 f.1.2).isOk = true) :
    (ofTexts texts).Reached (FileTree.ofTexts texts) := by
  have stand : ∀ f ∈ texts, (FileTree.ofTexts texts).readText (({} : Path) / f.1) = .ok f.2 :=
    fun f member => FileTree.readText_ofTexts distinct member (simple f member)
  exact .load (loadFiles_ofTexts stand parsed)

end SourceSet

namespace Resolve.Modules

variable {tree : FileTree} {s : SourceSet} {u v : SourceUnit}

/-- In a set in use, a unit is known by its origin. -/
theorem eq_of_origin (reached : s.Reached tree) (first : (ofSources tree s).Has u)
    (second : (ofSources tree s).Has v) (same : u.origin = v.origin) : u = v := by
  have kept := reached.isKept
  rcases first with member | ⟨m, found⟩ <;> rcases second with member' | ⟨m', found'⟩
  · exact List.inj_on_of_nodup_map kept.nodup_origins member member' same
  · obtain ⟨index, place⟩ := kept.placed member
    rw [place, (kept.of_answers found').origin] at same
    cases same
  · obtain ⟨index, place⟩ := kept.placed member'
    rw [place, (kept.of_answers found).origin] at same
    cases same
  · rw [(kept.of_answers found).origin, (kept.of_answers found').origin] at same
    cases same
    exact Option.some.inj (Except.ok.inj (found.symm.trans found'))

/-- All units of a set in use were read from texts. -/
theorem isRead_of_has (reached : s.Reached tree) (has : (ofSources tree s).Has u) : u.IsRead := by
  rcases has with member | ⟨m, found⟩
  · exact reached.isKept.orderly.texts u member
  · exact (reached.isKept.of_answers found).read

end Resolve.Modules

end Catalog
