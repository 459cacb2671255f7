import Catalog.Proofs.Source.Locations
import Catalog.Proofs.Source.Sessions

/-!
# Splitting names at modules

A qualified name is split into a module and the segments after it. The module is looked for twice:
among the units of the repository, and if no beginning of the name is the name of one, outside of
it. Both times the beginnings are tried from the longest one to the shortest one.

Modules outside of the repository are loaded as they are asked for, and what came of it is kept. A
module is kept as a unit exactly if it can be loaded, so it does not matter what was asked before:
of the beginnings that can be loaded, the longest one is found.
-/

namespace Catalog

/-! ## Beginnings of a name -/

namespace Dotted

/-- The name `m` is the longest one that begins the dotted name `q` and is known. -/
structure IsLongest (Known : String → Prop) (q m : String) : Prop where
  begins : Begins m q
  known : Known m
  longest : ∀ p, Begins p q → Known p → p.length ≤ m.length

theorem Begins.length_le {p q : String} (begins : Begins p q) : p.length ≤ q.length := by
  rcases begins with rfl | ⟨tail, rfl⟩
  · exact Nat.le_refl _
  · rw [String.length_append, String.length_append]
    omega

end Dotted

namespace Resolve

/-- A name is cut between any two of its segments, and behind the last one. -/
theorem mem_cuts_iff {q m : String} {rest : List String} :
    (m, rest) ∈ cuts q ↔ Dotted.segments q = Dotted.segments m ++ rest := by
  rw [cuts, List.mem_map]
  constructor
  · rintro ⟨k, inside, same⟩
    have some : (Dotted.segments q).take ((Dotted.segments q).length - k) ≠ [] := by
      have := List.mem_range.mp inside
      rw [← List.length_pos_iff, List.length_take]
      omega
    cases same
    rw [Dotted.segments_ofSegments_of_isPlain some fun s member =>
      Dotted.isPlain_of_mem_segments s (List.mem_of_mem_take member), List.take_append_drop]
  · intro parts
    have some : 0 < (Dotted.segments m).length :=
      List.length_pos_iff.mpr (Dotted.segments_ne_nil m)
    refine ⟨rest.length, ?_, ?_⟩
    · rw [List.mem_range, parts, List.length_append]
      omega
    · rw [parts, List.length_append, Nat.add_sub_cancel, List.take_left, List.drop_left,
        Dotted.ofSegments_segments]

theorem exists_mem_cuts_iff {q p : String} : (∃ rest, (p, rest) ∈ cuts q) ↔ Dotted.Begins p q := by
  rw [Dotted.begins_iff_prefix]
  constructor
  · rintro ⟨rest, member⟩
    exact ⟨rest, (mem_cuts_iff.mp member).symm⟩
  · rintro ⟨rest, parts⟩
    exact ⟨rest, mem_cuts_iff.mpr parts.symm⟩

/-- The two parts of a cut make up the name. -/
theorem ofSegments_of_mem_cuts {q m : String} {rest : List String} (member : (m, rest) ∈ cuts q) :
    Dotted.ofSegments (m :: rest) = q := by
  have parts := mem_cuts_iff.mp member
  have plain : ∀ s ∈ rest, Dotted.IsPlain s := by
    intro s inside
    apply Dotted.isPlain_of_mem_segments (s := q)
    rw [parts]
    exact List.mem_append_right _ inside
  rw [← Dotted.ofSegments_segments (Dotted.ofSegments (m :: rest)),
    Dotted.segments_ofSegments m plain, ← parts, Dotted.ofSegments_segments]

/-- The cuts come in the order of the segments they leave, the shortest list first. -/
theorem pairwise_cuts (q : String) : (cuts q).Pairwise fun c d => c.2.length < d.2.length := by
  rw [cuts, List.pairwise_map]
  apply List.pairwise_lt_range.imp_of_mem
  intro i j inside inside' order
  have := List.mem_range.mp inside
  have := List.mem_range.mp inside'
  simp only [List.length_drop]
  omega

/-- Of two cuts of a name the one that leaves no more segments has the longer first part. -/
theorem length_le_of_mem_cuts {q m p : String} {rest own : List String}
    (cut : (m, rest) ∈ cuts q) (other : (p, own) ∈ cuts q) (fewer : rest.length ≤ own.length) :
    p.length ≤ m.length := by
  have parts := mem_cuts_iff.mp cut
  have parts' := mem_cuts_iff.mp other
  have lengths := congrArg List.length (parts.symm.trans parts')
  rw [List.length_append, List.length_append] at lengths
  apply Dotted.Begins.length_le
  apply Dotted.begins_iff_prefix.mpr
  apply List.prefix_of_prefix_length_le ⟨own, parts'.symm⟩ ⟨rest, parts.symm⟩
  omega

/-- The module of the first cut that is known is the longest beginning that is known. -/
theorem Modules.FirstCut.isLongest {knows : String → SourceUnit → Prop} {lacks : String → Prop}
    (Known : String → Prop) {q : String} {u : SourceUnit} {rest : List String}
    (first : FirstCut knows lacks (cuts q) u rest) (known : ∀ m, knows m u → Known m)
    (unknown : ∀ m, lacks m → ¬Known m) :
    ∃ m, knows m u ∧ Dotted.ofSegments (m :: rest) = q ∧ Dotted.IsLongest Known q m := by
  obtain ⟨longer, m, shorter, split, hit, passed⟩ := first
  have cut : (m, rest) ∈ cuts q := by simp [split]
  refine ⟨m, hit, ofSegments_of_mem_cuts cut, exists_mem_cuts_iff.mp ⟨rest, cut⟩, known m hit, ?_⟩
  intro p begins own
  obtain ⟨left, other⟩ := exists_mem_cuts_iff.mpr begins
  have place := other
  rw [split] at place
  rcases List.mem_append.mp place with before | place
  · exact absurd own (unknown p (passed (p, left) before))
  · apply length_le_of_mem_cuts cut other
    rcases List.mem_cons.mp place with same | behind
    · cases same
      exact Nat.le_refl _
    · have order := pairwise_cuts q
      rw [split] at order
      exact Nat.le_of_lt (List.rel_of_pairwise_cons (List.pairwise_append.mp order).2.1 behind)

/-! ## Looking for a module outside of the repository -/

section

variable {known : String → Except Fault (Option SourceUnit)}

/-- The first cut decides, unless its module is not there. -/
theorem answer_firstOutside?_cons (m : String) (rest : List String)
    (more : List (String × List String)) :
    (firstOutside? ((m, rest) :: more)).answer known =
      match known m with
      | .error cause => .error cause
      | .ok (some u) => .ok (some (u, rest))
      | .ok none => (firstOutside? more).answer known := by
  change (Query.ask m fun found => _).answer known = _
  rw [Query.answer]
  cases known m with
  | error cause => rfl
  | ok found => cases found <;> rfl

theorem firstOutside?_eq_none {cs : List (String × List String)}
    (answered : (firstOutside? cs).answer known = .ok none) : ∀ c ∈ cs, known c.1 = .ok none := by
  induction cs with
  | nil => exact List.forall_mem_nil _
  | cons c more ih =>
    obtain ⟨m, rest⟩ := c
    rw [answer_firstOutside?_cons] at answered
    split at answered
    · cases answered
    · cases answered
    · rename_i missing
      exact List.forall_mem_cons.mpr ⟨missing, ih answered⟩

theorem firstOutside?_eq_error {cs : List (String × List String)} {cause : Fault}
    (failed : (firstOutside? cs).answer known = .error cause) :
    ∃ c ∈ cs, known c.1 = .error cause := by
  induction cs with
  | nil => cases failed
  | cons c more ih =>
    obtain ⟨m, rest⟩ := c
    rw [answer_firstOutside?_cons] at failed
    split at failed
    · rename_i own
      cases failed
      exact ⟨(m, rest), List.mem_cons_self, own⟩
    · cases failed
    · obtain ⟨c, member, own⟩ := ih failed
      exact ⟨c, List.mem_cons_of_mem _ member, own⟩

/-- A name is split at a module of the repository, or begins with none and is split outside. -/
theorem answer_split? (units : List SourceUnit) (q : String) :
    (∃ found, (split? units q).answer known = .ok (some found)) ∨
      (∀ p, Dotted.Begins p q → indexed? units p = none) ∧
        (split? units q).answer known = (firstOutside? (cuts q)).answer known := by
  rw [split?]
  split
  · rename_i found _
    exact .inl ⟨found, rfl⟩
  · rename_i missing
    refine .inr ⟨?_, rfl⟩
    intro p begins
    obtain ⟨rest, cut⟩ := exists_mem_cuts_iff.mpr begins
    simpa using List.findSome?_eq_none_iff.mp missing (p, rest) cut

theorem split?_eq_none {units : List SourceUnit} {q p : String}
    (answered : (split? units q).answer known = .ok none) (begins : Dotted.Begins p q) :
    indexed? units p = none ∧ known p = .ok none := by
  rcases answer_split? units q with ⟨found, other⟩ | ⟨foreign, same⟩
  · cases answered.symm.trans other
  · obtain ⟨rest, cut⟩ := exists_mem_cuts_iff.mpr begins
    exact ⟨foreign p begins, firstOutside?_eq_none (same.symm.trans answered) (p, rest) cut⟩

theorem split?_eq_error {units : List SourceUnit} {q : String} {cause : Fault}
    (failed : (split? units q).answer known = .error cause) :
    (∀ p, Dotted.Begins p q → indexed? units p = none) ∧
      ∃ p, Dotted.Begins p q ∧ known p = .error cause := by
  rcases answer_split? units q with ⟨found, other⟩ | ⟨foreign, same⟩
  · cases failed.symm.trans other
  · obtain ⟨⟨p, rest⟩, cut, own⟩ := firstOutside?_eq_error (same.symm.trans failed)
    exact ⟨foreign, p, exists_mem_cuts_iff.mp ⟨rest, cut⟩, own⟩

end

end Resolve

/-! ## Source sets in use -/

namespace SourceSet

open Resolve

/-- The set is a new one, or comes from one by adding units and by running queries, while the files
stay as they are. -/
inductive InUse (tree : FileTree) : SourceSet → Prop
  | new {s : SourceSet} (fresh : s.outside = []) (quiet : s.outsideFailures = []) : InUse tree s
  | add {s : SourceSet} (before : InUse tree s) (u : SourceUnit) : InUse tree (s.add u)
  | run {α : Type} {s : SourceSet} (before : InUse tree s) (q : Query α) :
      InUse tree (run tree q s).2

/-- The unit is the first one of the repository that is the module `m`. A unit without a name is no
module that can be named. -/
def Indexes (s : SourceSet) (m : String) (u : SourceUnit) : Prop :=
  m ≠ "" ∧ u.moduleName = m ∧
    ∃ before after, s.units = before ++ u :: after ∧ ∀ v ∈ before, v.moduleName ≠ m

/-- The module `m` can be loaded from the search paths, as the unit `u`: among the files in which
it may stand, in the order of the search paths, there is a first one, and it is read as `u`. A file
that is no module hides those after it, and so does a place of which it cannot be seen whether there
is a file. -/
def Loads (tree : FileTree) (s : SourceSet) (m : String) (u : SourceUnit) : Prop :=
  ∃ before path isPackage after,
    (s.searchPaths.flatMap fun base => candidates base m) = before ++ (path, isPackage) :: after ∧
      (∀ c ∈ before, tree.isFile c.1 = .ok false) ∧ tree.isFile path = .ok true ∧
        readModule tree m path isPackage = .ok (.unit u)

variable {tree : FileTree} {s : SourceSet} {m : String} {u : SourceUnit}

theorem InUse.keeps (used : s.InUse tree) : Keeps tree (fun _ => True) s := by
  induction used with
  | new fresh quiet =>
    refine ⟨?_, [], List.nodup_nil, nofun, ?_⟩
    · rw [fresh]
      nofun
    · rw [quiet]
      exact .nil
  | add before u ih => exact ih.add u
  | run before q ih =>
    obtain ⟨kept, -⟩ := ih.run q rfl
    exact kept.mono fun _ _ => trivial

/-! ## Loading -/

theorem readFirst_eq_unit_iff {files : List (Path × Bool)} :
    readFirst tree m files = .ok (.unit u) ↔
      ∃ before path isPackage after, files = before ++ (path, isPackage) :: after ∧
        (∀ c ∈ before, tree.isFile c.1 = .ok false) ∧ tree.isFile path = .ok true ∧
          readModule tree m path isPackage = .ok (.unit u) := by
  induction files with
  | nil => simp [readFirst]
  | cons file rest ih =>
    obtain ⟨path, isPackage⟩ := file
    rw [readFirst]
    constructor
    · intro found
      split at found
      · cases found
      · rename_i here
        exact ⟨[], path, isPackage, rest, rfl, List.forall_mem_nil _, here, found⟩
      · rename_i missing
        obtain ⟨before, path', isPackage', after, rfl, passed, here, read⟩ := ih.mp found
        exact ⟨(path, isPackage) :: before, path', isPackage', after, rfl,
          List.forall_mem_cons.mpr ⟨missing, passed⟩, here, read⟩
    · rintro ⟨_ | ⟨c, before⟩, path', isPackage', after, split, passed, here, read⟩
      · cases split
        simp only [here, read]
      · cases split
        obtain ⟨missing, passed⟩ := List.forall_mem_cons.mp passed
        simp only [missing]
        exact ih.mpr ⟨before, path', isPackage', after, rfl, passed, here, read⟩

theorem loads_iff_find : s.Loads tree m u ↔ find tree s.searchPaths m = .ok (.unit u) :=
  readFirst_eq_unit_iff.symm

/-- A text that parses is loaded from the second place of the only directory, if there is nothing at
the first place. -/
theorem exists_loads {package path : Path} {text : String}
    (files : (s.searchPaths.flatMap fun base => candidates base m) =
      [(package, true), (path, false)])
    (bare : tree.isFile package = .ok false) (file : tree.isFile path = .ok true)
    (read : tree.readText path = .ok text)
    (parsed : (SourceUnit.ofText (.searchPath m) path.text { name := m, isPackage := false }
      text).isOk = true) : ∃ u, s.Loads tree m u := by
  cases given : SourceUnit.ofText (.searchPath m) path.text { name := m, isPackage := false }
      text with
  | error e =>
    rw [given] at parsed
    cases parsed
  | ok u =>
    refine ⟨u, [(package, true)], path, false, [], files, ?_, file, ?_⟩
    · exact List.forall_mem_singleton.mpr bare
    · simp only [readModule, read, given]

/-- A unit is loaded under the name that is asked for. -/
theorem Loads.moduleName_eq (loads : s.Loads tree m u) : u.moduleName = m := by
  obtain ⟨before, path, isPackage, after, -, -, -, read⟩ := loads
  obtain ⟨text, -, parsed⟩ := ofText_of_readModule read
  rw [SourceUnit.moduleName, (SourceUnit.of_ofText parsed).2]

/-- What is answered for a module is the unit that it can be loaded as, whatever was asked
before. -/
theorem Keeps.answers_eq_some_iff {noted : Fault → Prop} (keeps : Keeps tree noted s) :
    s.answers tree m = .ok (some u) ↔ s.Loads tree m u := by
  rw [loads_iff_find, answers_eq]
  cases known : s.outside.lookup m with
  | none =>
    cases find tree s.searchPaths m with
    | error cause => simp
    | ok found => cases found <;> simp
  | some answer =>
    rcases keeps.answers m answer known with given | ⟨e, gone, -⟩
    · rw [renewed_answers_eq] at given
      cases looked : find tree s.searchPaths m with
      | error cause =>
        rw [looked] at given
        cases given
      | ok found =>
        rw [looked] at given
        cases found <;> cases given <;> simp
    · -- a module whose look-up failed is kept as missing
      rw [gone.kept] at known
      cases known
      simp [gone.failed]

/-! ## What a name is split into -/

/-- The name `q` is the unit's module and the segments `rest`, and the unit is that of the longest
beginning that is known: known in the repository, or, if none of them is, outside of it. -/
structure SplitsLongest (tree : FileTree) (s : SourceSet) (q : String) (u : SourceUnit)
    (rest : List String) : Prop where
  whole : Dotted.ofSegments (u.moduleName :: rest) = q
  longest :
    (s.Indexes u.moduleName u ∧
      Dotted.IsLongest (fun m => ∃ v, s.Indexes m v) q u.moduleName) ∨
    (∀ p v, Dotted.Begins p q → ¬s.Indexes p v) ∧ s.Loads tree u.moduleName u ∧
      Dotted.IsLongest (fun m => ∃ v, s.Loads tree m v) q u.moduleName

theorem not_indexes_of_eq_none (missing : indexed? s.units m = none) (v : SourceUnit) :
    ¬s.Indexes m v := by
  intro indexes
  cases missing.symm.trans (indexed?_eq_some_iff.mpr indexes)

section

variable {noted : Fault → Prop} (keeps : Keeps tree noted s)
include keeps

theorem Keeps.not_loads (missing : s.answers tree m = .ok none) (v : SourceUnit) :
    ¬s.Loads tree m v := by
  intro loads
  cases missing.symm.trans (keeps.answers_eq_some_iff.mpr loads)

theorem Keeps.splitsLongest {q : String} {rest : List String}
    (splits : (Modules.ofSources tree s).Splits q u rest) : SplitsLongest tree s q u rest := by
  rcases Modules.splits_iff.mp splits with first | ⟨foreign, first⟩
  · obtain ⟨m, found, whole, longest⟩ :=
      first.isLongest (fun m => ∃ v, s.Indexes m v)
        (fun m found => ⟨u, indexed?_eq_some_iff.mp found⟩)
        (fun m missing ⟨v, indexes⟩ => not_indexes_of_eq_none missing v indexes)
    have indexes : s.Indexes m u := indexed?_eq_some_iff.mp found
    have name : u.moduleName = m := indexes.2.1
    subst name
    exact ⟨whole, .inl ⟨indexes, longest⟩⟩
  · obtain ⟨m, found, whole, longest⟩ :=
      first.isLongest (fun m => ∃ v, s.Loads tree m v)
        (fun m found => ⟨u, keeps.answers_eq_some_iff.mp found⟩)
        (fun m missing ⟨v, loads⟩ => keeps.not_loads missing v loads)
    have loads : s.Loads tree m u := keeps.answers_eq_some_iff.mp found
    have name : u.moduleName = m := loads.moduleName_eq
    subst name
    refine ⟨whole, .inr ⟨?_, loads, longest⟩⟩
    intro p v begins
    obtain ⟨left, cut⟩ := exists_mem_cuts_iff.mpr begins
    exact not_indexes_of_eq_none (foreign (p, left) cut) v

end

/-- A name is split at the longest beginning that is a module of the repository, and if there is
none, at the longest one that can be loaded; put together again, the parts are the name. It is not
split only if no beginning is known in either way. The search fails only if no beginning is a module
of the repository, and for a beginning it cannot be seen if there is a file, or the parser has no
room for the file that is there. A text that is not empty ends in another one exactly if its
segments end in those of the other. -/
theorem split_longest (used : s.InUse tree) (q : String) :
    (∀ u rest, (run tree (split? s.units q) s).1 = .ok (some (u, rest)) →
      SplitsLongest tree s q u rest) ∧
    ((run tree (split? s.units q) s).1 = .ok none →
      ∀ p v, Dotted.Begins p q → ¬s.Indexes p v ∧ ¬s.Loads tree p v) ∧
    (∀ cause, (run tree (split? s.units q) s).1 = .error cause →
      (∀ p v, Dotted.Begins p q → ¬s.Indexes p v) ∧
      ∃ p, Dotted.Begins p q ∧ ∃ base ∈ s.searchPaths, ∃ c ∈ candidates base p,
        tree.Refuses c.1 cause) ∧
    ∀ value suffix : String, value ≠ "" → suffix ≠ "" →
      (Dotted.endsIn value suffix = true ↔
        Dotted.segments suffix <:+ Dotted.segments value) := by
  have keeps := used.keeps
  rw [run_fst]
  refine ⟨?_, ?_, ?_, fun value suffix => Dotted.endsIn_iff_suffix⟩
  · intro u rest split
    exact keeps.splitsLongest split
  · intro missing p v begins
    obtain ⟨foreign, unanswered⟩ := split?_eq_none missing begins
    exact ⟨not_indexes_of_eq_none foreign v, keeps.not_loads unanswered v⟩
  · intro cause failed
    obtain ⟨foreign, p, begins, own⟩ := split?_eq_error failed
    refine ⟨?_, p, begins, refuses_of_answers own⟩
    intro p v begins
    exact not_indexes_of_eq_none (foreign p begins) v

/-- A directory that holds one module. -/
def library : FileTree := .ofTexts [("k.py", "n = 'x'\n")]

/-- A set that looks for modules in the directory, and was asked for one that is not there. -/
def reader : SourceSet := { searchPaths := [{}], outside := [("k.n", none)] }

theorem isPlain_library : library.IsPlain := by decide

theorem inUse_reader : reader.InUse library := by
  have files : [({} : Path)].flatMap (candidates · "k.n") =
      [({ parts := ["k", "n", "__init__.py"] }, true), ({ parts := ["k", "n.py"] }, false)] := by
    decide
  have package : library.isFile { parts := ["k", "n", "__init__.py"] } = .ok false :=
    isPlain_library.isFile (by decide)
  have module : library.isFile { parts := ["k", "n.py"] } = .ok false :=
    isPlain_library.isFile (by decide)
  have missing : find library [{}] "k.n" = .ok .missing := by
    rw [find, files]
    simp only [readFirst, package, module]
  have asked : reader = (run library (Query.outside "k.n") { searchPaths := [{}] }).2 := by
    rw [Query.outside, run, outsideUnit]
    simp only [missing]
    rfl
  rw [asked]
  exact .run (.new rfl rfl) (Query.outside "k.n")

theorem exists_loads_library : ∃ u, reader.Loads library "k" u := by
  have package : library.isFile { parts := ["k", "__init__.py"] } = .ok false :=
    isPlain_library.isFile (by decide)
  have module : library.isFile { parts := ["k.py"] } = .ok true :=
    isPlain_library.isFile (by decide)
  have text : library.readText { parts := ["k.py"] } = .ok "n = 'x'\n" :=
    isPlain_library.readText (by decide) rfl (by decide)
  exact exists_loads (by decide) package module text (by decide +kernel)

/-- The name is split at the module that is there, although a longer one was asked for before. -/
theorem split_longest_kept :
    reader.InUse library ∧
      ∃ u, (run library (split? reader.units "k.n") reader).1 = .ok (some (u, ["n"])) ∧
        SplitsLongest library reader "k.n" u ["n"] ∧ u.moduleName = "k" := by
  obtain ⟨u, loads⟩ := exists_loads_library
  have splits : (Modules.ofSources library reader).Splits "k.n" u ["n"] := by
    have parts : cuts "k.n" = [("k.n", []), ("k", ["n"])] := by decide
    apply Modules.splits_iff.mpr
    refine .inr ⟨?_, [("k.n", [])], "k", [], parts, ?_, ?_⟩
    · intro c cut
      show indexed? [] c.1 = none
      simp [indexed?]
    · exact inUse_reader.keeps.answers_eq_some_iff.mpr loads
    · exact List.forall_mem_singleton.mpr rfl
  have given : (run library (split? reader.units "k.n") reader).1 = .ok (some (u, ["n"])) := by
    rw [run_fst]
    exact splits
  have longest := (split_longest inUse_reader "k.n").1 u ["n"] given
  exact ⟨inUse_reader, u, given, longest, loads.moduleName_eq⟩

end SourceSet

end Catalog
