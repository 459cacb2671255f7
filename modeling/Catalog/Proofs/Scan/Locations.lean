import Catalog.Proofs.FileTree.Rewriting
import Catalog.Proofs.Scan.Units
import Catalog.Proofs.Scan.Vocabulary
import Catalog.Proofs.Source.Locations
import Mathlib.Data.List.Find

/-!
# Where a registry stands

The modules of a registry may be files of the repository, or stand in a directory of their own that
is a search path. In the first case they are among the units, in the second one they are looked up.
A module name then stands for the same module in both cases, as long as it can be looked up at all.
So the other units give the same records, wherever the registry stands.
-/

namespace Catalog

open Syntax Resolve ModuleName

/-! ## Tables without faults -/

section

variable {f : String → Option SourceUnit} {units : List SourceUnit}

theorem attempt_firstOutside? (cs : List (String × List String)) :
    (firstOutside? cs).attempt.answer (fun m => .ok (f m)) =
      .ok (.ok (cs.findSome? fun (m, rest) => (f m).map (·, rest))) := by
  induction cs with
  | nil => rfl
  | cons c more ih =>
    obtain ⟨m, rest⟩ := c
    rw [firstOutside?, Query.attempt_bind, Query.answer_bind, List.findSome?_cons]
    have outside : (Query.outside m).attempt.answer (fun m => .ok (f m)) = .ok (.ok (f m)) := rfl
    rw [outside]
    dsimp only
    cases f m with
    | none => exact ih
    | some u => rfl

/-- A unit of the repository comes first, then one outside of it. -/
theorem attempt_unitFor? (m : String) :
    (unitFor? units m).attempt.answer (fun m => .ok (f m)) =
      .ok (.ok ((indexed? units m).or (if m.isEmpty then none else f m))) := by
  rw [unitFor?]
  cases indexed? units m with
  | some u => rfl
  | none =>
    dsimp only
    split <;> rfl

theorem attempt_split? (q : String) :
    (split? units q).attempt.answer (fun m => .ok (f m)) =
      .ok (.ok (((cuts q).findSome? fun (m, rest) => (indexed? units m).map (·, rest)).or
        ((cuts q).findSome? fun (m, rest) => (f m).map (·, rest)))) := by
  rw [split?]
  cases (cuts q).findSome? fun (m, rest) => (indexed? units m).map (·, rest) with
  | some found => rfl
  | none => exact attempt_firstOutside? (cuts q)

end

/-- If no key stands twice, equal keys stand at equal places. -/
theorem key_eq_iff {α γ : Type} {l : List α} {f : α → γ} (distinct : (l.map f).Nodup) {i j : Nat}
    {a b : α} (first : l[i]? = some a) (second : l[j]? = some b) : f a = f b ↔ i = j := by
  have small : i < (l.map f).length := by
    rw [List.length_map]
    exact (List.getElem?_eq_some_iff.mp first).1
  rw [← List.getElem?_inj small distinct, List.getElem?_map, List.getElem?_map, first, second,
    Option.map_some, Option.map_some, Option.some.injEq]

theorem rel_or {α β : Type} {R : α → β → Prop} {a c : Option α} {b d : Option β}
    (first : Option.Rel R a b) (second : Option.Rel R c d) : Option.Rel R (a.or c) (b.or d) := by
  cases first with
  | some related => exact .some related
  | none => exact second

theorem findSome?_congr {α β : Type} {l : List α} {f g : α → Option β}
    (same : ∀ a ∈ l, f a = g a) : l.findSome? f = l.findSome? g := by
  rw [← List.head?_filterMap, ← List.head?_filterMap, List.filterMap_congr same]

/-- All cuts of a name begin with its first segment. -/
theorem head_of_mem_cuts {q : String} {c : String × List String} (member : c ∈ cuts q) :
    Dotted.head c.1 = Dotted.head q := by
  obtain ⟨k, small, rfl⟩ := List.mem_map.mp member
  obtain ⟨first, rest, parts⟩ := List.exists_cons_of_ne_nil (Dotted.segments_ne_nil q)
  have left : (Dotted.segments q).length - k = (rest.length - k) + 1 := by
    have := List.mem_range.mp small
    rw [parts, List.length_cons] at *
    omega
  have plain : ∀ t ∈ first :: rest.take (rest.length - k), Dotted.IsPlain t := fun t member => by
    refine Dotted.isPlain_of_mem_segments (s := q) t ?_
    rw [parts]
    exact List.cons_subset_cons first (List.take_subset _ _) member
  dsimp only
  rw [left, parts, List.take_succ_cons, Dotted.head, Dotted.head, parts,
    Dotted.segments_ofSegments_of_isPlain (List.cons_ne_nil _ _) plain]
  rfl

/-! ## Units of a registry -/

namespace SourceUnit

variable {u u' : SourceUnit}

theorem alike_of_placeless (same : u.placeless = u'.placeless) :
    u'.identity = u.identity ∧ u'.body = u.body ∧ u'.scopes = u.scopes := by
  simp only [placeless, mk.injEq] at same
  obtain ⟨-, -, identity, body, scopes⟩ := same
  exact ⟨identity.symm, body.symm, scopes.symm⟩

theorem isIrrelevant_placeless (o : ScanOptions) (u : SourceUnit) :
    o.isIrrelevant u.placeless = o.isIrrelevant u := rfl

end SourceUnit

/-- The units of the registry. -/
def registryUnits (inRegistry : String → Bool) (units : List SourceUnit) : List SourceUnit :=
  units.filter fun u => inRegistry u.path

/-- The units that do not belong to the registry. -/
def ownUnits (inRegistry : String → Bool) (units : List SourceUnit) : List SourceUnit :=
  units.filter fun u => !inRegistry u.path

/-- The units `units'` are those of `units` that do not belong to the registry. The modules of the
registry have names of their own. -/
structure Rehomed (inRegistry : String → Bool) (units units' : List SourceUnit) : Prop where
  same : (ownUnits inRegistry units).map SourceUnit.placeless =
    units'.map SourceUnit.placeless
  origins : (units.map SourceUnit.origin).Nodup
  origins' : (units'.map SourceUnit.origin).Nodup
  inside : ∀ u ∈ units', ∃ index, u.origin = .repository index
  names : ((registryUnits inRegistry units).map SourceUnit.moduleName).Nodup
  apart : ∀ u ∈ registryUnits inRegistry units, ∀ v ∈ ownUnits inRegistry units,
    Dotted.head u.moduleName ≠ Dotted.head v.moduleName

namespace Rehomed

variable {inRegistry : String → Bool} {units units' : List SourceUnit}
  (rehomed : Rehomed inRegistry units units')
include rehomed

/-! ### Names -/

/-- A name stands for a unit of one kind. -/
theorem indexed?_eq (m : String) :
    indexed? units m = (indexed? (ownUnits inRegistry units) m).or
      (indexed? (registryUnits inRegistry units) m) := by
  rw [indexed?, indexed?, indexed?, ownUnits, registryUnits, List.find?_filter, List.find?_filter]
  split
  · rfl
  · cases own : units.find? fun u =>
      decide ((!inRegistry u.path) = true ∧ (u.moduleName == m) = true) with
    | some u =>
      -- all units of the name are of the same kind as this one
      rw [Option.some_or, ← own]
      refine List.find?_congr fun v member => ?_
      have found := List.find?_some own
      simp only [decide_eq_true_eq, Bool.not_eq_true', beq_iff_eq] at found
      by_cases named : v.moduleName = m
      · have kind : inRegistry v.path = false := by
          by_contra registered
          refine rehomed.apart v (List.mem_filter.mpr ⟨member, by simpa using registered⟩) u
            (List.mem_filter.mpr ⟨List.mem_of_find?_eq_some own, by simpa using found.1⟩) ?_
          rw [named, found.2]
        simp [named, kind]
      · simp [named]
    | none =>
      rw [Option.none_or]
      refine List.find?_congr fun v member => ?_
      have passed := List.find?_eq_none.mp own v member
      by_cases named : v.moduleName = m
      · simpa [named] using passed
      · simp [named]

/-- The first segment of a name decides on the kind. -/
theorem indexed?_eq_none {m n : String} {u : SourceUnit}
    (found : indexed? (ownUnits inRegistry units) m = some u)
    (head : Dotted.head n = Dotted.head m) :
    indexed? (registryUnits inRegistry units) n = none := by
  obtain ⟨own, name, -⟩ := named_of_indexed? found
  cases hit : indexed? (registryUnits inRegistry units) n with
  | none => rfl
  | some v =>
    obtain ⟨registered, name', -⟩ := named_of_indexed? hit
    refine absurd ?_ (rehomed.apart v registered u own)
    rw [name, name', head]

/-! ### The correspondence -/

omit rehomed in
/-- A unit of the repository stands for the one in its place, and a unit of the registry for the one
in the directory of the registry. -/
def Related (inRegistry : String → Bool) (units units' : List SourceUnit) (site : Path)
    (u u' : SourceUnit) : Prop :=
  (u, u') ∈ (ownUnits inRegistry units).zip units' ∨
    u ∈ registryUnits inRegistry units ∧ u' = u.moved site

theorem placeless_of_mem_zip {u u' : SourceUnit}
    (pair : (u, u') ∈ (ownUnits inRegistry units).zip units') :
    u.placeless = u'.placeless := by
  have same : List.Forall₂ (· = ·) ((ownUnits inRegistry units).map SourceUnit.placeless)
      (units'.map SourceUnit.placeless) := by
    rw [rehomed.same]
    exact List.forall₂_refl _
  rw [List.forall₂_map_left_iff, List.forall₂_map_right_iff] at same
  exact List.forall₂_zip same pair

theorem forall₂_zip : List.Forall₂ (fun u u' => (u, u') ∈ (ownUnits inRegistry units).zip units')
    (ownUnits inRegistry units) units' := by
  have length := congrArg List.length rehomed.same
  rw [List.length_map, List.length_map] at length
  exact List.forall₂_iff_zip.mpr ⟨length, id⟩

/-- Related units differ in their place only. -/
theorem alike_of_related {site : Path} {u u' : SourceUnit}
    (related : Related inRegistry units units' site u u') :
    u'.identity = u.identity ∧ u'.body = u.body ∧ u'.scopes = u.scopes := by
  rcases related with pair | ⟨-, rfl⟩
  · exact SourceUnit.alike_of_placeless (rehomed.placeless_of_mem_zip pair)
  · exact ⟨rfl, rfl, rfl⟩

theorem origins_of_related {site : Path} {u u' v v' : SourceUnit}
    (first : Related inRegistry units units' site u u')
    (second : Related inRegistry units units' site v v') :
    u.origin = v.origin ↔ u'.origin = v'.origin := by
  have own : (ownUnits inRegistry units).Sublist units := List.filter_sublist
  have registered : (registryUnits inRegistry units).Sublist units := List.filter_sublist
  have kinds {u v : SourceUnit} (here : u ∈ ownUnits inRegistry units)
      (there : v ∈ registryUnits inRegistry units) : u.origin ≠ v.origin := by
    intro same
    obtain ⟨member, kind⟩ := List.mem_filter.mp here
    obtain ⟨member', kind'⟩ := List.mem_filter.mp there
    rw [List.inj_on_of_nodup_map rehomed.origins member member' same] at kind
    simp [kind'] at kind
  have places {u' v : SourceUnit} (here : u' ∈ units') : u'.origin ≠ (v.moved site).origin := by
    obtain ⟨index, place⟩ := rehomed.inside u' here
    rw [place]
    exact nofun
  rcases first with pair | ⟨here, rfl⟩ <;> rcases second with pair' | ⟨there, rfl⟩
  · obtain ⟨i, first⟩ := List.mem_iff_getElem?.mp pair
    obtain ⟨j, second⟩ := List.mem_iff_getElem?.mp pair'
    obtain ⟨left, right⟩ := List.getElem?_zip_eq_some.mp first
    obtain ⟨left', right'⟩ := List.getElem?_zip_eq_some.mp second
    have origins := (own.map SourceUnit.origin).nodup rehomed.origins
    exact (key_eq_iff origins left left').trans (key_eq_iff rehomed.origins' right right').symm
  · exact iff_of_false (kinds (List.of_mem_zip pair).1 there) (places (List.of_mem_zip pair).2)
  · exact iff_of_false (kinds (List.of_mem_zip pair').1 here).symm
      (places (List.of_mem_zip pair').2).symm
  · constructor
    · intro same
      rw [List.inj_on_of_nodup_map rehomed.origins (registered.subset here)
        (registered.subset there) same]
    · intro same
      have named : u.moduleName = v.moduleName := Origin.searchPath.inj same
      rw [List.inj_on_of_nodup_map rehomed.names here there named]

theorem rel_indexed? (site : Path) (m : String) :
    Option.Rel (Related inRegistry units units' site) (indexed? (ownUnits inRegistry units) m)
      (indexed? units' m) :=
  Scan.indexed?_of_forall₂ (rehomed.forall₂_zip.imp fun _ _ => .inl)
    (fun _ _ related => congrArg Identity.name (rehomed.alike_of_related related).1) m

omit rehomed in
theorem rel_moved (site : Path) (m : String) :
    Option.Rel (Related inRegistry units units' site) (indexed? (registryUnits inRegistry units) m)
      ((indexed? (registryUnits inRegistry units) m).map (SourceUnit.moved site)) := by
  cases hit : indexed? (registryUnits inRegistry units) m with
  | none => exact .none
  | some u =>
    exact .some (.inr ⟨(named_of_indexed? hit).1, rfl⟩)

/-- The first cut of a name is found among the units of one kind. -/
theorem findSome?_eq (q : String) :
    ((cuts q).findSome? fun (m, rest) => (indexed? units m).map (·, rest)) =
      ((cuts q).findSome? fun (m, rest) =>
        (indexed? (ownUnits inRegistry units) m).map (·, rest)).or
      ((cuts q).findSome? fun (m, rest) =>
        (indexed? (registryUnits inRegistry units) m).map (·, rest)) := by
  cases own : (cuts q).findSome? fun (m, rest) =>
      (indexed? (ownUnits inRegistry units) m).map (·, rest) with
  | none =>
    rw [Option.none_or]
    refine findSome?_congr fun c member => ?_
    have passed := List.findSome?_eq_none_iff.mp own c member
    rw [Option.map_eq_none_iff] at passed
    dsimp only
    rw [rehomed.indexed?_eq, passed, Option.none_or]
  | some found =>
    obtain ⟨c, member, hit⟩ := List.exists_of_findSome?_eq_some own
    obtain ⟨u, hit, -⟩ := Option.map_eq_some_iff.mp hit
    rw [Option.some_or, ← own]
    refine findSome?_congr fun c' member' => ?_
    have none := rehomed.indexed?_eq_none hit
      ((head_of_mem_cuts member').trans (head_of_mem_cuts member).symm)
    dsimp only
    rw [rehomed.indexed?_eq, none, Option.or_none]

/-- With the registry in the repository, or in its directory, the same modules are found. -/
def correspondence (site : Path) :
    Correspondence { units, known := fun _ => .ok none }
      { units := units', known := fun m =>
          .ok ((indexed? (registryUnits inRegistry units) m).map (SourceUnit.moved site)) } where
  rel := Related inRegistry units units' site
  spelling _ v := v
  alike related := by
    obtain ⟨identity, body, scopes⟩ := rehomed.alike_of_related related
    exact .of_same identity body scopes
  origins := rehomed.origins_of_related
  units m := by
    have named : (if m.isEmpty then none
        else (indexed? (registryUnits inRegistry units) m).map (SourceUnit.moved site)) =
        (indexed? (registryUnits inRegistry units) m).map (SourceUnit.moved site) := by
      rw [indexed?]
      split <;> rfl
    rw [Query.Agree, attempt_unitFor?, attempt_unitFor?, named, ite_self, Option.or_none,
      rehomed.indexed?_eq]
    exact .value (rel_or (rehomed.rel_indexed? site m) (rel_moved site m))
  cuts q := by
    have none : ((cuts q).findSome? fun (_, rest) =>
        (none : Option SourceUnit).map (·, rest)) = none := by
      simp
    rw [Query.Agree, attempt_split?, attempt_split?, none, Option.or_none, rehomed.findSome?_eq]
    exact .value (rel_or (rel_findSome? (rehomed.rel_indexed? site) (cuts q))
      (rel_findSome? (rel_moved site) (cuts q)))

end Rehomed

/-! ## A registry that is moved -/

/-- Of the files of a repository, those of a registry are moved into a directory of their own, with
the texts unchanged. No module of the registry shares its first segment with one of the others. -/
structure Relocates (tree tree' : FileTree) (repo repo' site : Path) (paths : List String)
    (inRegistry : String → Bool) : Prop where
  registry : IsRegistry (paths.filter inRegistry)
  holds : tree'.HoldsModules site (paths.filter inRegistry)
  moved : ∀ p ∈ paths.filter inRegistry, tree'.readText (site / p) = tree.readText (repo / p)
  kept : ∀ p ∈ paths.filter fun p => !inRegistry p,
    tree'.readText (repo' / p) = tree.readText (repo / p)
  apart : ∀ p ∈ paths.filter inRegistry, ∀ q ∈ paths.filter fun p => !inRegistry p,
    Dotted.head (ofPath p ["."]).name ≠ Dotted.head (ofPath q ["."]).name

/-- If no key stands twice, what is made of the items is found by the key of its item. -/
theorem find?_filterMap {α β γ : Type} [DecidableEq γ] {l : List α} {f : α → Option β}
    {key : α → γ} {key' : β → γ} (same : ∀ a b, f a = some b → key' b = key a)
    (distinct : (l.map key).Nodup) (k : γ) :
    (l.filterMap f).find? (key' · == k) = (l.find? (key · == k)).bind f := by
  induction l with
  | nil => rfl
  | cons a rest ih =>
    obtain ⟨new, distinct⟩ := List.nodup_cons.mp distinct
    have more := ih distinct
    by_cases hit : key a = k
    · have others : rest.find? (key · == k) = none := by
        refine List.find?_eq_none.mpr fun b member => ?_
        rw [beq_iff_eq, ← hit]
        exact fun twice => new (twice ▸ List.mem_map_of_mem member)
      rw [List.find?_cons_of_pos (by simpa using hit), Option.bind_some]
      cases given : f a with
      | none => rw [List.filterMap_cons_none given, more, others, Option.bind_none]
      | some b =>
        rw [List.filterMap_cons_some given,
          List.find?_cons_of_pos (by simpa [same a b given] using hit)]
    · rw [List.find?_cons_of_neg (by simpa using hit), ← more]
      cases given : f a with
      | none => rw [List.filterMap_cons_none given]
      | some b =>
        rw [List.filterMap_cons_some given,
          List.find?_cons_of_neg (by simpa [same a b given] using hit)]

namespace Relocates

variable {tree tree' : FileTree} {repo repo' site : Path} {paths : List String}
  {inRegistry : String → Bool}
  (relocates : Relocates tree tree' repo repo' site paths inRegistry)
  {s s' : SourceSet} {warnings warnings' : List String}
  (loaded : SourceSet.loadFiles tree repo ["."] {} paths = .ok (s, warnings))
include relocates loaded

/-- The other files can still be loaded. -/
theorem exists_loadFiles : ∃ s' warnings',
    SourceSet.loadFiles tree' repo' ["."] { searchPaths := [site] }
      (paths.filter fun p => !inRegistry p) = .ok (s', warnings') := by
  have proceeds := SourceSet.exists_loadFiles_iff.mp ⟨s, warnings, loaded⟩
  refine SourceSet.exists_loadFiles_iff.mpr fun p member cause ends => ?_
  refine proceeds p (List.mem_of_mem_filter member) cause ?_
  exact ends.congr (relocates.kept p member)

/-- What is found in the directory of the registry are its units, moved there, as far as the paths
are not too long. -/
theorem answers_eq_or (searched : s'.searchPaths = [site]) (new : s'.outside = []) {m : String}
    (searchable : Dotted.MadeOf IsSearchable m) :
    (s'.answers tree' m =
      .ok ((indexed? (registryUnits inRegistry s.units) m).map (SourceUnit.moved site))) ∨
      SourceSet.find tree' [site] m = .error (.system .nameTooLong) := by
  have named : m.isEmpty = false := by
    rw [String.isEmpty_eq_false_iff]
    rintro rfl
    exact (searchable "" (by decide)).component.some rfl
  have moved (l : List SourceUnit) :
      (l.find? (·.moduleName == m)).map (SourceUnit.moved site) =
        ((l.map SourceUnit.placeless).find? (·.moduleName == m)).map (SourceUnit.moved site) := by
    rw [List.find?_map, Option.map_map]
    rfl
  have found : ((paths.filter inRegistry).filterMap (SourceSet.reading tree repo ["."])).find?
      (·.moduleName == m) = ((paths.filter inRegistry).find? fun p =>
        (ofPath p ["."]).name == m).bind (SourceSet.reading tree repo ["."]) :=
    find?_filterMap (fun p u read => congrArg Identity.name (SourceSet.of_reading read).2)
      relocates.registry.distinct m
  have room : ∀ p ∈ paths.filter inRegistry, ¬tree.Exhausts (repo / p) := fun p member exhausts =>
    SourceSet.exists_loadFiles_iff.mp ⟨s, warnings, loaded⟩ p (List.mem_of_mem_filter member) _
      (.text exhausts)
  refine (SourceSet.answers_of_holdsModules relocates.registry relocates.holds relocates.moved
    room searched new searchable).imp_left fun answered => ?_
  rw [answered, indexed?, named, if_neg (by decide), registryUnits, moved,
    SourceSet.units_filter_of_loadFiles loaded, found]

omit relocates loaded in
/-- Where the path of a module is too long there is no answer. -/
theorem answers_of_overlong (searched : s'.searchPaths = [site]) (new : s'.outside = [])
    {m : String} (long : SourceSet.find tree' [site] m = .error (.system .nameTooLong)) :
    s'.answers tree' m = .error (.system .nameTooLong) := by
  rw [SourceSet.answers_eq, new, searched, long]
  rfl

variable (loaded' : SourceSet.loadFiles tree' repo' ["."] { searchPaths := [site] }
  (paths.filter fun p => !inRegistry p) = .ok (s', warnings'))
include loaded'

/-- The units that are left in the repository. -/
theorem rehomed : Rehomed inRegistry s.units s'.units where
  same := by
    have left : s'.units.map SourceUnit.placeless =
        (paths.filter fun p => !inRegistry p).filterMap (SourceSet.reading tree' repo' ["."]) := by
      rw [SourceSet.units_of_loadFiles loaded']
      rfl
    rw [ownUnits, SourceSet.units_filter_of_loadFiles loaded fun p => !inRegistry p, left]
    refine List.filterMap_congr fun p member => ?_
    unfold SourceSet.reading
    rw [relocates.kept p member]
  origins := (SourceSet.Reached.load loaded).isKept.nodup_origins
  origins' := (SourceSet.Reached.load loaded').isKept.nodup_origins
  inside u member := (SourceSet.Reached.load loaded').isKept.placed member
  names := by
    have names : (registryUnits inRegistry s.units).map SourceUnit.moduleName =
        ((paths.filter inRegistry).filterMap (SourceSet.reading tree repo ["."])).map
          SourceUnit.moduleName := by
      rw [← SourceSet.units_filter_of_loadFiles loaded inRegistry, List.map_map]
      rfl
    have distinct := relocates.registry.distinct
    rw [names, List.Nodup, List.pairwise_map]
    rw [List.Nodup, List.pairwise_map] at distinct
    refine distinct.filterMap _ fun p q differ u read v read' => ?_
    rw [SourceUnit.moduleName, SourceUnit.moduleName, (SourceSet.of_reading read).2,
      (SourceSet.of_reading read').2]
    exact differ
  apart u registered v own := by
    obtain ⟨member, kind⟩ := List.mem_filter.mp registered
    obtain ⟨member', kind'⟩ := List.mem_filter.mp own
    obtain ⟨listed, identity⟩ := SourceSet.path_of_loadFiles loaded u member
    obtain ⟨listed', identity'⟩ := SourceSet.path_of_loadFiles loaded v member'
    rw [SourceUnit.moduleName, SourceUnit.moduleName, identity, identity']
    exact relocates.apart u.path (List.mem_filter.mpr ⟨listed, kind⟩) v.path
      (List.mem_filter.mpr ⟨listed', kind'⟩)

/-- What is asked for is answered from units that use words by which modules can be looked up. -/
theorem uses_of_answers (words : ∀ u ∈ s.units, u.Says IsSearchable) {m : String}
    {v : SourceUnit} (searchable : Dotted.MadeOf IsSearchable m)
    (found : s'.answers tree' m = .ok (some v)) : v.Uses IsSearchable := by
  have read := ((SourceSet.Reached.load loaded').isKept.of_answers found).read
  have paths := SourceSet.searchPaths_of_loadFiles loaded'
  have new := (SourceSet.outside_of_loadFiles loaded').1
  have given := (relocates.answers_eq_or loaded paths new searchable).resolve_right fun long => by
    rw [answers_of_overlong paths new long] at found
    cases found
  rw [given] at found
  obtain ⟨u, indexed, rfl⟩ := Option.map_eq_some_iff.mp (Except.ok.inj found)
  obtain ⟨member, name, -⟩ := named_of_indexed? indexed
  have own := words u (List.mem_of_mem_filter member)
  exact { accessed := own.accessed, around := own.around, read, module := .inr (name ▸ searchable) }

theorem uses_of_mem (words : ∀ u ∈ s.units, u.Says IsSearchable)
    (named : ∀ u ∈ ownUnits inRegistry s.units,
      u.moduleName = "" ∨ Dotted.MadeOf IsSearchable u.moduleName) :
    ∀ u' ∈ s'.units, u'.Uses IsSearchable := by
  have rehomed := relocates.rehomed loaded loaded'
  intro u' member'
  obtain ⟨u, member, same⟩ : ∃ u ∈ ownUnits inRegistry s.units, u.placeless = u'.placeless := by
    rw [← List.mem_map, rehomed.same]
    exact List.mem_map_of_mem member'
  obtain ⟨identity, body, scopes⟩ := SourceUnit.alike_of_placeless same
  have own := words u (List.mem_of_mem_filter member)
  refine { accessed := ?_, around := ?_, read := ?_, module := ?_ }
  · rw [body]
    exact own.accessed
  · rw [scopes]
    exact own.around
  · exact (SourceSet.Reached.load loaded').isKept.orderly.texts u' member'
  · rw [SourceUnit.moduleName, identity]
    exact named u member

end Relocates

namespace Scan

variable {tree tree' : FileTree} {repo repo' site : Path} {paths : List String}
  {inRegistry : String → Bool} {s s' : SourceSet} {warnings warnings' : List String}

/-- The unit asks for a module whose path below the directory is too long to look for it. -/
def Overlong (tree : FileTree) (o : ScanOptions) (site : Path) (sources : SourceSet)
    (u : SourceUnit) : Prop :=
  ∃ m ∈ (unitRecord sources.units o u).collect.asked (sources.answers tree),
    SourceSet.find tree [site] m = .error (.system .nameTooLong)

/-- A unit gives the same in the second set as in the first one. Only if it asks for a module whose
path is too long, the search in the directory fails. -/
structure GivesAlike (tree tree' : FileTree) (o : ScanOptions) (site : Path) (s s' : SourceSet)
    (u u' : SourceUnit) : Prop where
  same : ¬Overlong tree' o site s' u' → own tree' o s' u' = own tree o s u
  fails : Overlong tree' o site s' u' → own tree' o s' u' = .error (.system .nameTooLong)

/-- A unit that does not belong to the registry gives the same, wherever the registry stands. -/
theorem givesAlike_of_relocates (o : ScanOptions)
    (relocates : Relocates tree tree' repo repo' site paths inRegistry)
    (loaded : SourceSet.loadFiles tree repo ["."] {} paths = .ok (s, warnings))
    (loaded' : SourceSet.loadFiles tree' repo' ["."] { searchPaths := [site] }
      (paths.filter fun p => !inRegistry p) = .ok (s', warnings'))
    (words : ∀ u ∈ s.units, u.Says IsSearchable)
    (named : ∀ u ∈ ownUnits inRegistry s.units,
      u.moduleName = "" ∨ Dotted.MadeOf IsSearchable u.moduleName)
    (register : Dotted.MadeOf IsSearchable o.registerTarget)
    (metadata : Dotted.MadeOf IsSearchable o.metadataTarget) {u u' : SourceUnit}
    (pair : (u, u') ∈ (ownUnits inRegistry s.units).zip s'.units) :
    GivesAlike tree tree' o site s s' u u' := by
  have searched := SourceSet.searchPaths_of_loadFiles loaded'
  have new := (SourceSet.outside_of_loadFiles loaded').1
  constructor
  · intro short
    have rehomed := relocates.rehomed loaded loaded'
    let C := rehomed.correspondence site
    have related : C.rel u u' := .inl pair
    have written : True → u'.path = u.path ∧ ∀ v, C.spelling u.origin v = v := fun _ =>
      ⟨(congrArg SourceUnit.path (rehomed.placeless_of_mem_zip pair)).symm, fun _ => rfl⟩
    have settled := (settle_of_rel related o written).2 trivial
    have uses := relocates.uses_of_mem loaded loaded' words named
    have asked := asked_unitRecord uses (fun word => word.component.some rfl)
      (uses u' (List.of_mem_zip pair).2) register metadata
      fun m v searchable => relocates.uses_of_answers loaded loaded' words searchable
    -- what is asked for is answered as the correspondence says
    have answered := Query.answer_congr fun m member =>
      ((relocates.answers_eq_or loaded searched new (asked m member)).resolve_right
        fun long => short ⟨m, member, long⟩).symm
    have nothing : s.answers tree = fun _ => .ok none :=
      funext (SourceSet.answers_of_searchPaths_nil (SourceSet.searchPaths_of_loadFiles loaded)
        (SourceSet.outside_of_loadFiles loaded).1)
    rw [own, own, SourceSet.run_fst, SourceSet.run_fst, ← answered, nothing]
    exact settled
  · rintro ⟨m, member, long⟩
    have failed := Relocates.answers_of_overlong searched new long
    rw [own, SourceSet.run_fst, Query.answer_eq_error_of_asked member failed]
    rfl

/-- A registry may stand in the repository, or in a directory of its own that is a search path. If
the repository can be loaded with it, it can be loaded without it, and each of the other units gives
the same record and the same warnings in both cases, also if files of the registry cannot be parsed.
The exception are units that ask for a module whose path is too long: their search fails in the
directory, and only there. -/
theorem location_transparent (o : ScanOptions) (tree tree' : FileTree) (repo repo' site : Path)
    (paths : List String) (inRegistry : String → Bool)
    (relocates : Relocates tree tree' repo repo' site paths inRegistry)
    (s : SourceSet) (warnings : List String)
    (loaded : SourceSet.loadFiles tree repo ["."] {} paths = .ok (s, warnings))
    (words : ∀ u ∈ s.units, u.Says IsSearchable)
    (named : ∀ u ∈ ownUnits inRegistry s.units,
      u.moduleName = "" ∨ Dotted.MadeOf IsSearchable u.moduleName)
    (register : Dotted.MadeOf IsSearchable o.registerTarget)
    (metadata : Dotted.MadeOf IsSearchable o.metadataTarget) :
    ∃ s' warnings', SourceSet.loadFiles tree' repo' ["."] { searchPaths := [site] }
        (paths.filter fun p => !inRegistry p) = .ok (s', warnings') ∧
      List.Forall₂ (GivesAlike tree tree' o site s s')
        (selected o (ownUnits inRegistry s.units)) (selected o s'.units) := by
  obtain ⟨s', warnings', loaded'⟩ := relocates.exists_loadFiles loaded
  refine ⟨s', warnings', loaded', ?_⟩
  have rehomed := relocates.rehomed loaded loaded'
  have scanned (u u' : SourceUnit)
      (pair : (u, u') ∈ (ownUnits inRegistry s.units).zip s'.units) :
      o.isIrrelevant u' = o.isIrrelevant u := by
    rw [← SourceUnit.isIrrelevant_placeless, ← rehomed.placeless_of_mem_zip pair,
      SourceUnit.isIrrelevant_placeless]
  exact (selected_of_forall₂ rehomed.forall₂_zip scanned).imp fun u u' pair =>
    givesAlike_of_relocates o relocates loaded loaded' words named register metadata pair

/-- The file belongs to the registry. -/
def inTools (path : String) : Bool := Text.beginsWith path "tools/"

/-- A directory below the root. -/
def shelf (name : String) : Path := { parts := [name] }

/-- A directory that holds an adapter together with its registry, and two directories that hold one
of them each. -/
def shelves : FileTree :=
  { entries := [(["all"], .dir), (["all", "tools"], .dir), (["own"], .dir), (["site"], .dir),
        (["site", "tools"], .dir)] ++
      sharing.map (fun (path, text) => ("all" :: Path.names path, .file text.toUTF8)) ++
      sharing.map fun (path, text) =>
        ((if inTools path then "site" else "own") :: Path.names path, .file text.toUTF8) }

theorem isPlain_shelves : shelves.IsPlain := by decide

theorem readText_shelves : ∀ f ∈ sharing, shelves.readText (shelf "all" / f.1) = .ok f.2 ∧
    shelves.readText (shelf (if inTools f.1 then "site" else "own") / f.1) = .ok f.2 := by
  have plain : ∀ f ∈ sharing, '\r' ∉ f.2.toList := by simp [sharing]
  have down : ∀ f ∈ sharing, ∀ name ∈ ["all", "own", "site"],
      FileTree.LeadsDown (shelf name / f.1) := by decide
  have found : ∀ f ∈ sharing,
      shelves.find? (shelf "all" / f.1).parts = some (.file f.2.toUTF8) ∧
      shelves.find? (shelf (if inTools f.1 then "site" else "own") / f.1).parts =
        some (.file f.2.toUTF8) :=
    List.forall_mem_cons.mpr ⟨⟨rfl, rfl⟩, List.forall_mem_singleton.mpr ⟨rfl, rfl⟩⟩
  intro f member
  have text {name : String} (listed : name ∈ ["all", "own", "site"])
      (found : shelves.find? (shelf name / f.1).parts = some (.file f.2.toUTF8)) :
      shelves.readText (shelf name / f.1) = .ok f.2 :=
    isPlain_shelves.readText (down f member name listed) found
      (Text.unifyBreaks_eq_self (plain f member))
  refine ⟨text (by decide) (found f member).1, text ?_ (found f member).2⟩
  split <;> decide

theorem isRegistry_sharing : IsRegistry ((sharing.map Prod.fst).filter inTools) := by
  have one : (sharing.map Prod.fst).filter inTools = [file ["tools"] "k"] := by decide
  rw [one]
  refine ⟨List.forall_mem_singleton.mpr ⟨["tools"], "k", by decide, by decide, rfl⟩, ?_⟩
  decide

theorem relocates_shelves : Relocates shelves shelves (shelf "all") (shelf "own") (shelf "site")
    (sharing.map Prod.fst) inTools := by
  have texts : ∀ p ∈ sharing.map Prod.fst,
      shelves.readText (shelf (if inTools p then "site" else "own") / p) =
        shelves.readText (shelf "all" / p) := by
    intro p listed
    obtain ⟨f, member, rfl⟩ := List.mem_map.mp listed
    rw [(readText_shelves f member).1, (readText_shelves f member).2]
  refine ⟨isRegistry_sharing, ?_, fun p member => ?_, fun p member => ?_, by decide⟩
  · exact FileTree.holdsModules_of_isPlain isPlain_shelves (by decide) isRegistry_sharing
      (by decide) (by decide)
  · obtain ⟨listed, kind⟩ := List.mem_filter.mp member
    have same := texts p listed
    rwa [if_pos kind] at same
  · obtain ⟨listed, kind⟩ := List.mem_filter.mp member
    have same := texts p listed
    rwa [if_neg (by simpa using kind)] at same

/-- The adapter without its registry. -/
def alone : List (String × String) := sharing.filter fun f => !inTools f.1

/-- The units of the adapter alone, with the directory of the registry as a search path. -/
def searching : SourceSet := { SourceSet.ofTexts alone with searchPaths := [shelf "site"] }

/-- The modules that the directory of the registry gives. -/
def offered (m : String) : Except Fault (Option SourceUnit) :=
  .ok ((indexed? (registryUnits inTools (SourceSet.ofTexts sharing).units) m).map
    (SourceUnit.moved (shelf "site")))

/-- Looking for a module does not fail if its paths lead down. -/
theorem find_shelves_ne {m : String}
    (down : ∀ c ∈ SourceSet.candidates (shelf "site") m, FileTree.LeadsDown c.1) {e : SystemError} :
    SourceSet.find shelves [shelf "site"] m ≠ .error (.system e) := by
  intro failed
  obtain ⟨c, member, refuses⟩ := SourceSet.refuses_of_readFirst failed
  rw [List.flatMap_singleton] at member
  cases refuses with
  | place hidden =>
    rw [isPlain_shelves.isFile (down c member)] at hidden
    cases hidden

/-- The adapter finds the constant in the directory of the registry, and gives its record. -/
theorem location_transparent_shelves : ∃ s' warnings',
    SourceSet.loadFiles shelves (shelf "own") ["."] { searchPaths := [shelf "site"] }
      ((sharing.map Prod.fst).filter fun p => !inTools p) = .ok (s', warnings') ∧
    (selected {} s'.units).map (own shelves {} s') = [.ok (some { id := "a" }, [])] := by
  -- one evaluation for all, as each of them reads the texts
  have facts : (∀ f ∈ sharing.zipIdx, (SourceUnit.parse ["."] f.2 f.1.1 f.1.2).isOk = true) ∧
      (∀ f ∈ alone.zipIdx, (SourceUnit.parse ["."] f.2 f.1.1 f.1.2).isOk = true) ∧
      (∀ u ∈ (SourceSet.ofTexts sharing).units, u.Says IsSearchable) ∧
      (∀ u ∈ ownUnits inTools (SourceSet.ofTexts sharing).units,
        u.moduleName = "" ∨ Dotted.MadeOf IsSearchable u.moduleName) ∧
      (∀ u ∈ searching.units, ∀ m ∈ (unitRecord searching.units {} u).collect.asked offered,
        Dotted.MadeOf IsSearchable m ∧
          ∀ c ∈ SourceSet.candidates (shelf "site") m, FileTree.LeadsDown c.1) ∧
      (selected {} (ownUnits inTools (SourceSet.ofTexts sharing).units)).map
        (own shelves {} (SourceSet.ofTexts sharing)) = [.ok (some { id := "a" }, [])] := by
    decide +kernel
  obtain ⟨parsed, parsed', words, named, asks, gives⟩ := facts
  have loaded : SourceSet.loadFiles shelves (shelf "all") ["."] {} (sharing.map Prod.fst) =
      .ok (SourceSet.ofTexts sharing, []) :=
    SourceSet.loadFiles_ofTexts (fun f member => (readText_shelves f member).1) parsed
  have loaded' : SourceSet.loadFiles shelves (shelf "own") ["."] { searchPaths := [shelf "site"] }
      ((sharing.map Prod.fst).filter fun p => !inTools p) = .ok (searching, []) := by
    rw [List.filter_map]
    refine SourceSet.loadFiles_searching (fun f member => ?_) parsed' [shelf "site"]
    obtain ⟨member, kind⟩ := List.mem_filter.mp member
    have text := (readText_shelves f member).2
    rwa [if_neg (by simpa using kind)] at text
  have short (u : SourceUnit) (member : u ∈ searching.units) :
      ¬Overlong shelves {} (shelf "site") searching u := by
    rintro ⟨m, asked, long⟩
    rw [Query.asked_congr fun m asked => ?_] at asked
    · exact find_shelves_ne (asks u member m asked).2 long
    · obtain ⟨searchable, down⟩ := asks u member m asked
      exact (relocates_shelves.answers_eq_or loaded rfl rfl searchable).resolve_right
        (find_shelves_ne down)
  obtain ⟨s', warnings', loads, alike⟩ := location_transparent {} shelves shelves (shelf "all")
    (shelf "own") (shelf "site") (sharing.map Prod.fst) inTools relocates_shelves
    (SourceSet.ofTexts sharing) [] loaded words named (by decide) (by decide)
  obtain ⟨rfl, rfl⟩ := Prod.mk.inj (Except.ok.inj (loads.symm.trans loaded'))
  refine ⟨searching, [], loads, ?_⟩
  obtain ⟨length, alike⟩ := List.forall₂_iff_zip.mp alike
  rw [← gives, eq_comm, ← List.forall₂_eq_eq_eq, List.forall₂_map_left_iff,
    List.forall₂_map_right_iff, List.forall₂_iff_zip]
  refine ⟨length, fun {u u'} pair => ?_⟩
  have member := List.mem_of_mem_filter (List.of_mem_zip pair).2
  exact ((alike pair).same (short u' member)).symm

end Scan

end Catalog
