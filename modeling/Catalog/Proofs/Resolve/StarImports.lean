import Catalog.Proofs.Resolve.ImportedConstants
import Catalog.Proofs.Resolve.Reexports
import Catalog.Proofs.Scope.Exchange

/-!
# Names that are imported together with everything

A unit that imports everything from a module can name one of the module's names instead. What the
name denotes is found in two ways: behind an import of everything it is the module's name for it,
and behind an import of its own it is what that name leads to. The two agree exactly where the
module's name for it leads nowhere else.
-/

namespace Catalog

open Syntax

/-! ## Importing one name instead -/

namespace Syntax

/-- The second tree imports the name `n` where the first one imports everything from the module
`source`, in a statement that belongs to the scope in which the tree stands. -/
inductive Node.Picks (package source n : String) : Node → Node → Prop
  | here (info inner : Info) {module : Option String} {level : Nat} (asName : Option String)
      (absolute : ModuleName.absolute? module level package = some source) (named : n ≠ "*") :
      Picks package source n (.importFrom info module level [.importAlias inner "*" asName])
        (.importFrom info module level [.importAlias inner n none])
  | block (info : Info) (kind : Kind) (before : List Node) {x y : Node} (after : List Node)
      (inside : Picks package source n x y) :
      Picks package source n (.plain info kind (before ++ x :: after))
        (.plain info kind (before ++ y :: after))
  | handler (info : Info) (type : Option Node) (label : Option String) (before : List Node)
      {x y : Node} (after : List Node) (inside : Picks package source n x y) :
      Picks package source n (.exceptHandler info type label (before ++ x :: after))
        (.exceptHandler info type label (before ++ y :: after))

/-- The second module imports the name `n` where the first one imports everything from the module
`source`. -/
def Module.Picks (package source n : String) (m m' : Module) : Prop :=
  ∃ before x y after, m.body = before ++ x :: after ∧ m'.body = before ++ y :: after ∧
    Node.Picks package source n x y

end Syntax

/-- The second steps bind the name where the first ones note the module. They are alike before it,
and the same after it. -/
inductive Step.Picks (source n : String) : List Step → List Step → Prop
  | at {before before' : List Step} (after : List Step) {binding : Binding}
      (alike : before.Forall₂ Step.Alike before')
      (form : binding.form = .imported (source ++ "." ++ n)) :
      Picks source n (before ++ .star source :: after) (before' ++ .bind false n binding :: after)

namespace Step

variable {source n package : String} {x y : Node}

theorem forall₂_alike_refl (l : List Step) : l.Forall₂ Alike l :=
  List.forall₂_same.mpr fun step _ => .refl step

/-- What holds of all steps, and only depends on their names and modules, holds of steps alike. -/
theorem forall_of_alike {P : Step → Prop}
    (respects : ∀ step step', Alike step step' → P step → P step') {l l' : List Step}
    (alike : l.Forall₂ Alike l') (each : ∀ step ∈ l, P step) : ∀ step ∈ l', P step := by
  induction alike with
  | nil => exact each
  | cons first _ ih =>
    obtain ⟨own, each⟩ := List.forall_mem_cons.mp each
    exact List.forall_mem_cons.mpr ⟨respects _ _ first own, ih each⟩

/-- More steps around it, those before it alike. -/
theorem Picks.around {l l' pre pre' : List Step} (picks : Picks source n l l')
    (alike : pre.Forall₂ Alike pre') (post : List Step) :
    Picks source n (pre ++ (l ++ post)) (pre' ++ (l' ++ post)) := by
  obtain ⟨after, inner, form⟩ := picks
  have whole := Picks.at (after ++ post) (List.rel_append alike inner) form
  simpa only [List.append_assoc, List.cons_append] using whole

theorem Picks.stepsList (picks : Picks source n (x.steps package none) (y.steps package none))
    (before after : List Node) :
    Picks source n (Node.stepsList package none (before ++ x :: after))
      (Node.stepsList package none (before ++ y :: after)) := by
  rw [Node.stepsList_append, Node.stepsList, Node.stepsList_append, Node.stepsList]
  exact picks.around (forall₂_alike_refl _) _

theorem Picks.of_node (picks : Node.Picks package source n x y) :
    Picks source n (x.steps package none) (y.steps package none) := by
  induction picks with
  | here info inner asName absolute named =>
    simp only [Node.steps, absolute, List.flatMap_singleton, Node.importFromStep, beq_self_eq_true,
      if_true, Option.map_some, Option.toList_some, beq_iff_eq, named, if_false, Option.getD_none]
    exact Picks.at [] (forall₂_alike_refl [.place info.id]) rfl
  | block info kind before after _ ih =>
    have whole := (Picks.stepsList ih before after).around (forall₂_alike_refl [.place info.id]) []
    simpa only [Node.steps, List.append_nil, List.singleton_append] using whole
  | @handler info type label before x y after _ ih =>
    -- the handler binds its own name, and is the owner of that binding together with its body
    have capture (owner owner' : Node) :
        (Node.captureStep owner label).Forall₂ Alike (Node.captureStep owner' label) := by
      cases label with
      | none => exact .nil
      | some label => exact .cons ⟨.inr ⟨rfl, rfl⟩, rfl, rfl⟩ .nil
    have whole := (Picks.stepsList ih before after).around
      (List.rel_append (forall₂_alike_refl (.place info.id :: Node.stepsOption package type))
        (capture (.exceptHandler info type label (before ++ x :: after))
          (.exceptHandler info type label (before ++ y :: after)))) []
    simpa only [Node.steps, List.append_nil, List.cons_append, List.append_assoc] using whole

theorem Picks.of_module {m m' : Module} (picks : Module.Picks package source n m m') :
    Picks source n (Node.stepsList package none m.body) (Node.stepsList package none m'.body) := by
  obtain ⟨before, x, y, after, first, second, inside⟩ := picks
  rw [first, second]
  exact Picks.stepsList (.of_node inside) before after

end Step

/-! ## What the two modules leave -/

namespace ScopeBuilder

variable {source n : String} {l l' : List Step} {b b' : ScopeBuilder}

/-- The state before the first step: a module without names, imports and declarations. -/
structure Blank (b : ScopeBuilder) : Prop where
  sound : b.Sound
  symbols : ∀ name, b.SymbolsAre name fun _ => none
  stars : ∃ top, b.table.get? ScopeTable.moduleScope = some top ∧ top.stars = []

theorem start_blank (name : String) (body : List Node) : (start name body).Blank where
  sound := start_sound name body
  symbols other k s found := by
    have zero : k = 0 := by
      have := (Array.getElem?_eq_some_iff.mp found).1
      simpa [start] using this
    subst zero
    cases found
    rfl
  stars := ⟨_, rfl, rfl⟩

theorem start_inStep (name : String) (body body' : List Node) :
    (start name body).InStep (start name body') := by
  refine ⟨rfl, rfl, rfl, rfl, fun k => ?_⟩
  cases k with
  | zero => rfl
  | succ k => simp [start, ScopeTable.get?]

/-- A module that notes one other module notes it in its own scope, if that scope has it at last. -/
theorem Blank.current_eq (blank : b.Blank) {before after : List Step}
    (early : ∀ step ∈ before, step.star? = none) (late : ∀ step ∈ after, step.star? = none)
    {top : Scope}
    (found : ((before ++ .star source :: after).foldl take b).table.get? ScopeTable.moduleScope =
      some top) (noted : top.stars = [source]) :
    (before.foldl take b).current = ScopeTable.moduleScope := by
  obtain ⟨first, known, none⟩ := blank.stars
  obtain ⟨middle, reached, same⟩ := stars_run known early
  obtain ⟨last, found', same'⟩ :=
    stars_run (get?_take_of_some reached (.star source)) late
  rw [List.foldl_append, List.foldl_cons, found'] at found
  cases found
  by_contra elsewhere
  rw [stars_change, if_neg elsewhere, List.append_nil, same, none] at same'
  cases same'.symm.trans noted

/-- Binding a new name in the scope of the module. -/
theorem SymbolsAre.bind (symbols : b.SymbolsAre n fun _ => none) (sound : b.Sound)
    (here : b.current = ScopeTable.moduleScope) (binding : Binding) :
    (b.take (.bind false n binding)).SymbolsAre n (atModule ⟨n, [binding]⟩) := by
  intro k s found
  rcases of_get?_take found with ⟨old, known, rfl⟩ | ⟨-, opens⟩
  · simp only [change, sound.target_atModule here false n, atModule]
    by_cases top : ScopeTable.moduleScope = k
    · rw [if_pos top, if_pos top.symm, Scope.symbol?_bind_self, symbols k old known]
      rfl
    · rw [if_neg top, if_neg (Ne.symm top)]
      exact symbols k old known
  · cases opens

/-- What is left of the two readings: they are in step, and nothing binds the name in the second
one but the import, which stands in the scope of the module. -/
structure Exchanged (source n : String) (b b' : ScopeBuilder) : Prop where
  sound : b'.Sound
  inStep : b.InStep b'
  symbols : ∃ binding : Binding, binding.form = .imported (source ++ "." ++ n) ∧
    b'.SymbolsAre n (atModule ⟨n, [binding]⟩)
  stars : ∃ top, b'.table.get? ScopeTable.moduleScope = some top ∧ top.stars = []

theorem Blank.exchanged (blank : b.Blank) (blank' : b'.Blank) (same : b.InStep b')
    (picks : Step.Picks source n l l') (only : l.filterMap Step.star? = [source]) {top : Scope}
    (found : (l.foldl take b).table.get? ScopeTable.moduleScope = some top)
    (noted : top.stars = [source])
    (free : ∀ k s, (l.foldl take b).table.get? k = some s → s.binds n = false) :
    Exchanged source n (l.foldl take b) (l'.foldl take b') := by
  obtain @⟨before, before', after, binding, alike, form⟩ := picks
  -- nothing else notes a module, and nothing binds the name
  have noStar : (∀ step ∈ before, step.star? = none) ∧ ∀ step ∈ after, step.star? = none := by
    have count := congrArg List.length only
    simp only [List.filterMap_append, List.filterMap_cons, Step.star?, List.length_append,
      List.length_cons, List.length_nil] at count
    exact ⟨List.filterMap_eq_nil_iff.mp (List.length_eq_zero_iff.mp (by omega)),
      List.filterMap_eq_nil_iff.mp (List.length_eq_zero_iff.mp (by omega))⟩
  have unbound : ∀ step ∈ before ++ .star source :: after, step.boundName? ≠ some n := by
    intro step member binds
    obtain ⟨k, s, known, bound⟩ := blank.sound.binds_of_mem member binds
    rw [free k s known] at bound
    cases bound
  obtain ⟨unbound, unboundAfter⟩ := List.forall_mem_append.mp unbound
  obtain ⟨-, unboundAfter⟩ := List.forall_mem_cons.mp unboundAfter
  have noStar' : ∀ step ∈ before', step.star? = none :=
    Step.forall_of_alike (fun _ _ like none => like.star.trans none) alike noStar.1
  have unbound' : ∀ step ∈ before', step.boundName? ≠ some n :=
    Step.forall_of_alike (fun _ _ like other => like.name ▸ other) alike unbound
  have sound := blank'.sound.run before'
  have inStep := same.run alike
  have here : (before'.foldl take b').current = ScopeTable.moduleScope :=
    inStep.current.trans (blank.current_eq noStar.1 noStar.2 found noted)
  have symbols := (blank'.symbols n).run unbound' fun _ _ => rfl
  rw [List.foldl_append, List.foldl_cons, List.foldl_append, List.foldl_cons]
  refine ⟨(sound.take _).run after, ?_, ⟨binding, form, ?_⟩, ?_⟩
  · exact (inStep.take (.inr ⟨rfl, rfl⟩)).run (Step.forall₂_alike_refl after)
  · refine (symbols.bind sound here binding).run unboundAfter fun k beyond => if_neg ?_
    have known := (sound.take (.bind false n binding)).module_lt
    rintro rfl
    exact absurd known (Nat.not_lt.mpr beyond)
  · obtain ⟨first, known, clear⟩ := blank'.stars
    have noStar : ∀ step ∈ before' ++ .bind false n binding :: after, step.star? = none :=
      List.forall_mem_append.mpr ⟨noStar', List.forall_mem_cons.mpr ⟨rfl, noStar.2⟩⟩
    obtain ⟨second, known', same'⟩ := stars_run known noStar
    rw [List.foldl_append, List.foldl_cons] at known'
    exact ⟨second, known', same'.trans clear⟩

end ScopeBuilder

namespace SourceUnit

/-- The unit `u` imports everything from the module `source`, in its own scope, and from no other
module, and nothing in it binds the name `n`. The unit `u'` has an import of `n` in its place. -/
structure PicksOnly (source n : String) (u u' : SourceUnit) : Prop where
  picks : Module.Picks u.package source n ⟨u.body⟩ ⟨u'.body⟩
  scopes : u.scopes = .ofModule u.moduleName u.package ⟨u.body⟩
  scopes' : u'.scopes = .ofModule u.moduleName u.package ⟨u'.body⟩
  only : (Node.stepsList u.package none u.body).filterMap Step.star? = [source]
  stars : u.topScope.stars = [source]
  free : ∀ k s, u.scopes.get? k = some s → s.binds n = false

variable {source n : String} {u u' : SourceUnit}

theorem PicksOnly.exchanged (only : PicksOnly source n u u') :
    ∃ b b', b.table = u.scopes ∧ b'.table = u'.scopes ∧
      ScopeBuilder.Exchanged source n b b' := by
  have blank := ScopeBuilder.start_blank u.moduleName u.body
  obtain ⟨top, found, -⟩ :=
    (blank.sound.run (Node.stepsList u.package none u.body)).top
  have scopes := only.scopes
  have stars := only.stars
  have free := only.free
  rw [topScope] at stars
  rw [only.scopes] at stars free
  refine ⟨_, _, scopes.symm, only.scopes'.symm, blank.exchanged
    (ScopeBuilder.start_blank u.moduleName u'.body) (ScopeBuilder.start_inStep ..)
    (.of_module only.picks) only.only found ?_ free⟩
  rwa [ScopeTable.ofModule, found] at stars

theorem PicksOnly.symbolFor?_eq_none (only : PicksOnly source n u u') (node : Nat) :
    u.symbolFor? node n = none := by
  by_contra bound
  obtain ⟨ref, found⟩ := Option.ne_none_iff_exists'.mp bound
  obtain ⟨-, s, known, binds⟩ := ScopeTable.isBound_of_symbolFor? found
  rw [only.free _ s known] at binds
  cases binds

theorem PicksOnly.stars_eq_nil (only : PicksOnly source n u u') : u'.topScope.stars = [] := by
  obtain ⟨b, b', -, table, exchanged⟩ := only.exchanged
  obtain ⟨top, found, none⟩ := exchanged.stars
  rw [topScope, ← table, found]
  exact none

/-- The name leads to the import of it, wherever it leads to something. -/
theorem PicksOnly.imports (only : PicksOnly source n u u') {info : Info} {ref : SymbolRef}
    (found : u'.symbolFor? info.id n = some ref) (context : Context) :
    Resolve.NamesImport u' (.name info n context) (source ++ "." ++ n) := by
  obtain ⟨b, b', -, table, exchanged⟩ := only.exchanged
  obtain ⟨binding, form, symbols⟩ := exchanged.symbols
  obtain ⟨named, s, known, bound⟩ := ScopeTable.isBound_of_symbolFor? found
  obtain ⟨symbol, has⟩ := Scope.binds_iff.mp bound
  have atModule := symbols ref.scope s (table ▸ known)
  rw [has, ScopeBuilder.atModule] at atModule
  split at atModule
  · cases atModule
    refine ⟨info, n, context, ref, binding, rfl, found, ?_, form⟩
    rw [Resolve.definite?, ScopeTable.symbol?, known, Option.bind_some, named, has]
    rfl
  · cases atModule

/-- A name that stands in a scope leads to the import of it, unless the module declares the name
to be that of a function around. -/
theorem PicksOnly.isSome_symbolFor? (only : PicksOnly source n u u') {node : Nat}
    (own : n ∉ u.topScope.nonlocals) (stands : (u.scopes.scopeAt? node).isSome = true) :
    (u'.symbolFor? node n).isSome = true := by
  obtain ⟨b, b', before, table, exchanged⟩ := only.exchanged
  obtain ⟨binding, -, symbols⟩ := exchanged.symbols
  obtain ⟨top, found, -⟩ := exchanged.stars
  obtain ⟨k, place⟩ := Option.isSome_iff_exists.mp stands
  rw [ScopeTable.scopeAt?, ← before, ← exchanged.inStep.places] at place
  have undeclared : n ∉ top.nonlocals := by
    have same := exchanged.inStep.nonlocals ScopeTable.moduleScope
    rw [found, before] at same
    obtain ⟨top', found', names⟩ := Option.map_eq_some_iff.mp same.symm
    rw [topScope, found'] at own
    exact names ▸ own
  have inside : k < b'.table.scopes.size := by
    obtain ⟨_, _, places, -⟩ := List.lookup_eq_some_iff.mp place
    exact exchanged.sound.places (node, k) (by simp [places])
  rw [symbolFor?, ← table, ScopeTable.symbolFor?, ScopeTable.scopeAt?, place, Option.bind_some,
    exchanged.sound.lookup_eq symbols found undeclared inside]
  rfl

end SourceUnit

/-! ## What the name denotes -/

namespace Resolve

open Relation (TransGen)

namespace Modules

variable {M : Modules} {p r : String}

/-- What a name on a circle leads to leads back to it. -/
theorem leads_back (circle : TransGen M.Step p p) (leads : M.Leads p r) : M.Leads r p := by
  induction leads with
  | refl => exact .refl
  | tail _ step back =>
    rcases Relation.ReflTransGen.cases_head back with rfl | ⟨next, first, back⟩
    · obtain ⟨next, first, back⟩ := TransGen.head'_iff.mp circle
      cases first.unique step
      exact back
    · cases first.unique step
      exact back

/-- A name stands for itself exactly if it leads nowhere, or back to itself. -/
theorem canonical_eq_self_iff
    (ending : (canonical M.units p).answer M.known ≠ .error .endless) :
    (canonical M.units p).answer M.known = .ok p ↔ M.Final p ∨ TransGen M.Step p p := by
  constructor
  · intro self
    obtain ⟨passed, path, -, -, last⟩ := canonical_eq_ok_iff.mp self
    refine last.imp_right fun inside => ?_
    cases path with
    | here => cases inside
    | step first rest => exact .head' first (leads_iff.mpr ⟨_, rest⟩)
  · rintro (final | circle)
    · exact canonical_of_final final
    · cases ended : (canonical M.units p).answer M.known with
      | error cause =>
        obtain ⟨passed, r, path, -, -, fault⟩ := canonicalFrom_eq_error ended
          fun same => ending (ended.trans (congrArg _ same))
        have stuck : ∀ next, ¬ M.Step r next := fun next step => by cases fault.symm.trans step
        exact absurd circle (path.not_circle stuck)
      | ok r =>
        obtain ⟨passed, path, distinct, -, last⟩ := canonical_eq_ok_iff.mp ended
        have inside : r ∈ passed :=
          last.resolve_left fun final => path.not_circle (fun _ => final.not_step) circle
        -- a name before the first one on the circle cannot be on it
        obtain ⟨before, after, rfl, first, round⟩ := path.split inside
        cases first with
        | here => rfl
        | step first rest =>
          have back := leads_back circle (leads_iff.mpr ⟨_, path⟩)
          have member : p ∈ r :: after := by
            rcases round.mem_of_leads (.inr List.mem_cons_self) back with member | rfl
            · exact member
            · exact List.mem_cons_self
          rw [List.cons_append, List.nodup_cons] at distinct
          exact absurd (List.mem_append_right _ member) distinct.1

end Modules

variable {units units' : List SourceUnit} {known known' : String → Except Fault (Option SourceUnit)}
variable {u u' home : SourceUnit} {source n : String} {info : Info} {context : Context}

/-- A name that nothing binds denotes what a module has of which everything is imported. -/
theorem qualifiedName_unbound (unbound : u.symbolFor? info.id n = none) :
    qualifiedName units u (.name info n context) = starTarget? units u n := by
  rw [qualifiedName, maxNesting]
  simp only [expressionName, unbound]

theorem answer_qualifiedName_star (unbound : u.symbolFor? info.id n = none)
    (stars : u.topScope.stars = [source])
    (found : (unitFor? units source).answer known = .ok (some home))
    (bound : home.topScope.binds n = true) (shown : Text.beginsWith n "_" = false) :
    (qualifiedName units u (.name info n context)).answer known =
      .ok (some (source ++ "." ++ n)) := by
  rw [qualifiedName_unbound unbound, starTarget?, stars, starTargetIn?, Query.answer_bind_eq_ok]
  refine ⟨some home, found, ?_⟩
  simp [bound, shown]

theorem answer_qualifiedName_explicit (only : SourceUnit.PicksOnly source n u u') :
    (qualifiedName units u' (.name info n context)).answer known =
      match u'.symbolFor? info.id n with
      | none => .ok none
      | some _ => ((canonical units (source ++ "." ++ n)).answer known).map some := by
  cases found : u'.symbolFor? info.id n with
  | none =>
    rw [qualifiedName_unbound found, starTarget?, only.stars_eq_nil]
    rfl
  | some ref => exact (only.imports found context).answer_qualifiedName

theorem answer_qualifiedName_eq_iff {M : Modules} (only : SourceUnit.PicksOnly source n u u')
    (ending : (canonical M.units (source ++ "." ++ n)).answer M.known ≠ .error .endless) :
    (qualifiedName M.units u' (.name info n context)).answer M.known =
        .ok (some (source ++ "." ++ n)) ↔
      (u'.symbolFor? info.id n).isSome = true ∧ (M.Final (source ++ "." ++ n) ∨
        TransGen M.Step (source ++ "." ++ n) (source ++ "." ++ n)) := by
  rw [answer_qualifiedName_explicit only, ← Modules.canonical_eq_self_iff ending]
  cases u'.symbolFor? info.id n with
  | none => simp
  | some ref =>
    cases (canonical M.units (source ++ "." ++ n)).answer M.known <;> simp [Except.map]

theorem answer_bind_congr {α β : Type} {q q' : Query α} {f f' : α → Query β}
    (same : q'.answer known' = q.answer known)
    (more : ∀ a, (f' a).answer known' = (f a).answer known) :
    (q' >>= f').answer known' = (q >>= f).answer known := by
  rw [Query.answer_bind, Query.answer_bind, same]
  cases q.answer known with
  | error cause => rfl
  | ok a => exact more a

/-- Whether a name denotes a target only depends on where the target leads. -/
theorem answer_matchesTarget_congr {target : String}
    (same : (canonical units' target).answer known' = (canonical units target).answer known)
    (q : Option String) :
    (matchesTarget units' q target).answer known' =
      (matchesTarget units q target).answer known := by
  cases q with
  | none => rfl
  | some q =>
    simp only [matchesTarget]
    split
    · rfl
    · split
      · rfl
      · rw [Query.answer_bind, Query.answer_bind, same]
        rfl

open Modules in
/-- A name that is imported together with everything else denotes the module's name for it. Where
the unit imports the name itself instead, the name denotes what the module's name for it leads to,
if it leads to the import at all: it does so in every scope, unless the module declares the name to
be that of a function around. So the two agree exactly if it does and the module's name leads
nowhere, or back to itself; and then the same calls are recognised, wherever the target leads to
the same name. -/
theorem star_import_iff (tree tree' : FileTree) (sources sources' : SourceSet)
    (only : SourceUnit.PicksOnly source n u u')
    (found : (SourceSet.run tree (unitFor? sources.units source) sources).1 = .ok (some home))
    (bound : home.topScope.binds n = true) (shown : Text.beginsWith n "_" = false) (info : Info)
    (context : Context) :
    let star := (SourceSet.run tree
      (qualifiedName sources.units u (.name info n context)) sources).1
    let explicit := (SourceSet.run tree'
      (qualifiedName sources'.units u' (.name info n context)) sources').1
    let leads := (SourceSet.run tree' (canonical sources'.units (source ++ "." ++ n)) sources').1
    let M := ofSources tree' sources'
    star = .ok (some (source ++ "." ++ n)) ∧
    (explicit = match u'.symbolFor? info.id n with
      | none => .ok none
      | some _ => leads.map some) ∧
    (n ∉ u.topScope.nonlocals → (u.scopes.scopeAt? info.id).isSome = true →
      (u'.symbolFor? info.id n).isSome = true) ∧
    (leads ≠ .error .endless →
      (explicit = star ↔ (u'.symbolFor? info.id n).isSome = true ∧
        (M.Final (source ++ "." ++ n) ∨
          TransGen M.Step (source ++ "." ++ n) (source ++ "." ++ n)))) ∧
    ∀ target, (SourceSet.run tree' (canonical sources'.units target) sources').1 =
        (SourceSet.run tree (canonical sources.units target) sources).1 →
      explicit = star →
      (SourceSet.run tree' (do
          let q ← qualifiedName sources'.units u' (.name info n context)
          matchesTarget sources'.units q target) sources').1 =
        (SourceSet.run tree (do
          let q ← qualifiedName sources.units u (.name info n context)
          matchesTarget sources.units q target) sources).1 := by
  simp only [SourceSet.run_fst] at found ⊢
  have given : (qualifiedName sources.units u (.name info n context)).answer
      (sources.answers tree) = .ok (some (source ++ "." ++ n)) :=
    answer_qualifiedName_star (only.symbolFor?_eq_none _) only.stars found bound shown
  refine ⟨given, answer_qualifiedName_explicit only, only.isSome_symbolFor?, fun ending => ?_,
    fun target same agree => ?_⟩
  · rw [given]
    exact answer_qualifiedName_eq_iff (M := ofSources tree' sources') only ending
  · exact answer_bind_congr agree fun q => answer_matchesTarget_congr same q

/-- A unit that imports a name, or everything, from a module, and uses a name. -/
def importer (label : String) : SourceUnit :=
  .ofModule (.repository 2) "u.py" { name := "u", isPackage := false }
    ⟨[.importFrom ⟨1, 1⟩ (some "M") 0 [.importAlias ⟨2, 1⟩ label none],
      .plain ⟨3, 2⟩ .exprStmt [.name ⟨4, 2⟩ "n" .load]]⟩

/-- A set with such a unit, where the module imports the name from where it is defined. -/
def importing (label : String) : SourceSet :=
  { units := (SourceSet.ofTexts [("k.py", "def n():\n    pass\n"),
      ("M.py", "from k import n\n")]).units ++ [importer label] }

theorem importer_picksOnly : SourceUnit.PicksOnly "M" "n" (importer "*") (importer "n") where
  picks := ⟨[], _, _, _, rfl, rfl, .here ⟨1, 1⟩ ⟨2, 1⟩ none (by decide) (by decide)⟩
  scopes := rfl
  scopes' := rfl
  only := by decide
  stars := by decide
  free := by
    have none : (importer "*").scopes.scopes.all fun s => !s.binds "n" := by
      decide +kernel
    intro k s found
    simpa using Array.all_eq_true_iff_forall_mem.mp none s (Array.mem_of_getElem? found)

theorem star_import_iff_reexport :
    SourceUnit.PicksOnly "M" "n" (importer "*") (importer "n") ∧
    (SourceSet.run default (qualifiedName (importing "*").units (importer "*")
      (.name ⟨4, 2⟩ "n" .load)) (importing "*")).1 = .ok (some "M.n") ∧
    (SourceSet.run default (qualifiedName (importing "n").units (importer "n")
      (.name ⟨4, 2⟩ "n" .load)) (importing "n")).1 = .ok (some "k.n") ∧
    (SourceSet.run default (matchesTarget (importing "*").units (some "M.n") "k.n")
      (importing "*")).1 = .ok false ∧
    (SourceSet.run default (matchesTarget (importing "n").units (some "k.n") "k.n")
      (importing "n")).1 = .ok true := by
  have facts : ((indexed? (importing "*").units "M").any fun home => home.topScope.binds "n") ∧
      ((importer "n").symbolFor? 4 "n").isSome = true ∧
      (canonical (importing "n").units "M.n").answer (fun _ => .ok none) = .ok "k.n" ∧
      (matchesTarget (importing "*").units (some "M.n") "k.n").answer (fun _ => .ok none) =
        .ok false ∧
      (matchesTarget (importing "n").units (some "k.n") "k.n").answer (fun _ => .ok none) =
        .ok true := by
    decide +kernel
  obtain ⟨known, stands, whole, star, explicit⟩ := facts
  obtain ⟨home, found, bound⟩ := (Option.any_eq_true ..).mp known
  -- without search paths the set answers like an empty table
  have answered {α : Type} (label : String) (q : Query α) :
      (SourceSet.run default q (importing label)).1 = q.answer fun _ => .ok none := by
    rw [SourceSet.run_fst, funext (SourceSet.answers_of_searchPaths_nil rfl rfl)]
  have loaded : (SourceSet.run default (unitFor? (importing "*").units "M") (importing "*")).1 =
      .ok (some home) := by
    rw [answered, unitFor?, found]
    rfl
  obtain ⟨first, second, -⟩ := star_import_iff default default (importing "*") (importing "n")
    importer_picksOnly loaded bound (by decide) ⟨4, 2⟩ .load
  obtain ⟨ref, place⟩ := Option.isSome_iff_exists.mp stands
  refine ⟨importer_picksOnly, first, ?_, (answered ..).trans star, (answered ..).trans explicit⟩
  rw [second, place, answered]
  exact congrArg (Except.map some) whole

end Resolve

end Catalog
