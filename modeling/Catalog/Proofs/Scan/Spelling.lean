import Catalog.Proofs.Resolve.Transparency
import Catalog.Proofs.Scan.Units
import Catalog.Proofs.Scope.Names
import Mathlib.Logic.Equiv.Basic

/-!
# The names of local variables

A name that only functions and comprehensions bind, and that nothing is defined under, cannot be
asked for from outside of its scope. It can be replaced by a name that does not occur in the unit:
the two units correspond, with the two names exchanged. All other units stand for themselves. So a
scan finds the same records, whatever the local variables are called.
-/

namespace Catalog

open Syntax Resolve

namespace SourceUnit

/-- The unit with `y` in place of the variable `x`. -/
def respell (u : SourceUnit) (x y : String) : SourceUnit :=
  ofModule u.origin u.path u.identity
    { body := u.body.map (Node.rename fun v => if v = x then y else v) }

/-- The name is one of local variables: nothing is defined under it or imported under it as its own
name, and it is bound in functions and comprehensions only. -/
structure IsLocal (u : SourceUnit) (x : String) : Prop where
  undeclared : ∀ k ∈ Node.preorder u.body, x ∉ k.declared
  scopes : ∀ s ∈ u.scopes.scopes, s.binds x = true → s.kind = .function ∨ s.kind = .comprehension

/-- The name does not occur in the unit. -/
def IsFresh (u : SourceUnit) (y : String) : Prop :=
  ∀ k ∈ Node.preorder u.body, y ∉ k.vars ∧ y ∉ k.declared

instance (u : SourceUnit) (x : String) : Decidable (u.IsLocal x) :=
  decidable_of_iff ((∀ k ∈ Node.preorder u.body, x ∉ k.declared) ∧
    ∀ s ∈ u.scopes.scopes.toList, s.binds x = true → s.kind = .function ∨ s.kind = .comprehension)
    ⟨fun h => ⟨h.1, fun s member => h.2 s (Array.mem_toList_iff.mpr member)⟩,
      fun h => ⟨h.undeclared, fun s member => h.scopes s (Array.mem_toList_iff.mp member)⟩⟩

instance (u : SourceUnit) (y : String) : Decidable (u.IsFresh y) :=
  inferInstanceAs (Decidable (∀ k ∈ Node.preorder u.body, y ∉ k.vars ∧ y ∉ k.declared))

variable {u : SourceUnit} {x y : String}

/-! ## What keeps its name -/

/-- A name that is bound is written somewhere. -/
theorem ne_of_fresh (read : u.IsRead) (fresh : u.IsFresh y) {n : Nat} {s : Scope}
    (found : u.scopes.get? n = some s) {symbol : Symbol} (member : symbol ∈ s.symbols) :
    symbol.name ≠ y := by
  rintro rfl
  obtain ⟨bound, made⟩ := (isOf_of_get? read found).symbols symbol member
  obtain ⟨b, first⟩ := List.exists_mem_of_ne_nil _ bound
  obtain ⟨⟨k, inside, makes⟩, -⟩ := made b first
  exact makes.written.elim (fresh k inside).1 (fresh k inside).2

theorem ne_of_isLocal (isLocal : u.IsLocal x) {n : Nat} {s : Scope}
    (found : u.scopes.get? n = some s) (outer : s.kind = .module ∨ s.kind = .classBody)
    {symbol : Symbol} (member : symbol ∈ s.symbols) : symbol.name ≠ x := by
  rintro rfl
  have binds : s.binds symbol.name = true := by
    rw [Scope.binds, Scope.symbol?, List.find?_isSome]
    exact ⟨symbol, member, beq_self_eq_true _⟩
  have inner := isLocal.scopes s (Array.mem_of_getElem? found) binds
  rcases outer with outer | outer <;> simp [outer] at inner

/-- The two names are exchanged where neither is bound. -/
theorem kept_of_kind (read : u.IsRead) (isLocal : u.IsLocal x) (fresh : u.IsFresh y) {n : Nat}
    {s : Scope} (found : u.scopes.get? n = some s)
    (outer : s.kind = .module ∨ s.kind = .classBody) :
    ∀ symbol ∈ s.symbols, Equiv.swap x y symbol.name = symbol.name :=
  fun _ member => Equiv.swap_apply_of_ne_of_ne (ne_of_isLocal isLocal found outer member)
    (ne_of_fresh read fresh found member)

theorem kept_of_declared (isLocal : u.IsLocal x) (fresh : u.IsFresh y) :
    Node.KeepsDeclared (Equiv.swap x y) u.body := by
  intro k inside v declared
  apply Equiv.swap_apply_of_ne_of_ne
  · rintro rfl
    exact isLocal.undeclared k inside declared
  · rintro rfl
    exact (fresh k inside).2 declared

/-- The body of a class is a scope of a class. -/
theorem kind_of_class (read : u.IsRead) {k : Node} (inside : k ∈ Node.preorder u.body)
    (isClass : k.isClass = true) {n : Nat} {s : Scope}
    (opened : u.scopes.openedBy? k.id = some n) (found : u.scopes.get? n = some s) :
    s.kind = .classBody := by
  have same : s.node = k.id := by
    obtain ⟨bound, same, -⟩ := Array.findIdx?_eq_some_iff_getElem.mp opened
    rw [ScopeTable.get?, Array.getElem?_eq_getElem bound] at found
    cases found
    exact beq_iff_eq.mp same
  have distinct : (Module.id :: (Node.preorder u.body).map Node.id).Nodup := by
    obtain ⟨_, _, _, _, m, parsed, rfl⟩ := read
    exact Module.nodup_ids_of_parse parsed
  obtain ⟨new, distinct⟩ := List.nodup_cons.mp distinct
  rcases (isOf_of_get? read found).opened with top | ⟨k', inside', same', kind⟩
  · rw [← top, same] at new
    exact absurd (List.mem_map_of_mem inside) new
  · rw [List.inj_on_of_nodup_map distinct inside' inside (same'.trans same)] at kind
    exact kind isClass

/-! ## The renamed unit -/

theorem respell_eq (fresh : u.IsFresh y) :
    u.respell x y = ofModule u.origin u.path u.identity
      { body := u.body.map (Node.rename (Equiv.swap x y)) } := by
  rw [respell, List.map_congr_left fun n member => ?_]
  refine Node.rename_congr n fun k below v own => ?_
  have inside : k ∈ Node.preorder u.body := Node.preorder_subset member below
  have other : v ≠ y := by
    rintro rfl
    exact (fresh k inside).1 own
  split
  · rename_i same
    rw [same, Equiv.swap_apply_left]
  · rename_i different
    rw [Equiv.swap_apply_of_ne_of_ne different other]

/-- The unit is like the one with the local variable renamed. -/
theorem alike_respell (read : u.IsRead) (starless : u.topScope.stars = []) (isLocal : u.IsLocal x)
    (fresh : u.IsFresh y) : u.Alike (Equiv.swap x y) (u.respell x y) where
  identity := rfl
  body := by
    rw [respell_eq fresh]
    rfl
  scopes := by
    rw [respell_eq fresh, scopes_of_isRead read]
    exact ScopeTable.ofModule_rename (Equiv.injective _) _ _ (kept_of_declared isLocal fresh)
  apart := Equiv.injective _
  top := by
    obtain ⟨s, top, kind, -⟩ := moduleScope_of_isRead read
    rw [topScope, top]
    exact kept_of_kind read isLocal fresh top (.inl kind)
  members ref b n s only form opened found := by
    obtain ⟨⟨k, inside, makes⟩, -⟩ := made_of_definite? read only
    obtain ⟨owner, -⟩ := makes.defined (by rw [form]; rfl)
    rw [owner] at opened
    have kind := kind_of_class read inside (makes.ofClass form) opened found
    exact kept_of_kind read isLocal fresh found (.inr kind)
  declared ref b only declares := by
    obtain ⟨⟨k, inside, makes⟩, -⟩ := made_of_definite? read only
    exact kept_of_declared isLocal fresh k inside _ (makes.defined declares).2
  stars := .inl starless

end SourceUnit

/-! ## Sets that give the same records -/

namespace Scan

variable {tree : FileTree} {o : ScanOptions} {sources sources' : SourceSet}

/-- The records that the units give, or none, for each unit that is scanned. -/
def recordsAll (tree : FileTree) (o : ScanOptions) (sources : SourceSet) :
    Except Fault (List (Option Record)) :=
  (selected o sources.units).mapM fun u => (own tree o sources u).map Prod.fst

theorem recordsAll_eq (tree : FileTree) (o : ScanOptions) (sources : SourceSet) :
    recordsAll tree o sources = (ownAll tree o sources sources.units).map (List.map Prod.fst) := by
  rw [recordsAll, ownAll]
  induction selected o sources.units with
  | nil => rfl
  | cons u rest ih =>
    rw [List.mapM_cons, List.mapM_cons, ih]
    cases own tree o sources u with
    | error cause => rfl
    | ok given => cases rest.mapM (own tree o sources) <;> rfl

/-- A scan ends as the records of its units say, and gives these. -/
theorem ofSources_recordsAll (tree : FileTree) (o : ScanOptions) (sources : SourceSet) :
    (ofSources tree o sources).1 = (recordsAll tree o sources).map (fun _ => ()) ∧
    ∀ given, recordsAll tree o sources = .ok given →
      (ofSources tree o sources).2.result.records = given.reduceOption := by
  have ends := ofSources_own tree o sources
  rw [recordsAll_eq]
  cases ended : ownAll tree o sources sources.units with
  | error cause =>
    rw [ended] at ends
    exact ⟨ends, nofun⟩
  | ok results =>
    rw [ended] at ends
    refine ⟨ends, fun given same => ?_⟩
    cases same
    rw [(result_of_own ended).1]
    exact (List.filterMap_map (f := Prod.fst) (g := id)).symm

/-- If units correspond one by one and give the same records, so do the scans. -/
theorem records_of_forall₂ {rel : SourceUnit → SourceUnit → Prop}
    (each : List.Forall₂ rel sources.units sources'.units)
    (alike : ∀ u u', rel u u' → o.isIrrelevant u' = o.isIrrelevant u)
    (gives : ∀ u u', rel u u' →
      (own tree o sources' u').map Prod.fst = (own tree o sources u).map Prod.fst) :
    (ofSources tree o sources').1 = (ofSources tree o sources).1 ∧
    ((ofSources tree o sources).1 = .ok () →
      (ofSources tree o sources').2.result.records =
        (ofSources tree o sources).2.result.records) := by
  have all : recordsAll tree o sources' = recordsAll tree o sources := by
    have each := selected_of_forall₂ each alike
    rw [recordsAll, recordsAll]
    generalize selected o sources.units = units at each
    generalize selected o sources'.units = units' at each
    induction each with
    | nil => rw [List.mapM_nil, List.mapM_nil]
    | cons related _ ih => rw [List.mapM_cons, List.mapM_cons, gives _ _ related, ih]
  obtain ⟨ends, records⟩ := ofSources_recordsAll tree o sources
  obtain ⟨ends', records'⟩ := ofSources_recordsAll tree o sources'
  rw [all] at ends' records'
  refine ⟨ends'.trans ends.symm, fun fine => ?_⟩
  cases given : recordsAll tree o sources with
  | error cause =>
    rw [ends, given] at fine
    cases fine
  | ok found => rw [records' found given, records found given]

/-! ## One unit with another spelling -/

/-- Of the units only `u` is replaced, by `u'`. -/
def Replaced (u u' v v' : SourceUnit) : Prop :=
  v = u ∧ v' = u' ∨ v.origin ≠ u.origin ∧ v' = v

theorem forall₂_replaced {before after : List SourceUnit} {u : SourceUnit} (u' : SourceUnit)
    (distinct : ((before ++ u :: after).map SourceUnit.origin).Nodup) :
    List.Forall₂ (Replaced u u') (before ++ u :: after) (before ++ u' :: after) := by
  have others {vs : List SourceUnit} (apart : ∀ v ∈ vs, v.origin ≠ u.origin) :
      List.Forall₂ (Replaced u u') vs vs := by
    refine List.forall₂_same.mpr fun v member => ?_
    exact .inr ⟨apart v member, rfl⟩
  rw [List.map_append, List.map_cons, List.nodup_append] at distinct
  obtain ⟨-, distinct, apart⟩ := distinct
  obtain ⟨new, -⟩ := List.nodup_cons.mp distinct
  refine List.rel_append (others fun v member => ?_)
    (.cons (.inl ⟨rfl, rfl⟩) (others fun v member => ?_))
  · exact apart _ (List.mem_map_of_mem member) _ List.mem_cons_self
  · intro same
    exact new (same ▸ List.mem_map_of_mem member)

/-- A unit and the one with a local variable renamed correspond; all others stand for
themselves. -/
def respelling {M M' : Modules} {u : SourceUnit} {x y : String}
    (alike : u.Alike (Equiv.swap x y) (u.respell x y)) (known : M'.known = M.known)
    (each : List.Forall₂ (Replaced u (u.respell x y)) M.units M'.units)
    (outside : ∀ m v, M.known m = .ok (some v) → v.origin ≠ u.origin) : Correspondence M M' :=
  have named : ∀ v v', Replaced u (u.respell x y) v v' → v'.moduleName = v.moduleName := by
    rintro v v' (⟨rfl, rfl⟩ | ⟨-, rfl⟩) <;> rfl
  have inside (m : String) := indexed?_of_forall₂ each named m
  have others (m : String) : Query.Agree M.known M'.known
      (Option.Rel (Replaced u (u.respell x y))) (Query.outside m) (Query.outside m) := by
    rw [known]
    refine .outside fun found given => ?_
    cases found with
    | none => exact .none
    | some v => exact .some (.inr ⟨outside m v given, rfl⟩)
  { rel := Replaced u (u.respell x y)
    spelling := fun origin => if origin = u.origin then Equiv.swap x y else fun v => v
    alike := by
      rintro v v' (⟨rfl, rfl⟩ | ⟨other, rfl⟩)
      · rw [if_pos rfl]
        exact alike
      · rw [if_neg other]
        exact .refl v'
    origins := by
      have same : ∀ v v', Replaced u (u.respell x y) v v' → v'.origin = v.origin := by
        rintro v v' (⟨rfl, rfl⟩ | ⟨-, rfl⟩) <;> rfl
      intro v v' w w' first second
      rw [same v v' first, same w w' second]
    units := agree_unitFor? inside others
    cuts := agree_split? inside others }

/-- Symbols matter, not their spelling. A name that one unit uses for local variables only can be
replaced by one that does not occur in the unit, at every position of a variable. The scan ends in
the same way, and finds the same records. -/
theorem spelling_irrelevant (tree : FileTree) (o : ScanOptions) (sources : SourceSet)
    (reached : sources.Reached tree) (before : List SourceUnit) (u : SourceUnit)
    (after : List SourceUnit) (place : sources.units = before ++ u :: after)
    (starless : u.topScope.stars = []) (x y : String) (isLocal : u.IsLocal x)
    (fresh : u.IsFresh y) :
    ∀ outcome scan, ofSources tree o sources = (outcome, scan) →
      ∃ scan', ofSources tree o { sources with units := before ++ u.respell x y :: after } =
          (outcome, scan') ∧
        (outcome = .ok () → scan'.result.records = scan.result.records) := by
  have kept := reached.isKept
  have member : u ∈ sources.units := by simp [place]
  have read : u.IsRead := kept.orderly.texts u member
  have distinct := kept.nodup_origins
  obtain ⟨index, origin⟩ := kept.placed member
  have each : List.Forall₂ (Replaced u (u.respell x y)) sources.units
      (before ++ u.respell x y :: after) := by
    rw [place] at distinct ⊢
    exact forall₂_replaced _ distinct
  let sources' : SourceSet := { sources with units := before ++ u.respell x y :: after }
  have answers : sources'.answers tree = sources.answers tree := by
    funext m
    rw [SourceSet.answers_eq, SourceSet.answers_eq]
  let C : Correspondence (.ofSources tree sources) (.ofSources tree sources') :=
    respelling (SourceUnit.alike_respell read starless isLocal fresh) answers each
      fun m v found => by
        rw [(kept.of_answers found).origin, origin]
        exact nofun
  have gives : ∀ v v', Replaced u (u.respell x y) v v' →
      (own tree o sources' v').map Prod.fst = (own tree o sources v).map Prod.fst := by
    intro v v' replaced
    rw [own, own, SourceSet.run_fst, SourceSet.run_fst]
    have related : C.rel v v' := replaced
    exact (settle_of_rel related o (False.elim)).1
  have alike : ∀ v v', Replaced u (u.respell x y) v v' →
      o.isIrrelevant v' = o.isIrrelevant v := by
    rintro v v' (⟨rfl, rfl⟩ | ⟨-, rfl⟩)
    · simp [ScanOptions.isIrrelevant, SourceUnit.isEmpty, SourceUnit.respell, SourceUnit.ofModule]
    · rfl
  have same := @records_of_forall₂ tree o sources sources' _ each alike gives
  intro outcome scan scanned
  rw [scanned] at same
  exact ⟨(ofSources tree o sources').2, Prod.ext same.1 rfl, same.2⟩

/-- An adapter that is registered by way of a local variable. -/
def keeping : List (String × String) :=
  [("p.py", "from meloshub import adapter\ndef make():\n    " ++
      "return adapter.Metadata(id='a')\ndef init():\n    made = make()\n    " ++
      "adapter.register(made)\n")]

/-- The adapter gives its record, however the variable is called. -/
theorem spelling_irrelevant_keeping : ∃ u,
    (SourceSet.ofTexts keeping).units = [u] ∧ ¬ u.IsFresh "made" ∧ u.IsLocal "made" ∧
    u.IsFresh "other" ∧
    ∃ scan', ofSources (.ofTexts keeping) {}
        { SourceSet.ofTexts keeping with units := [u.respell "made" "other"] } = (.ok (), scan') ∧
      scan'.result.records = [{ id := "a" }] := by
  -- one evaluation for all, as each of them reads the text
  have facts : (∀ f ∈ keeping, FileTree.isSimple f.1 f.2 = true) ∧
      (∀ f ∈ keeping.zipIdx, (SourceUnit.parse ["."] f.2 f.1.1 f.1.2).isOk = true) ∧
      (SourceSet.ofTexts keeping).units.length = 1 ∧
      (∀ u ∈ (SourceSet.ofTexts keeping).units, ¬ u.IsFresh "made" ∧ u.IsLocal "made" ∧
        u.IsFresh "other" ∧ u.topScope.stars = []) ∧
      (ofSources (.ofTexts keeping) {} (SourceSet.ofTexts keeping)).1 = .ok () ∧
      (ofSources (.ofTexts keeping) {} (SourceSet.ofTexts keeping)).2.result.records =
        [{ id := "a" }] := by
    decide +kernel
  obtain ⟨simple, parsed, one, each, scanned⟩ := facts
  have reached : (SourceSet.ofTexts keeping).Reached (.ofTexts keeping) :=
    SourceSet.reached_ofTexts (by decide) simple parsed
  obtain ⟨u, only⟩ := List.length_eq_one_iff.mp one
  obtain ⟨used, isLocal, fresh, starless⟩ := each u (by simp [only])
  rcases ran : ofSources (.ofTexts keeping) {} (SourceSet.ofTexts keeping) with ⟨outcome, scan⟩
  rw [ran] at scanned
  obtain ⟨rfl, found⟩ := scanned
  obtain ⟨scan', renamed, records⟩ := spelling_irrelevant (.ofTexts keeping) {}
    (SourceSet.ofTexts keeping) reached [] u [] only starless "made" "other" isLocal fresh
    (.ok ()) scan ran
  exact ⟨u, only, used, isLocal, fresh, scan', renamed, (records rfl).trans found⟩

end Scan

end Catalog
