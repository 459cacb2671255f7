import Catalog.Proofs.Scope.Bindings
import Catalog.Source.Unit
import Mathlib.Data.List.Forall2

/-!
# Importing a name instead of everything

A module that imports everything from another one may be written with an import of one name in its
place. The two are read by the same steps, except that one step notes the other module and the
other step binds the name. So both are always in the same scope, and a name that nothing else binds
has this import as its only binding, in the scope of the module.
-/

namespace Catalog

open Syntax

/-! ## What one step changes -/

/-- The name that a step binds. -/
def Step.boundName? : Step → Option String
  | bind _ name _ => some name
  | _ => none

/-- The module of which a step notes that everything is imported. -/
def Step.star? : Step → Option String
  | star module => some module
  | _ => none

namespace ScopeBuilder

variable {b : ScopeBuilder} {step : Step} {k : Nat} {s s' : Scope}

/-- The scope in which a step binds a name. -/
def target (b : ScopeBuilder) (fixed : Bool) (name : String) : Nat :=
  if fixed then b.current else b.bindingScope name

/-- What a step makes of the scope with the number `k`. -/
def change (b : ScopeBuilder) (k : Nat) (s : Scope) : Step → Scope
  | .bind fixed name binding => if b.target fixed name = k then s.bind name binding else s
  | .declareGlobal names => if b.current = k then { s with globals := s.globals ++ names } else s
  | .declareNonlocal names =>
    if b.current = k then { s with nonlocals := s.nonlocals ++ names } else s
  | .star module => if b.current = k then { s with stars := s.stars ++ [module] } else s
  | _ => s

/-- The scope that opens at a step. -/
def opened? (b : ScopeBuilder) : Step → Option Scope
  | .enter kind info name body =>
    some { kind, node := info.id, line := info.line, name, outer := b.current :: b.outer, body }
  | _ => none

theorem size_take (b : ScopeBuilder) (step : Step) :
    (b.take step).table.scopes.size = b.table.scopes.size + (b.opened? step).toList.length := by
  cases step with
  | leave =>
    rw [take]
    split <;> rfl
  | enter => simp [take, opened?]
  | _ => simp [take, opened?, modifyScope]

theorem get?_modifyScope (b : ScopeBuilder) (n k : Nat) (g : Scope → Scope) :
    (b.modifyScope n g).table.get? k =
      (b.table.get? k).map fun s => if n = k then g s else s := by
  rw [modifyScope, ScopeTable.get?_modify]
  split
  · rfl
  · exact (Option.map_id' ..).symm

theorem get?_take_of_some (found : b.table.get? k = some s) (step : Step) :
    (b.take step).table.get? k = some (b.change k s step) := by
  cases step with
  | place => exact found
  | enter => exact ScopeTable.get?_push_of_lt found
  | leave =>
    rw [take]
    split <;> exact found
  | bind | declareGlobal | declareNonlocal | star =>
    rw [take, get?_modifyScope, found]
    rfl

theorem get?_take_of_none (beyond : b.table.get? k = none) (step : Step) :
    (b.take step).table.get? k = if k = b.table.scopes.size then b.opened? step else none := by
  cases step with
  | enter =>
    rw [take, ScopeTable.get?, Array.getElem?_push]
    split
    · rfl
    · exact beyond
  | leave =>
    refine Eq.trans ?_ (ite_self none).symm
    rw [take]
    split <;> exact beyond
  | place => exact beyond.trans (ite_self none).symm
  | bind | declareGlobal | declareNonlocal | star =>
    refine Eq.trans ?_ (ite_self none).symm
    rw [take, get?_modifyScope, beyond]
    rfl

/-- A scope after a step is one from before, or the one that opened. -/
theorem of_get?_take (found : (b.take step).table.get? k = some s') :
    (∃ s, b.table.get? k = some s ∧ s' = b.change k s step) ∨
      k = b.table.scopes.size ∧ b.opened? step = some s' := by
  cases before : b.table.get? k with
  | some s =>
    rw [get?_take_of_some before] at found
    exact .inl ⟨s, rfl, (Option.some.inj found).symm⟩
  | none =>
    rw [get?_take_of_none before] at found
    split at found
    · rename_i last
      exact .inr ⟨last, found⟩
    · cases found

/-! ## Sound states -/

/-- The open scopes are known, each one younger than those around it, and the scope of the module
is around all of them. -/
structure Sound (b : ScopeBuilder) : Prop where
  inside : b.current < b.table.scopes.size
  nested : (b.current :: b.outer).Pairwise (· > ·)
  module : (b.current :: b.outer).getLast? = some ScopeTable.moduleScope
  scopes : ∀ k s, b.table.get? k = some s → (k :: s.outer).Pairwise (· > ·) ∧
    (k :: s.outer).getLast? = some ScopeTable.moduleScope
  places : ∀ place ∈ b.table.places, place.2 < b.table.scopes.size
  top : ∃ s, b.table.get? ScopeTable.moduleScope = some s ∧ s.kind = .module

theorem start_sound (name : String) (body : List Node) : (start name body).Sound where
  inside := by simp [start, ScopeTable.moduleScope]
  nested := List.pairwise_singleton _ _
  module := rfl
  scopes k s found := by
    have zero : k = 0 := by
      have := (Array.getElem?_eq_some_iff.mp found).1
      simpa [start] using this
    subst zero
    cases found
    exact ⟨List.pairwise_singleton _ _, rfl⟩
  places := by simp [start, ScopeTable.moduleScope]
  top := ⟨_, rfl, rfl⟩

/-- A step changes neither the kind of a scope nor what is around it. -/
theorem frame_change (b : ScopeBuilder) (k : Nat) (s : Scope) (step : Step) :
    (b.change k s step).kind = s.kind ∧ (b.change k s step).outer = s.outer := by
  cases step with
  | bind | declareGlobal | declareNonlocal | star =>
    simp only [change]
    split <;> exact ⟨rfl, rfl⟩
  | _ => exact ⟨rfl, rfl⟩

theorem Sound.take (sound : b.Sound) (step : Step) : (b.take step).Sound := by
  -- What the known scopes and places are is the same argument for every step; only the scopes that
  -- are open depend on which step it is.
  have size := size_take b step
  have scopes : ∀ k s, (b.take step).table.get? k = some s → (k :: s.outer).Pairwise (· > ·) ∧
      (k :: s.outer).getLast? = some ScopeTable.moduleScope := by
    intro k s found
    rcases of_get?_take found with ⟨before, known, rfl⟩ | ⟨rfl, opens⟩
    · rw [(frame_change ..).2]
      exact sound.scopes k before known
    · cases step with
      | enter kind info name body =>
        cases opens
        refine ⟨List.pairwise_cons.mpr ⟨fun j member => ?_, sound.nested⟩, ?_⟩
        · rcases List.mem_cons.mp member with rfl | member
          · exact sound.inside
          · exact ((List.pairwise_cons.mp sound.nested).1 j member).trans sound.inside
        · rw [List.getLast?_cons_cons]
          exact sound.module
      | _ => cases opens
  have top : ∃ s, (b.take step).table.get? ScopeTable.moduleScope = some s ∧ s.kind = .module := by
    obtain ⟨s, found, kind⟩ := sound.top
    exact ⟨_, get?_take_of_some found step, (frame_change ..).1.trans kind⟩
  have grown : ∀ place ∈ b.table.places, place.2 < (b.take step).table.scopes.size :=
    fun place member => by
      have := sound.places place member
      omega
  cases step with
  | place node =>
    exact ⟨sound.inside, sound.nested, sound.module, scopes,
      List.forall_mem_cons.mpr ⟨sound.inside, sound.places⟩, top⟩
  | enter kind info name body =>
    have opened := scopes b.table.scopes.size _ (ScopeTable.get?_push_self ..)
    exact ⟨by simp [ScopeBuilder.take], opened.1, opened.2, scopes, grown, top⟩
  | leave =>
    cases around : b.outer with
    | nil =>
      simp only [ScopeBuilder.take, around]
      exact sound
    | cons n rest =>
      have nested := sound.nested
      have module := sound.module
      rw [around] at nested module
      obtain ⟨younger, nested⟩ := List.pairwise_cons.mp nested
      simp only [ScopeBuilder.take, around]
      exact ⟨(younger n List.mem_cons_self).trans sound.inside, nested,
        List.getLast?_cons_cons.symm.trans module, sound.scopes, sound.places, sound.top⟩
  | bind | declareGlobal | declareNonlocal | star =>
    refine ⟨?_, sound.nested, sound.module, scopes, grown, top⟩
    have := sound.inside
    rw [size]
    exact Nat.lt_add_right _ this

theorem Sound.run (sound : b.Sound) (steps : List Step) :
    (steps.foldl ScopeBuilder.take b).Sound := by
  induction steps generalizing b with
  | nil => exact sound
  | cons step rest ih => exact ih (sound.take step)

/-! ## Where names are bound -/

theorem Sound.lt_of_mem (sound : b.Sound) {n : Nat} (member : n ∈ b.current :: b.outer) :
    n < b.table.scopes.size := by
  rcases List.mem_cons.mp member with rfl | member
  · exact sound.inside
  · exact ((List.pairwise_cons.mp sound.nested).1 n member).trans sound.inside

theorem withoutComprehensions_subset (t : ScopeTable) (n : Nat) (outer : List Nat) :
    (withoutComprehensions t n outer).1 :: (withoutComprehensions t n outer).2 ⊆ n :: outer := by
  induction outer generalizing n with
  | nil => exact List.Subset.refl _
  | cons next rest ih =>
    rw [withoutComprehensions]
    split
    · split
      · exact List.subset_cons_of_subset _ (ih next)
      · exact List.Subset.refl _
    · exact List.Subset.refl _

theorem Sound.module_lt (sound : b.Sound) : ScopeTable.moduleScope < b.table.scopes.size := by
  obtain ⟨s, found, -⟩ := sound.top
  exact (Array.getElem?_eq_some_iff.mp found).1

theorem Sound.target_lt (sound : b.Sound) (fixed : Bool) (name : String) :
    b.target fixed name < b.table.scopes.size := by
  rw [target]
  split
  · exact sound.inside
  · have inside : ∀ n ∈ (withoutComprehensions b.table b.current b.outer).1 ::
        (withoutComprehensions b.table b.current b.outer).2, n < b.table.scopes.size :=
      fun n member => sound.lt_of_mem (withoutComprehensions_subset _ _ _ member)
    rw [bindingScope]
    dsimp only
    split
    · exact inside _ List.mem_cons_self
    · split
      · exact sound.module_lt
      · split
        · cases around : functionBinding? b.table name
            (withoutComprehensions b.table b.current b.outer).2 with
          | none => exact inside _ List.mem_cons_self
          | some n => exact inside n (List.mem_cons_of_mem _ (List.mem_of_find?_eq_some around))
        · exact inside _ List.mem_cons_self

variable {name : String}

/-- A name that is bound stays bound. -/
theorem binds_change (bound : s.binds name = true) (step : Step) :
    (b.change k s step).binds name = true := by
  cases step with
  | bind fixed other binding =>
    simp only [change]
    split
    · obtain ⟨symbol, found⟩ := Scope.binds_iff.mp bound
      obtain ⟨symbol', found', -⟩ := (s.grows_bind other binding).bindings name symbol found
      exact Scope.binds_iff.mpr ⟨symbol', found'⟩
    · exact bound
  | declareGlobal | declareNonlocal | star =>
    simp only [change]
    split <;> exact bound
  | _ => exact bound

theorem binds_run (found : b.table.get? k = some s) (bound : s.binds name = true)
    (steps : List Step) :
    ∃ s', (steps.foldl take b).table.get? k = some s' ∧ s'.binds name = true := by
  induction steps generalizing b s with
  | nil => exact ⟨s, found, bound⟩
  | cons step rest ih => exact ih (get?_take_of_some found step) (binds_change bound step)

/-- A step that binds a name leaves a scope that binds it. -/
theorem Sound.binds_of_mem (sound : b.Sound) {steps : List Step} {step : Step}
    (member : step ∈ steps) (binds : step.boundName? = some name) :
    ∃ k s, (steps.foldl ScopeBuilder.take b).table.get? k = some s ∧ s.binds name = true := by
  obtain ⟨before, after, rfl⟩ := List.append_of_mem member
  rw [List.foldl_append, List.foldl_cons]
  have sound := sound.run before
  cases step with
  | bind fixed name binding =>
    cases binds
    have known := sound.target_lt fixed name
    have found : (before.foldl ScopeBuilder.take b).table.get? (target _ fixed name) = some _ :=
      Array.getElem?_eq_getElem known
    refine ⟨_, binds_run (get?_take_of_some found _) ?_ after⟩
    simp only [change, if_pos]
    exact Scope.binds_iff.mpr ⟨_, Scope.symbol?_bind_self ..⟩
  | _ => cases binds

/-! ## The symbols of one name -/

/-- The symbol of the name in the scope `k` is `symbols k`. -/
def SymbolsAre (name : String) (symbols : Nat → Option Symbol) (b : ScopeBuilder) : Prop :=
  ∀ k s, b.table.get? k = some s → s.symbol? name = symbols k

theorem SymbolsAre.take {symbols : Nat → Option Symbol} (before : b.SymbolsAre name symbols)
    (other : step.boundName? ≠ some name) (fresh : symbols b.table.scopes.size = none) :
    (b.take step).SymbolsAre name symbols := by
  intro k s found
  rcases of_get?_take found with ⟨old, known, rfl⟩ | ⟨rfl, opens⟩
  · rw [← before k old known]
    cases step with
    | bind fixed own binding =>
      simp only [change]
      split
      · refine Scope.symbol?_bind_other old binding fun same => other ?_
        rw [same]
        rfl
      · rfl
    | declareGlobal | declareNonlocal | star =>
      simp only [change]
      split <;> rfl
    | _ => rfl
  · rw [fresh]
    cases step with
    | enter =>
      cases opens
      rfl
    | _ => cases opens

/-- Steps that do not bind a name leave its symbols as they are; new scopes have none. -/
theorem SymbolsAre.run {symbols : Nat → Option Symbol} (before : b.SymbolsAre name symbols)
    {steps : List Step} (others : ∀ step ∈ steps, step.boundName? ≠ some name)
    (fresh : ∀ k, b.table.scopes.size ≤ k → symbols k = none) :
    (steps.foldl ScopeBuilder.take b).SymbolsAre name symbols := by
  induction steps generalizing b with
  | nil => exact before
  | cons step rest ih =>
    obtain ⟨first, others⟩ := List.forall_mem_cons.mp others
    refine ih (before.take first (fresh _ le_rfl)) others fun k beyond => fresh k ?_
    rw [size_take] at beyond
    omega

/-- The symbol, in the scope of the module, and none in other scopes. -/
def atModule (symbol : Symbol) (k : Nat) : Option Symbol :=
  if k = ScopeTable.moduleScope then some symbol else none

/-! ## Looking a name of the module up -/

section

variable {symbol : Symbol} {top : Scope}

theorem SymbolsAre.symbolIn?_eq (symbols : b.SymbolsAre name (atModule symbol))
    (module : b.table.get? ScopeTable.moduleScope = some top) :
    b.table.symbolIn? ScopeTable.moduleScope name =
      some { scope := ScopeTable.moduleScope, name } :=
  ScopeTable.symbolIn?_eq_some module (Scope.binds_iff.mpr ⟨symbol, symbols _ top module⟩)

theorem SymbolsAre.binds_inner (symbols : b.SymbolsAre name (atModule symbol))
    (found : b.table.get? k = some s) (inner : k ≠ ScopeTable.moduleScope) :
    s.binds name = false := by
  rw [Scope.binds, symbols k s found, atModule, if_neg inner]
  rfl

/-- Looking outwards passes the scopes on the way by, and ends in the module at the latest. -/
theorem Sound.lookupOuter_eq (sound : b.Sound) (symbols : b.SymbolsAre name (atModule symbol))
    (module : b.table.get? ScopeTable.moduleScope = some top) (own : name ∉ top.nonlocals)
    {outer : List Nat} (known : ∀ j ∈ outer, j < b.table.scopes.size)
    (last : outer.getLast? = some ScopeTable.moduleScope) :
    b.table.lookupOuter name outer = some { scope := ScopeTable.moduleScope, name } := by
  induction outer with
  | nil => cases last
  | cons j rest ih =>
    obtain ⟨inside, known⟩ := List.forall_mem_cons.mp known
    obtain ⟨s, found⟩ : ∃ s, b.table.get? j = some s := ⟨_, Array.getElem?_eq_getElem inside⟩
    -- A function that declares the name global ends the search early, but in the same scope.
    by_cases shared : s.kind ≠ .classBody ∧ name ∈ s.globals
    · rw [ScopeTable.lookupOuter, found]
      simp only
      rw [if_neg shared.1, if_pos (by simpa using shared.2), symbols.symbolIn?_eq module]
    · by_cases inner : j = ScopeTable.moduleScope
      · subst inner
        cases module.symm.trans found
        have nested : top.kind ≠ .classBody := by
          obtain ⟨s, found, kind⟩ := sound.top
          cases module.symm.trans found
          simp [kind]
        exact ScopeTable.lookupOuter_of_stopsAt ⟨top, found, nested,
          fun member => shared ⟨nested, member⟩,
          Scope.binds_iff.mpr ⟨symbol, symbols _ top module⟩, own⟩ rest
      · have passes : b.table.PassesBy name j := by
          refine ⟨s, found, ?_⟩
          by_cases classBody : s.kind = .classBody
          · exact .inl classBody
          · exact .inr ⟨fun member => shared ⟨classBody, member⟩,
              fun binds => absurd binds (by simp [symbols.binds_inner found inner])⟩
        rw [ScopeTable.lookupOuter_of_passesBy passes]
        cases rest with
        | nil => exact absurd (Option.some.inj last) inner
        | cons => exact ih known (List.getLast?_cons_cons.symm.trans last)

/-- A name that only the module binds is found there from every scope, unless the module declares
it to be that of a function around. -/
theorem Sound.lookup_eq (sound : b.Sound) (symbols : b.SymbolsAre name (atModule symbol))
    (module : b.table.get? ScopeTable.moduleScope = some top) (own : name ∉ top.nonlocals)
    (inside : k < b.table.scopes.size) :
    b.table.lookup k name = some { scope := ScopeTable.moduleScope, name } := by
  obtain ⟨s, found⟩ : ∃ s, b.table.get? k = some s := ⟨_, Array.getElem?_eq_getElem inside⟩
  by_cases shared : name ∈ s.globals
  · rw [ScopeTable.lookup_of_global found shared, symbols.symbolIn?_eq module]
  · by_cases inner : k = ScopeTable.moduleScope
    · subst inner
      cases module.symm.trans found
      exact ScopeTable.lookup_of_own found shared own
        (Scope.binds_iff.mpr ⟨symbol, symbols _ top module⟩)
    · obtain ⟨nested, last⟩ := sound.scopes k s found
      rw [ScopeTable.lookup, found]
      simp only
      rw [if_neg (by simpa using shared), if_neg (by simp [symbols.binds_inner found inner])]
      refine sound.lookupOuter_eq symbols module own (fun j member => ?_) ?_
      · exact ((List.pairwise_cons.mp nested).1 j member).trans inside
      · cases around : s.outer with
        | nil =>
          rw [around] at last
          exact absurd (Option.some.inj last) inner
        | cons j rest =>
          rw [around] at last
          exact List.getLast?_cons_cons.symm.trans last

end

/-! ## Two readings in step -/

/-- The readings are in the same scope, with the same places and the same names declared to be
those of functions around. -/
structure InStep (b b' : ScopeBuilder) : Prop where
  current : b'.current = b.current
  outer : b'.outer = b.outer
  places : b'.table.places = b.table.places
  size : b'.table.scopes.size = b.table.scopes.size
  nonlocals : ∀ k, (b'.table.get? k).map Scope.nonlocals = (b.table.get? k).map Scope.nonlocals

end ScopeBuilder

namespace Step

/-- The step binds a name or notes a module; it leaves all places and declarations as they are. -/
def isQuiet : Step → Bool
  | bind .. => true
  | star _ => true
  | _ => false

/-- The steps are the same, or both quiet. -/
def SameWay (step step' : Step) : Prop :=
  step' = step ∨ step.isQuiet = true ∧ step'.isQuiet = true

/-- The steps differ at most in how they bind a name. -/
structure Alike (step step' : Step) : Prop where
  way : step.SameWay step'
  name : step'.boundName? = step.boundName?
  star : step'.star? = step.star?

theorem Alike.refl (step : Step) : step.Alike step := ⟨.inl rfl, rfl, rfl⟩

end Step

namespace ScopeBuilder

variable {b b' : ScopeBuilder}

theorem nonlocals_change (b : ScopeBuilder) (k : Nat) (s : Scope) (step : Step) :
    (b.change k s step).nonlocals =
      s.nonlocals ++ if b.current = k then step.nonlocals else [] := by
  cases step with
  | declareNonlocal names =>
    simp only [change]
    split <;> simp [Step.nonlocals]
  | bind | declareGlobal | star =>
    simp only [change]
    split <;> simp [Step.nonlocals, Scope.bind]
  | _ => simp [change, Step.nonlocals]

theorem stars_change (b : ScopeBuilder) (k : Nat) (s : Scope) (step : Step) :
    (b.change k s step).stars = s.stars ++ if b.current = k then step.star?.toList else [] := by
  cases step with
  | star names =>
    simp only [change]
    split <;> simp [Step.star?]
  | bind | declareGlobal | declareNonlocal =>
    simp only [change]
    split <;> simp [Step.star?, Scope.bind]
  | _ => simp [change, Step.star?]

/-- A quiet step only changes scopes that are known. -/
theorem quiet_take {step : Step} (quiet : step.isQuiet = true) (b : ScopeBuilder) :
    (b.take step).current = b.current ∧ (b.take step).outer = b.outer ∧
      (b.take step).table.places = b.table.places ∧ b.opened? step = none ∧
      step.nonlocals = [] := by
  cases step with
  | bind | star => exact ⟨rfl, rfl, rfl, rfl, rfl⟩
  | _ => cases quiet

theorem InStep.way_take (same : b.InStep b') {step step' : Step} (alike : step.SameWay step') :
    (b'.take step').current = (b.take step).current ∧
      (b'.take step').outer = (b.take step).outer ∧
      (b'.take step').table.places = (b.take step).table.places := by
  rcases alike with rfl | ⟨first, second⟩
  · cases step' with
    | place => exact ⟨same.current, same.outer, by simp [take, same.places, same.current]⟩
    | enter => exact ⟨same.size, by simp [take, same.current, same.outer], same.places⟩
    | leave =>
      cases around : b.outer <;>
        simp [take, same.outer, around, same.current, same.places]
    | _ => exact ⟨same.current, same.outer, same.places⟩
  · obtain ⟨current, outer, places, -⟩ := quiet_take first b
    obtain ⟨current', outer', places', -⟩ := quiet_take second b'
    exact ⟨current'.trans (same.current.trans current.symm),
      outer'.trans (same.outer.trans outer.symm), places'.trans (same.places.trans places.symm)⟩

theorem InStep.opened?_eq (same : b.InStep b') {step step' : Step} (alike : step.SameWay step') :
    b'.opened? step' = b.opened? step ∧ step'.nonlocals = step.nonlocals := by
  rcases alike with rfl | ⟨first, second⟩
  · refine ⟨?_, rfl⟩
    cases step' with
    | enter => rw [opened?, same.current, same.outer, opened?]
    | _ => rfl
  · obtain ⟨-, -, -, closed, undeclared⟩ := quiet_take first b
    obtain ⟨-, -, -, closed', undeclared'⟩ := quiet_take second b'
    exact ⟨closed'.trans closed.symm, undeclared'.trans undeclared.symm⟩

theorem InStep.take (same : b.InStep b') {step step' : Step} (alike : step.SameWay step') :
    (b.take step).InStep (b'.take step') := by
  obtain ⟨current, outer, places⟩ := same.way_take alike
  obtain ⟨opened, declared⟩ := same.opened?_eq alike
  refine ⟨current, outer, places, by rw [size_take, size_take, opened, same.size], fun k => ?_⟩
  have before := same.nonlocals k
  cases found : b.table.get? k with
  | some s =>
    rw [found, Option.map_some] at before
    obtain ⟨s', found', names⟩ := Option.map_eq_some_iff.mp before
    rw [get?_take_of_some found, get?_take_of_some found', Option.map_some, Option.map_some,
      nonlocals_change, nonlocals_change, names, declared, same.current]
  | none =>
    rw [found, Option.map_none, Option.map_eq_none_iff] at before
    rw [get?_take_of_none found, get?_take_of_none before, opened, same.size]

/-- Steps that are alike keep two readings in step. -/
theorem InStep.run (same : b.InStep b') {steps steps' : List Step}
    (alike : steps.Forall₂ Step.Alike steps') :
    (steps.foldl ScopeBuilder.take b).InStep (steps'.foldl ScopeBuilder.take b') := by
  induction alike generalizing b b' with
  | nil => exact same
  | cons first _ ih => exact ih (same.take first.way)

/-- Steps that note no module leave a scope with those it has. -/
theorem stars_run {k : Nat} {s : Scope} (found : b.table.get? k = some s) {steps : List Step}
    (none : ∀ step ∈ steps, step.star? = none) :
    ∃ s', (steps.foldl take b).table.get? k = some s' ∧ s'.stars = s.stars := by
  induction steps generalizing b s with
  | nil => exact ⟨s, found, rfl⟩
  | cons step rest ih =>
    obtain ⟨first, none⟩ := List.forall_mem_cons.mp none
    obtain ⟨s', found', same⟩ := ih (get?_take_of_some found step) none
    refine ⟨s', found', same.trans ?_⟩
    rw [stars_change, first]
    simp

/-- In the scope of the module, names are bound there. -/
theorem Sound.target_atModule (sound : b.Sound) (here : b.current = ScopeTable.moduleScope)
    (fixed : Bool) (name : String) : b.target fixed name = ScopeTable.moduleScope := by
  have outermost : b.outer = [] := by
    refine List.eq_nil_iff_forall_not_mem.mpr fun k member => ?_
    have younger := (List.pairwise_cons.mp sound.nested).1 k member
    rw [here] at younger
    exact Nat.not_lt_zero k younger
  rw [target, bindingScope, here, outermost]
  simp only [withoutComprehensions, functionBinding?, List.find?_nil, Option.getD_none]
  split
  · rfl
  · split
    · rfl
    · split
      · rfl
      · split <;> rfl

end ScopeBuilder

/-! ## Bindings behind a look-up -/

namespace ScopeTable

variable {t : ScopeTable} {name : String} {ref : SymbolRef}

/-- The reference is to a scope that binds the name. -/
def IsBound (t : ScopeTable) (name : String) (ref : SymbolRef) : Prop :=
  ref.name = name ∧ ∃ s, t.get? ref.scope = some s ∧ s.binds name = true

theorem isBound_of_symbolIn? {n : Nat} (found : t.symbolIn? n name = some ref) :
    t.IsBound name ref := by
  rw [symbolIn?] at found
  split at found
  · rename_i s known
    split at found
    · cases found
      exact ⟨rfl, s, known, ‹_›⟩
    · cases found
  · cases found

theorem isBound_of_lookupOuter {outer : List Nat} (found : t.lookupOuter name outer = some ref) :
    t.IsBound name ref := by
  induction outer with
  | nil => cases found
  | cons n rest ih =>
    rw [lookupOuter] at found
    split at found
    · cases found
    · rename_i s known
      split at found
      · exact ih found
      · split at found
        · exact isBound_of_symbolIn? found
        · split at found
          · rename_i bound
            cases found
            exact ⟨rfl, s, known, (Bool.and_eq_true_iff.mp bound).1⟩
          · exact ih found

theorem isBound_of_symbolFor? {node : Nat} (found : t.symbolFor? node name = some ref) :
    t.IsBound name ref := by
  obtain ⟨n, -, found⟩ := Option.bind_eq_some_iff.mp found
  rw [lookup] at found
  split at found
  · cases found
  · rename_i s known
    split at found
    · exact isBound_of_symbolIn? found
    · split at found
      · rename_i bound
        cases found
        exact ⟨rfl, s, known, (Bool.and_eq_true_iff.mp bound).2⟩
      · exact isBound_of_lookupOuter found

end ScopeTable

end Catalog
