import Catalog.Proofs.Resolve.Constants
import Catalog.Proofs.Resolve.Transparency

/-!
# Imported constants and their values at home

A constant that is imported from a module should have the value that it has there. The import is
kept as a dotted name, and the name is cut again where the constant is looked up. If no module has
the whole name, the cut is behind the module, and the constant is found where it was imported from,
or where the module itself imports it from. Both ways need the same values, so the value is the
same, and so is having none. A module with the whole name comes first, and hides the constant.
-/

namespace Catalog.Resolve

open Syntax

namespace Modules

variable {M : Modules} {s t : Term}

/-! ## Terms with the same value -/

/-- Something that the term depends on cannot be found out. -/
def Obscure (M : Modules) (s : Term) : Prop :=
  ∃ t cause, Relation.ReflTransGen M.Needs s t ∧ M.Faults t cause

/-- The terms have the same derivations, and neither has a fault that the other has not. -/
structure Alike (M : Modules) (s t : Term) : Prop where
  evaluates : ∀ value, M.Evaluates s value ↔ M.Evaluates t value
  obscure : M.Obscure s ↔ M.Obscure t

theorem Evaluates.of_refers {value : String} (refers : M.Refers s t)
    (evaluates : M.Evaluates s value) : M.Evaluates t value := by
  cases evaluates with
  | text => exact absurd refers (not_refers_of_isOwn (.literal ..))
  | sum => exact absurd refers (not_refers_of_isOwn (.sum ..))
  | refers other there =>
    cases refers.unique other
    exact there

/-- A term is like the one that it refers to. -/
theorem Refers.alike (refers : M.Refers s t) : M.Alike s t := by
  refine ⟨fun value => ⟨.of_refers refers, .refers refers⟩, ?_, ?_⟩
  · rintro ⟨x, cause, needs, faults⟩
    rcases needs.cases_head with rfl | ⟨y, first, rest⟩
    · exact absurd faults refers.not_faults
    · cases refers.eq_of_needs first
      exact ⟨x, cause, rest, faults⟩
  · rintro ⟨x, cause, needs, faults⟩
    exact ⟨x, cause, needs.head (.refers refers), faults⟩

section

variable {u v : SourceUnit} {ref ref' : SymbolRef} {b b' : Binding} {p q : String}

theorem refers_imported_iff (only : definite? u ref = some b) (form : b.form = .imported p) :
    M.Refers (.symbol u ref) t ↔
      ∃ owner found, M.Finds p owner found ∧ t = .symbol owner found := by
  constructor
  · intro refers
    cases refers with
    | assigned only' form' => cases form_unique only form only' form'
    | imported only' form' finds =>
      cases form_unique only form only' form'
      exact ⟨_, _, finds, rfl⟩
  · rintro ⟨owner, found, finds, rfl⟩
    exact .imported only form finds

theorem faults_imported_iff (only : definite? u ref = some b) (form : b.form = .imported p)
    {cause : Fault} :
    M.Faults (.symbol u ref) cause ↔ (lookupSymbol M.units p).answer M.known = .error cause := by
  constructor
  · intro faults
    cases faults with
    | imported only' form' failed =>
      cases form_unique only form only' form'
      exact failed
  · exact .imported only form

/-- Imports of names that are looked up alike are alike. -/
theorem alike_of_lookup (only : definite? u ref = some b) (form : b.form = .imported p)
    (only' : definite? v ref' = some b') (form' : b'.form = .imported q)
    (same : (lookupSymbol M.units p).answer M.known = (lookupSymbol M.units q).answer M.known) :
    M.Alike (.symbol u ref) (.symbol v ref') := by
  have refers (t : Term) : M.Refers (.symbol u ref) t ↔ M.Refers (.symbol v ref') t := by
    rw [refers_imported_iff only form, refers_imported_iff only' form']
    simp only [Finds, same]
  have faults (cause : Fault) :
      M.Faults (.symbol u ref) cause ↔ M.Faults (.symbol v ref') cause := by
    rw [faults_imported_iff only form, faults_imported_iff only' form', same]
  have evaluates {a b : Term} (leads : ∀ t, M.Refers a t → M.Refers b t) {value : String}
      (own : ¬ IsOwn a) (given : M.Evaluates a value) : M.Evaluates b value := by
    cases given with
    | text => exact absurd (.literal ..) own
    | sum => exact absurd (.sum ..) own
    | refers first there => exact .refers (leads _ first) there
  have obscure {a b : Term} (leads : ∀ t, M.Refers a t → M.Refers b t)
      (fails : ∀ cause, M.Faults a cause → M.Faults b cause) (own : ¬ IsOwn a)
      (given : M.Obscure a) : M.Obscure b := by
    obtain ⟨x, cause, needs, fault⟩ := given
    rcases needs.cases_head with rfl | ⟨y, first, rest⟩
    · exact ⟨b, cause, .refl, fails cause fault⟩
    · cases first with
      | left | right => exact absurd (.sum ..) own
      | refers first => exact ⟨x, cause, rest.head (.refers (leads _ first)), fault⟩
  have symbol (u : SourceUnit) (ref : SymbolRef) : ¬ IsOwn (.symbol u ref) := nofun
  exact ⟨fun value => ⟨evaluates (fun t => (refers t).mp) (symbol _ _),
      evaluates (fun t => (refers t).mpr) (symbol _ _)⟩,
    obscure (fun t => (refers t).mp) (fun c => (faults c).mp) (symbol _ _),
    obscure (fun t => (refers t).mpr) (fun c => (faults c).mpr) (symbol _ _)⟩

end

variable {fuel fuel' : Nat}

/-- An evaluation that is not too deep fails exactly if something cannot be found out. -/
theorem obscure_iff (distinct : M.Distinct) (deep : fuel ≤ maxNesting) (has : M.Has s.unit)
    (shallow : (s.value M.units fuel []).answer M.known ≠ .error .tooDeep) :
    M.Obscure s ↔ ∃ cause, (s.value M.units fuel []).answer M.known = .error cause := by
  constructor
  · rintro ⟨t, cause, needs, faults⟩
    cases given : (s.value M.units fuel []).answer M.known with
    | error cause => exact ⟨cause, rfl⟩
    | ok result =>
      exact absurd faults (not_faults_of_ok distinct deep has s.isNew_nil given
        (visits_of_needs has needs) cause)
  · rintro ⟨cause, failed⟩
    obtain ⟨t, needs, faults⟩ := faults_of_error deep failed
      fun same => shallow (failed.trans (congrArg _ same))
    exact ⟨t, cause, needs, faults⟩

/-- Terms that are alike have the same value, or none, or fail both. -/
theorem Alike.value (alike : M.Alike s t) (distinct : M.Distinct) (deep : fuel ≤ maxNesting)
    (deep' : fuel' ≤ maxNesting) (has : M.Has s.unit) (has' : M.Has t.unit)
    (shallow : (s.value M.units fuel []).answer M.known ≠ .error .tooDeep)
    (shallow' : (t.value M.units fuel' []).answer M.known ≠ .error .tooDeep) :
    (∀ result, (t.value M.units fuel' []).answer M.known = .ok result →
      (s.value M.units fuel []).answer M.known = .ok result) ∧
    ((∃ cause, (t.value M.units fuel' []).answer M.known = .error cause) →
      ∃ cause, (s.value M.units fuel []).answer M.known = .error cause) := by
  have fails : (∃ cause, (s.value M.units fuel []).answer M.known = .error cause) ↔
      ∃ cause, (t.value M.units fuel' []).answer M.known = .error cause := by
    rw [← obscure_iff distinct deep has shallow, ← obscure_iff distinct deep' has' shallow',
      alike.obscure]
  refine ⟨fun result given => ?_, fails.mpr⟩
  cases outcome : (s.value M.units fuel []).answer M.known with
  | error cause =>
    obtain ⟨cause', failed⟩ := fails.mp ⟨cause, outcome⟩
    cases given.symm.trans failed
  | ok own =>
    cases result with
    | some value =>
      have evaluates := (alike.evaluates value).mpr (evaluates_of_value deep' given)
      have same := value_of_evaluates distinct evaluates deep has (fun t _ => t.isNew_nil) rfl
        shallow
      exact outcome.symm.trans same
    | none =>
      cases own with
      | none => rfl
      | some value =>
        have evaluates := (alike.evaluates value).mp (evaluates_of_value deep outcome)
        have same := value_of_evaluates distinct evaluates deep' has' (fun t _ => t.isNew_nil) rfl
          shallow'
        cases given.symm.trans same

/-- The evaluation of a symbol that cannot be found out fails for that cause. -/
theorem error_of_faults {u : SourceUnit} {ref : SymbolRef} {cause : Fault}
    (faults : M.Faults (.symbol u ref) cause) (deep : fuel ≤ maxNesting)
    (shallow : ((Term.symbol u ref).value M.units fuel []).answer M.known ≠ .error .tooDeep) :
    ((Term.symbol u ref).value M.units fuel []).answer M.known = .error cause := by
  cases outcome : ((Term.symbol u ref).value M.units fuel []).answer M.known with
  | ok result =>
    have has : ¬ M.Faults (.symbol u ref) cause := by
      cases course deep outcome nofun with
      | met again => cases again
      | refers _ _ refers => exact refers.not_faults
      | blank _ blank => exact blank.faults cause
    exact absurd faults has
  | error other =>
    cases course deep outcome fun same => shallow (outcome.trans same) with
    | refers _ _ refers => exact absurd faults refers.not_faults
    | faults _ faults' =>
      cases faults with
      | imported only form failed =>
        exact congrArg Except.error (Except.error.inj
          (((faults_imported_iff only form).mp faults').symm.trans failed))

/-! ## Where an imported constant is looked up -/

variable {u home : SourceUnit} {b : Binding} {m n t : String}

theorem symbolIn?_of_topSymbol? {symbol : Symbol} (bound : home.topSymbol? n = some symbol) :
    home.scopes.symbolIn? ScopeTable.moduleScope n = some (atTop n) := by
  rw [SourceUnit.topSymbol?, SourceUnit.topScope] at bound
  rw [ScopeTable.symbolIn?]
  cases top : home.scopes.get? ScopeTable.moduleScope with
  | none =>
    rw [top] at bound
    cases bound
  | some scope =>
    rw [top] at bound
    have binds : scope.binds n = true := Option.isSome_iff_exists.mpr ⟨symbol, bound⟩
    simp [binds, atTop]

/-- A member of a module that stands for itself is found in the module. -/
theorem finds_member (plain : Dotted.IsPlain n) (found : indexed? M.units m = some home)
    (free : indexed? M.units (m ++ "." ++ n) = none) (only : definite? home (atTop n) = some b)
    (stays : (canonical M.units (m ++ "." ++ n)).answer M.known = .ok (m ++ "." ++ n)) :
    M.Finds (m ++ "." ++ n) home (atTop n) := by
  have split : M.Splits (m ++ "." ++ n) home [n] := splits_member plain found free
  rw [definite?_atTop] at only
  obtain ⟨symbol, bound, -⟩ := Option.bind_eq_some_iff.mp only
  refine (Query.answer_bind_eq_ok _).mpr ⟨_, stays, (Query.answer_bind_eq_ok _).mpr
    ⟨some (home, [n]), split, ?_⟩⟩
  simp [descend?, symbolIn?_of_topSymbol? bound]

/-- A module is no constant. -/
theorem lookupSymbol_of_indexed? {q : String} (found : indexed? M.units q = some u) :
    (lookupSymbol M.units q).answer M.known = .ok none := by
  obtain ⟨shorter, cut⟩ := cuts_eq_cons q
  have split : M.Splits q u [] := splits_iff.mpr (.inl ⟨[], q, shorter, cut, found, by simp⟩)
  exact (Query.answer_bind_eq_ok _).mpr ⟨q, canonical_of_final (final_of_indexed? found),
    (Query.answer_bind_eq_ok _).mpr ⟨some (u, []), split, rfl⟩⟩

/-! ## Faults on the way -/

/-- The loop fails where a path leads to a name whose redirect cannot be found out. -/
theorem canonicalFrom_eq_error {limit : Nat} {seen : List String} {p : String} {cause : Fault}
    (failed : (canonicalFrom M.units limit seen p).answer M.known = .error cause)
    (ending : cause ≠ .endless) :
    ∃ passed r, M.Path p passed r ∧ passed.Nodup ∧ (∀ q ∈ passed, q ∉ seen) ∧
      (redirect? M.units r).answer M.known = .error cause := by
  induction limit generalizing seen p with
  | zero =>
    cases failed
    exact absurd rfl ending
  | succ limit ih =>
    by_cases old : p ∈ seen
    · rw [canonicalFrom_of_mem M.units limit old] at failed
      cases failed
    · rw [canonicalFrom_succ M.units limit old, Query.answer_bind] at failed
      cases asked : (redirect? M.units p).answer M.known with
      | error own =>
        rw [asked] at failed
        cases failed
        exact ⟨[], p, .here p, List.nodup_nil, by simp, asked⟩
      | ok found =>
        rw [asked] at failed
        cases found with
        | none => cases failed
        | some next =>
          obtain ⟨passed, r, path, distinct, new, fault⟩ := ih failed
          refine ⟨p :: passed, r, .step asked path, ?_, ?_, fault⟩
          · exact List.nodup_cons.mpr ⟨fun member => new p member List.mem_cons_self, distinct⟩
          · refine List.forall_mem_cons.mpr ⟨old, fun q member inside => ?_⟩
            exact new q member (List.mem_cons_of_mem p inside)

/-- A fault at the end of a path is the fault of following it, unless that has no end. -/
theorem canonical_of_fault {p r : String} {passed : List String} {cause : Fault}
    (path : M.Path p passed r) (distinct : passed.Nodup)
    (fault : (redirect? M.units r).answer M.known = .error cause)
    (ending : (canonical M.units p).answer M.known ≠ .error .endless) :
    (canonical M.units p).answer M.known = .error cause := by
  by_cases short : passed.length < maxRedirects
  · obtain ⟨left, limit⟩ : ∃ left, maxRedirects = left + 1 + passed.length :=
      ⟨maxRedirects - passed.length - 1, by omega⟩
    have new : r ∉ passed.reverse ++ [] := by
      intro member
      obtain ⟨_, _, _, _, rest⟩ := path.split (by simpa using member)
      cases rest with
      | step first => cases fault.symm.trans first
    rw [canonical, limit, answer_canonicalFrom_of_path path distinct (by simp),
      canonicalFrom_succ M.units left new, Query.answer_bind, fault]
    rfl
  · exact absurd (answer_canonicalFrom_of_long path distinct (by simp) (Nat.le_of_not_lt short))
      ending

/-- No circle goes out from a path to a name without a step. -/
theorem Path.not_circle {p r : String} {passed : List String} (path : M.Path p passed r)
    (stuck : ∀ next, ¬ M.Step r next) : ¬ Relation.TransGen M.Step p p := by
  induction path with
  | here =>
    intro circle
    obtain ⟨next, first, -⟩ := Relation.TransGen.head'_iff.mp circle
    exact stuck next first
  | step first _ ih =>
    intro circle
    obtain ⟨next, first', back⟩ := Relation.TransGen.head'_iff.mp circle
    cases first.unique first'
    exact ih stuck (.tail' back first)

/-- What a module imports and hands on is looked up like the target of its import. -/
theorem lookupSymbol_of_step {p : String} (step : M.Step p t) (away : ¬ M.Leads t p)
    (ending : (lookupSymbol M.units p).answer M.known ≠ .error .endless)
    (ending' : (lookupSymbol M.units t).answer M.known ≠ .error .endless) :
    (lookupSymbol M.units p).answer M.known = (lookupSymbol M.units t).answer M.known := by
  have ends {q : String} (looked : (lookupSymbol M.units q).answer M.known ≠ .error .endless) :
      (canonical M.units q).answer M.known ≠ .error .endless :=
    fun failed => looked (lookupSymbol_of_error failed)
  cases ended : (canonical M.units t).answer M.known with
  | ok r =>
    have whole := canonical_of_step step away ended (ends ending)
    rw [← lookupSymbol_of_canonical whole, ← lookupSymbol_of_canonical ended]
  | error cause =>
    obtain ⟨passed, r, path, distinct, -, fault⟩ := canonicalFrom_eq_error ended
      fun same => ends ending' (ended.trans (congrArg _ same))
    have new : p ∉ passed := by
      intro member
      obtain ⟨before, _, _, back, _⟩ := path.split member
      exact away (leads_iff.mpr ⟨before, back⟩)
    have whole := canonical_of_fault (.step step path) (List.nodup_cons.mpr ⟨new, distinct⟩) fault
      (ends ending)
    rw [lookupSymbol_of_error whole, lookupSymbol_of_error ended]

/-- An import from a module of the repository is like what the module binds under the name, if no
module has the whole name. -/
theorem alike_home {ref : SymbolRef} {b' : Binding} (plain : Dotted.IsPlain n)
    (found : indexed? M.units m = some home) (free : indexed? M.units (m ++ "." ++ n) = none)
    (atHome : definite? home (atTop n) = some b) (only : definite? u ref = some b')
    (form : b'.form = .imported (m ++ "." ++ n))
    (ending : ¬ M.Faults (.symbol u ref) .endless)
    (ending' : ¬ M.Faults (.symbol home (atTop n)) .endless) :
    M.Alike (.symbol u ref) (.symbol home (atTop n)) := by
  have split : M.Splits (m ++ "." ++ n) home [n] := splits_member plain found free
  have stays (same : (canonical M.units (m ++ "." ++ n)).answer M.known = .ok (m ++ "." ++ n)) :
      M.Alike (.symbol u ref) (.symbol home (atTop n)) :=
    Refers.alike (.imported only form (finds_member plain found free atHome same))
  by_cases imports : ∃ t, b.form = .imported t
  · obtain ⟨t, form'⟩ := imports
    have step := step_of_import split atHome form'
    rw [faults_imported_iff only form] at ending
    rw [faults_imported_iff atHome form'] at ending'
    by_cases back : M.Leads t (m ++ "." ++ n)
    · cases ended : (canonical M.units t).answer M.known with
      | ok r => exact stays (canonical_of_circle step back ended)
      | error cause =>
        -- a fault would end the circle
        obtain ⟨_, r, path, -, -, fault⟩ := canonicalFrom_eq_error ended
          fun same => ending' (lookupSymbol_of_error (ended.trans (congrArg _ same)))
        exact absurd (.tail' back step)
          (path.not_circle fun next first => by cases fault.symm.trans first)
    · exact alike_of_lookup only form atHome form' (lookupSymbol_of_step step back ending ending')
  · exact stays (canonical_of_final (final_of_not_import split atHome fun t form' =>
      imports ⟨t, form'⟩))

/-- Where no module has the whole name, an import has the outcome that its name has at home. -/
theorem value_of_import {ref : SymbolRef} {b' : Binding} (distinct : M.Distinct) (has : M.Has u)
    (plain : Dotted.IsPlain n) (found : indexed? M.units m = some home)
    (free : indexed? M.units (m ++ "." ++ n) = none)
    (atHome : definite? home (atTop n) = some b) (only : definite? u ref = some b')
    (form : b'.form = .imported (m ++ "." ++ n)) (deep : fuel ≤ maxNesting)
    (deep' : fuel' ≤ maxNesting)
    (shallow : ((Term.symbol u ref).value M.units fuel []).answer M.known ≠ .error .tooDeep)
    (ending : ((Term.symbol u ref).value M.units fuel []).answer M.known ≠ .error .endless)
    (shallow' : ((Term.symbol home (atTop n)).value M.units fuel' []).answer M.known ≠
      .error .tooDeep)
    (ending' : ((Term.symbol home (atTop n)).value M.units fuel' []).answer M.known ≠
      .error .endless) :
    (∀ result, ((Term.symbol home (atTop n)).value M.units fuel' []).answer M.known = .ok result →
      ((Term.symbol u ref).value M.units fuel []).answer M.known = .ok result) ∧
    ((∃ cause,
      ((Term.symbol home (atTop n)).value M.units fuel' []).answer M.known = .error cause) →
      ∃ cause, ((Term.symbol u ref).value M.units fuel []).answer M.known = .error cause) := by
  have alike : M.Alike (.symbol u ref) (.symbol home (atTop n)) :=
    alike_home plain found free atHome only form
      (fun faults => ending (error_of_faults faults deep shallow))
      (fun faults => ending' (error_of_faults faults deep' shallow'))
  exact alike.value distinct deep deep' has (has_of_indexed? found) shallow shallow'

/-- Where a module has the whole name, an import has no value. -/
theorem value_of_hidden {ref : SymbolRef} {b' : Binding} {hidden : SourceUnit}
    (module : indexed? M.units (m ++ "." ++ n) = some hidden) (only : definite? u ref = some b')
    (form : b'.form = .imported (m ++ "." ++ n)) (deep : fuel ≤ maxNesting)
    (shallow : ((Term.symbol u ref).value M.units fuel []).answer M.known ≠ .error .tooDeep) :
    ((Term.symbol u ref).value M.units fuel []).answer M.known = .ok none := by
  have missing := lookupSymbol_of_indexed? (M := M) module
  have alone (t : Term) : ¬ M.Refers (.symbol u ref) t := by
    rw [refers_imported_iff only form]
    rintro ⟨owner, found, finds, -⟩
    cases missing.symm.trans finds
  cases outcome : ((Term.symbol u ref).value M.units fuel []).answer M.known with
  | ok result =>
    cases course deep outcome nofun with
    | met | blank => rfl
    | refers _ _ refers => exact absurd refers (alone _)
  | error cause =>
    cases course deep outcome fun same => shallow (outcome.trans same) with
    | refers _ _ refers => exact absurd refers (alone _)
    | faults _ faults => cases missing.symm.trans ((faults_imported_iff only form).mp faults)

end Modules

/-- The text of a field that is a bound name is the value of the symbol. -/
theorem fieldText_name {units : List SourceUnit} {u : SourceUnit} {info : Info} {id : String}
    {context : Context} {ref : SymbolRef} (place : u.symbolFor? info.id id = some ref) :
    fieldText units u (.name info id context) =
      (do return (← constantValue units 959 [] u ref).getD "") := by
  rw [fieldText, maxNesting, referenceValue]
  simp only [place]

open Modules in
/-- A name is bound by an import of `n` from the module `m` only, and `n` has a definite binding in
`m`. Then a field that is this name has the value of `n` in `m` as its text, the empty text for
none, exactly if no module is called `m.n` or the value is empty. If there is such a module, the
text is empty whatever the value is. -/
theorem imported_value_iff (tree : FileTree) (sources : SourceSet) (reached : sources.Reached tree)
    {u home : SourceUnit} {m n : String} {func : Node} {b : Binding}
    (has : (ofSources tree sources).Has u) (segment : Dotted.IsSegment n)
    (imports : NamesImport u func (m ++ "." ++ n))
    (found : indexed? sources.units m = some home) (bound : definite? home (atTop n) = some b)
    (shallow : (SourceSet.run tree (fieldText sources.units u func) sources).1 ≠ .error .tooDeep)
    (ending : (SourceSet.run tree (fieldText sources.units u func) sources).1 ≠ .error .endless)
    (shallow' : (SourceSet.run tree (symbolValue sources.units home (atTop n)) sources).1 ≠
      .error .tooDeep)
    (ending' : (SourceSet.run tree (symbolValue sources.units home (atTop n)) sources).1 ≠
      .error .endless) :
    (∀ value,
      (SourceSet.run tree (symbolValue sources.units home (atTop n)) sources).1 = .ok value →
      ((SourceSet.run tree (fieldText sources.units u func) sources).1 = .ok (value.getD "") ↔
        indexed? sources.units (m ++ "." ++ n) = none ∨ value.getD "" = "")) ∧
    (indexed? sources.units (m ++ "." ++ n) ≠ none →
      (SourceSet.run tree (fieldText sources.units u func) sources).1 = .ok "") ∧
    ∀ cause,
      (SourceSet.run tree (symbolValue sources.units home (atTop n)) sources).1 = .error cause →
      indexed? sources.units (m ++ "." ++ n) = none →
      ∃ cause', (SourceSet.run tree (fieldText sources.units u func) sources).1 =
        .error cause' := by
  obtain ⟨info, id, context, ref, b', rfl, place, only, form⟩ := imports
  -- the field has the outcome of the symbol, with the empty text for none
  have text {outcome : Except Fault (Option String)}
      (given : ((Term.symbol u ref).value sources.units 959 []).answer (sources.answers tree) =
        outcome) :
      (SourceSet.run tree (fieldText sources.units u (.name info id context)) sources).1 =
        outcome.map (·.getD "") := by
    rw [SourceSet.run_fst, fieldText_name place, Query.answer_bind, ← given, Term.value]
    cases (constantValue sources.units 959 [] u ref).answer (sources.answers tree) <;> rfl
  have shallowU : ((Term.symbol u ref).value sources.units 959 []).answer (sources.answers tree) ≠
      .error .tooDeep := fun failed => shallow (text failed)
  rw [SourceSet.run_fst] at shallow' ending' ⊢
  cases module : indexed? sources.units (m ++ "." ++ n) with
  | some hidden =>
    have nothing : (SourceSet.run tree (fieldText sources.units u (.name info id context))
        sources).1 = .ok "" :=
      text (value_of_hidden (M := ofSources tree sources) module only form (by decide) shallowU)
    refine ⟨fun value _ => ?_, fun _ => nothing, fun _ _ free => by cases free⟩
    rw [nothing]
    constructor
    · intro same
      exact .inr (Except.ok.inj same).symm
    · rintro (free | empty)
      · cases free
      · rw [empty]
  | none =>
    obtain ⟨same, fails⟩ := value_of_import (M := ofSources tree sources)
      (fun _ _ => eq_of_origin reached) has segment.plain found module bound only form
      (by decide) le_rfl shallowU (fun failed => ending (text failed)) shallow' ending'
    refine ⟨fun value given => ?_, fun taken => absurd rfl taken, fun cause failed _ => ?_⟩
    · exact iff_of_true (text (same value given)) (.inl rfl)
    · obtain ⟨cause', failed'⟩ := fails ⟨cause, failed⟩
      exact ⟨cause', text failed'⟩

/-- A module with two constants, and another module whose name is that of one of them. -/
def shadowed : List (String × String) :=
  [("m.py", "n = 'x'\nk = 'y'\n"), ("m.n.py", "pass\n"), ("u.py", "from m import n, k\nn\nk\n")]

theorem imported_value_iff_shadowed :
    (SourceSet.ofTexts shadowed).Reached (FileTree.ofTexts shadowed) ∧
    ∃ u home, indexed? (SourceSet.ofTexts shadowed).units "m" = some home ∧
      (NamesImport u (.name ⟨5, 2⟩ "n" .load) ("m" ++ "." ++ "n") ∧
        (SourceSet.run (FileTree.ofTexts shadowed) (symbolValue (SourceSet.ofTexts shadowed).units
          home (atTop "n")) (SourceSet.ofTexts shadowed)).1 = .ok (some "x") ∧
        (SourceSet.run (FileTree.ofTexts shadowed) (fieldText (SourceSet.ofTexts shadowed).units
          u (.name ⟨5, 2⟩ "n" .load)) (SourceSet.ofTexts shadowed)).1 = .ok "") ∧
      NamesImport u (.name ⟨7, 3⟩ "k" .load) ("m" ++ "." ++ "k") ∧
        (SourceSet.run (FileTree.ofTexts shadowed) (symbolValue (SourceSet.ofTexts shadowed).units
          home (atTop "k")) (SourceSet.ofTexts shadowed)).1 = .ok (some "y") ∧
        (SourceSet.run (FileTree.ofTexts shadowed) (fieldText (SourceSet.ofTexts shadowed).units
          u (.name ⟨7, 3⟩ "k" .load)) (SourceSet.ofTexts shadowed)).1 = .ok "y" := by
  have facts :
      (∀ f ∈ shadowed.zipIdx, (SourceUnit.parse ["."] f.2 f.1.1 f.1.2).isOk = true) ∧
      indexed? (SourceSet.ofTexts shadowed).units "m.n" ≠ none ∧
      indexed? (SourceSet.ofTexts shadowed).units "m.k" = none ∧
      ((indexed? (SourceSet.ofTexts shadowed).units "m").any fun home =>
        ((definite? home (atTop "n")).isSome && (definite? home (atTop "k")).isSome) &&
        (symbolValue (SourceSet.ofTexts shadowed).units home (atTop "n")).answer
          (fun _ => .ok none) = .ok (some "x") &&
        (symbolValue (SourceSet.ofTexts shadowed).units home (atTop "k")).answer
          (fun _ => .ok none) = .ok (some "y")) ∧
      (SourceSet.ofTexts shadowed).units.any fun u =>
        ((u.symbolFor? 5 "n").bind (definite? u)).bind (·.form.target?) == some "m.n" &&
        ((u.symbolFor? 7 "k").bind (definite? u)).bind (·.form.target?) == some "m.k" &&
        ((fieldText (SourceSet.ofTexts shadowed).units u (.name ⟨5, 2⟩ "n" .load)).answer
          (fun _ => .ok none)).isOk &&
        ((fieldText (SourceSet.ofTexts shadowed).units u (.name ⟨7, 3⟩ "k" .load)).answer
          (fun _ => .ok none)).isOk := by
    decide +kernel
  obtain ⟨parsed, taken, free, atHome, abroad⟩ := facts
  have reached := SourceSet.reached_ofTexts (by decide) (by decide +kernel) parsed
  obtain ⟨home, found, holds⟩ := (Option.any_eq_true ..).mp atHome
  simp only [Bool.and_eq_true, decide_eq_true_eq] at holds
  obtain ⟨⟨⟨boundN, boundK⟩, valueN⟩, valueK⟩ := holds
  obtain ⟨u, member, holds⟩ := List.any_eq_true.mp abroad
  simp only [Bool.and_eq_true, beq_iff_eq] at holds
  obtain ⟨⟨⟨importN, importK⟩, endsN⟩, endsK⟩ := holds
  have has : (Modules.ofSources (FileTree.ofTexts shadowed) (SourceSet.ofTexts shadowed)).Has u :=
    Modules.has_of_mem member
  have importsN : NamesImport u (.name ⟨5, 2⟩ "n" .load) ("m" ++ "." ++ "n") :=
    namesImport_of_target? importN .load
  have importsK : NamesImport u (.name ⟨7, 3⟩ "k" .load) ("m" ++ "." ++ "k") :=
    namesImport_of_target? importK .load
  obtain ⟨_, onlyN⟩ := Option.isSome_iff_exists.mp boundN
  obtain ⟨_, onlyK⟩ := Option.isSome_iff_exists.mp boundK
  -- without search paths the set answers like an empty table
  have answered {α : Type} (q : Query α) :
      (SourceSet.run (FileTree.ofTexts shadowed) q (SourceSet.ofTexts shadowed)).1 =
        q.answer fun _ => .ok none := by
    rw [SourceSet.run_fst, SourceSet.answers_ofTexts]
  have ends {α : Type} {q : Query α} (ok : (q.answer fun _ => .ok none).isOk = true)
      (cause : Fault) : (SourceSet.run (FileTree.ofTexts shadowed) q
        (SourceSet.ofTexts shadowed)).1 ≠ .error cause := by
    intro failed
    rw [← answered, failed] at ok
    cases ok
  have hidden := imported_value_iff _ _ reached has ⟨by decide, by decide⟩ importsN found onlyN
    (ends endsN _) (ends endsN _) (ends (by rw [valueN]; rfl) _) (ends (by rw [valueN]; rfl) _)
  have seen := imported_value_iff _ _ reached has ⟨by decide, by decide⟩ importsK found onlyK
    (ends endsK _) (ends endsK _) (ends (by rw [valueK]; rfl) _) (ends (by rw [valueK]; rfl) _)
  have given := (answered _).trans valueK
  exact ⟨reached, u, home, found, ⟨importsN, (answered _).trans valueN, hidden.2.1 taken⟩, importsK,
    given, (seen.1 _ given).mpr (.inl free)⟩

end Catalog.Resolve
