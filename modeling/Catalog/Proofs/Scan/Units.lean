import Catalog.Proofs.Scan.Records
import Catalog.Proofs.Scan.Simulation
import Catalog.Proofs.Source.Reached

/-!
# Units are scanned one by one

What a unit gives is its own: it follows from the unit, from what is searched for and from the
modules that are known, and not from the units that were scanned before it. A scan puts together
what the units give, in their order, and ends with the first fault among them.

The units that are not scanned are known all the same. So neither the order of the units nor the
choice of those that are scanned changes what a unit gives, as long as each name stands for one
unit.
-/

namespace Catalog

open Syntax Resolve

namespace Scan

/-- What a unit gives, by what came of searching it: a record or none, and warnings. A unit in
which references are nested too deep gives no record; any other fault is one of the whole scan. -/
def settle (u : SourceUnit) :
    Except Fault (Except Fault (Option Record) × List String) →
      Except Fault (Option Record × List String)
  | .error cause => .error cause
  | .ok (.ok record, warnings) => .ok (record, warnings)
  | .ok (.error .tooDeep, warnings) => .ok (none, warnings ++ [nestingWarning u])
  | .ok (.error cause, _) => .error cause

/-- What a unit gives in a set of sources. -/
def own (tree : FileTree) (o : ScanOptions) (sources : SourceSet) (u : SourceUnit) :
    Except Fault (Option Record × List String) :=
  settle u (SourceSet.run tree (unitRecord sources.units o u).collect sources).1

/-- The units that are scanned. -/
def selected (o : ScanOptions) (units : List SourceUnit) : List SourceUnit :=
  units.filter fun u => !o.isIrrelevant u

/-- What all units give that are scanned, or the first fault. -/
def ownAll (tree : FileTree) (o : ScanOptions) (sources : SourceSet) (units : List SourceUnit) :
    Except Fault (List (Option Record × List String)) :=
  (selected o units).mapM (own tree o sources)

variable {tree : FileTree} {o : ScanOptions} {sources : SourceSet} {u : SourceUnit}

/-! ## One unit -/

theorem own_of_sameAnswers {s : SourceSet} (same : SourceSet.SameAnswers tree sources s)
    (u : SourceUnit) : own tree o s u = own tree o sources u := by
  rw [own, own, SourceSet.run_fst, SourceSet.run_fst, same.units, same.answers]

theorem scanUnit_of_irrelevant {s : Scan} (irrelevant : o.isIrrelevant u = true) :
    scanUnit tree o s u = (.ok (), s.skip) := by
  rw [scanUnit, if_pos irrelevant]

/-- A fault of the unit ends the scan. -/
theorem scanUnit_of_fault {s : Scan} (relevant : o.isIrrelevant u = false) {cause : Fault}
    (fault : own tree o s.sources u = .error cause) :
    (scanUnit tree o s u).1 = .error cause := by
  rw [scanUnit, if_neg (by simp [relevant])]
  rw [own] at fault
  rcases ran : SourceSet.run tree (unitRecord s.sources.units o u).collect s.sources with
    ⟨other | ⟨other | record, warnings⟩, sources'⟩
  · rw [ran] at fault
    cases fault
    rfl
  · rw [ran] at fault
    cases other with
    | tooDeep => cases fault
    | _ =>
      cases fault
      rfl
  · rw [ran] at fault
    cases fault

/-- What the unit gives is kept. -/
theorem scanUnit_of_own {s : Scan} (relevant : o.isIrrelevant u = false) {record : Option Record}
    {warnings : List String} (gives : own tree o s.sources u = .ok (record, warnings)) :
    ∃ after, scanUnit tree o s u = (.ok (), s.keep after record warnings) ∧
      SourceSet.SameAnswers tree s.sources after := by
  rw [scanUnit, if_neg (by simp [relevant])]
  rw [own] at gives
  rcases ran : SourceSet.run tree (unitRecord s.sources.units o u).collect s.sources with
    ⟨cause | ⟨cause | found, left⟩, after⟩
  · rw [ran] at gives
    cases gives
  · rw [ran] at gives
    cases cause with
    | tooDeep =>
      cases gives
      exact ⟨after, rfl, SourceSet.sameAnswers_run ran⟩
    | _ => cases gives
  · rw [ran] at gives
    cases gives
    exact ⟨after, rfl, SourceSet.sameAnswers_run ran⟩

/-! ## All units -/

theorem selected_cons_of_irrelevant (rest : List SourceUnit)
    (irrelevant : o.isIrrelevant u = true) : selected o (u :: rest) = selected o rest :=
  List.filter_cons_of_neg (by simp [irrelevant])

theorem selected_cons_of_relevant (rest : List SourceUnit)
    (relevant : o.isIrrelevant u = false) : selected o (u :: rest) = u :: selected o rest :=
  List.filter_cons_of_pos (by simp [relevant])

/-- The first fault among the units ends the scan. -/
theorem scanUnits_of_fault {s : Scan} (same : SourceSet.SameAnswers tree sources s.sources)
    {units : List SourceUnit} {cause : Fault}
    (fault : ownAll tree o sources units = .error cause) :
    (scanUnits tree o s units).1 = .error cause := by
  induction units generalizing s with
  | nil => cases fault
  | cons u rest ih =>
    rw [scanUnits]
    by_cases irrelevant : o.isIrrelevant u = true
    · rw [scanUnit_of_irrelevant irrelevant]
      rw [ownAll, selected_cons_of_irrelevant rest irrelevant] at fault
      exact ih same fault
    · have relevant : o.isIrrelevant u = false := by simpa using irrelevant
      rw [ownAll, selected_cons_of_relevant rest relevant, List.mapM_cons] at fault
      cases gives : own tree o sources u with
      | error own =>
        rw [gives] at fault
        cases fault
        have failed := scanUnit_of_fault relevant ((own_of_sameAnswers same u).trans gives)
        rcases scanned : scanUnit tree o s u with ⟨cause | done, s'⟩
        · rw [scanned] at failed
          exact failed
        · rw [scanned] at failed
          cases failed
      | ok given =>
        obtain ⟨after, scanned, same'⟩ :=
          scanUnit_of_own relevant ((own_of_sameAnswers same u).trans gives)
        rw [scanned]
        rw [gives] at fault
        refine ih (same.trans same') ?_
        rw [ownAll]
        cases others : (selected o rest).mapM (own tree o sources) with
        | error own =>
          rw [others] at fault
          exact fault
        | ok results =>
          rw [others] at fault
          cases fault

/-- Without a fault the scan gives what the units give. -/
theorem scanUnits_of_own {s : Scan} (same : SourceSet.SameAnswers tree sources s.sources)
    {units : List SourceUnit} {results : List (Option Record × List String)}
    (gives : ownAll tree o sources units = .ok results) :
    ∃ after, scanUnits tree o s units = (.ok (), after) ∧
      after.result.records = s.result.records ++ results.filterMap Prod.fst ∧
      after.result.warnings = s.result.warnings ++ results.flatMap Prod.snd := by
  induction units generalizing s results with
  | nil =>
    cases gives
    exact ⟨s, rfl, (List.append_nil _).symm, (List.append_nil _).symm⟩
  | cons u rest ih =>
    rw [scanUnits]
    by_cases irrelevant : o.isIrrelevant u = true
    · rw [scanUnit_of_irrelevant irrelevant]
      rw [ownAll, selected_cons_of_irrelevant rest irrelevant] at gives
      exact ih (s := s.skip) same gives
    · have relevant : o.isIrrelevant u = false := by simpa using irrelevant
      rw [ownAll, selected_cons_of_relevant rest relevant, List.mapM_cons] at gives
      cases first : own tree o sources u with
      | error cause =>
        rw [first] at gives
        cases gives
      | ok given =>
        obtain ⟨record, warnings⟩ := given
        obtain ⟨after, scanned, same'⟩ :=
          scanUnit_of_own relevant ((own_of_sameAnswers same u).trans first)
        cases others : (selected o rest).mapM (own tree o sources) with
        | error cause =>
          rw [first, others] at gives
          cases gives
        | ok more =>
          rw [first, others] at gives
          cases gives
          obtain ⟨last, ended, records, warned⟩ :=
            ih (s := s.keep after record warnings) (same.trans same') others
          rw [scanned]
          refine ⟨last, ended, records.trans ?_, warned.trans ?_⟩
          · cases record <;> simp [keep]
          · simp [keep]

/-- A scan puts together what its units give. -/
theorem ofSources_own (tree : FileTree) (o : ScanOptions) (sources : SourceSet) :
    (ofSources tree o sources).1 = (ownAll tree o sources sources.units).map fun _ => () := by
  have start : SourceSet.SameAnswers tree sources
      ({ sources, result := { unitsSkipped := sources.failed.length } } : Scan).sources :=
    .refl tree sources
  rw [ofSources]
  cases gives : ownAll tree o sources sources.units with
  | error cause =>
    have failed := scanUnits_of_fault start gives
    rcases scanned : scanUnits tree o
      { sources, result := { unitsSkipped := sources.failed.length } } sources.units with
      ⟨other | done, s⟩
    · rw [scanned] at failed
      exact failed
    · rw [scanned] at failed
      cases failed
  | ok results =>
    obtain ⟨after, scanned, -⟩ := scanUnits_of_own start gives
    rw [scanned]
    rfl

theorem result_of_own {results : List (Option Record × List String)}
    (gives : ownAll tree o sources sources.units = .ok results) :
    (ofSources tree o sources).2.result.records = results.filterMap Prod.fst ∧
    (ofSources tree o sources).2.result.warnings =
      results.flatMap Prod.snd ++ (ofSources tree o sources).2.sources.outsideFailures := by
  have start : SourceSet.SameAnswers tree sources
      ({ sources, result := { unitsSkipped := sources.failed.length } } : Scan).sources :=
    .refl tree sources
  obtain ⟨after, scanned, records, warnings⟩ := scanUnits_of_own start gives
  rw [ofSources, scanned]
  refine ⟨records, ?_⟩
  change after.result.warnings ++ after.sources.outsideFailures = _
  rw [warnings, List.nil_append]
  rfl

/-! ## Sets that correspond -/

/-- Corresponding units give the same record, and the same warnings if they are written alike. -/
theorem settle_of_rel {M M' : Modules} {C : Correspondence M M'} {u u' : SourceUnit}
    (related : C.rel u u') (o : ScanOptions) {verbatim : Prop}
    (written : verbatim → u'.path = u.path ∧ ∀ v, C.spelling u.origin v = v) :
    (settle u' ((unitRecord M'.units o u').collect.answer M'.known)).map Prod.fst =
      (settle u ((unitRecord M.units o u).collect.answer M.known)).map Prod.fst ∧
    (verbatim → settle u' ((unitRecord M'.units o u').collect.answer M'.known) =
      settle u ((unitRecord M.units o u).collect.answer M.known)) := by
  have agree := Correspondence.unitRecord related o written [] [] fun _ => rfl
  rcases Query.Agree.ending agree with ⟨⟨a, w⟩, ⟨b, w'⟩, ⟨outcome, same⟩, ended, ended'⟩ |
    ⟨cause, failed, failed'⟩
  · have ended : (unitRecord M.units o u).collect.answer M.known = .ok (a, w) := ended
    have ended' : (unitRecord M'.units o u').collect.answer M'.known = .ok (b, w') := ended'
    rw [ended, ended']
    cases outcome with
    | value related =>
      cases related
      refine ⟨rfl, fun exactly => ?_⟩
      have same : w' = w := same exactly
      rw [same]
      rfl
    | failed cause =>
      cases cause with
      | tooDeep =>
        refine ⟨rfl, fun exactly => ?_⟩
        have same : w' = w := same exactly
        simp only [settle, same, nestingWarning, (written exactly).1]
      | _ => exact ⟨rfl, fun _ => rfl⟩
  · have failed : (unitRecord M.units o u).collect.answer M.known = .error cause := failed
    have failed' : (unitRecord M'.units o u').collect.answer M'.known = .error cause := failed'
    rw [failed, failed']
    exact ⟨rfl, fun _ => rfl⟩

/-! ## Sets that correspond unit by unit -/

section

variable {rel : SourceUnit → SourceUnit → Prop} {units units' : List SourceUnit}
  (each : List.Forall₂ rel units units')
include each

theorem indexed?_of_forall₂ (named : ∀ u u', rel u u' → u'.moduleName = u.moduleName)
    (m : String) : Option.Rel rel (indexed? units m) (indexed? units' m) := by
  rw [indexed?, indexed?]
  split
  · exact .none
  · induction each with
    | nil => exact .none
    | @cons u u' _ _ related _ ih =>
      rw [List.find?_cons, List.find?_cons, named u u' related]
      split
      · exact .some related
      · exact ih

theorem selected_of_forall₂
    (alike : ∀ u u', rel u u' → o.isIrrelevant u' = o.isIrrelevant u) :
    List.Forall₂ rel (selected o units) (selected o units') := by
  induction each with
  | nil => exact .nil
  | @cons u u' _ _ related _ ih =>
    have same := alike u u' related
    cases irrelevant : o.isIrrelevant u with
    | true =>
      rw [selected_cons_of_irrelevant _ irrelevant,
        selected_cons_of_irrelevant _ (same.trans irrelevant)]
      exact ih
    | false =>
      rw [selected_cons_of_relevant _ irrelevant,
        selected_cons_of_relevant _ (same.trans irrelevant)]
      exact .cons related ih

end

/-! ## The order of the units -/

/-- A name stands for at most one of the units. -/
def Distinct (units : List SourceUnit) : Prop :=
  units.Pairwise fun u v => u.moduleName = v.moduleName → u.moduleName = ""

instance (units : List SourceUnit) : Decidable (Distinct units) :=
  inferInstanceAs (Decidable (List.Pairwise _ _))

theorem indexed?_of_perm {units units' : List SourceUnit} (distinct : Distinct units)
    (order : units'.Perm units) (m : String) : indexed? units' m = indexed? units m := by
  rw [indexed?, indexed?]
  split
  · rfl
  · rename_i named
    rw [← List.head?_filter, ← List.head?_filter]
    have order := order.filter fun u => u.moduleName == m
    have distinct : Distinct (units.filter fun u => u.moduleName == m) :=
      List.Pairwise.filter _ distinct
    have named_m : ∀ u ∈ units.filter (fun u => u.moduleName == m), u.moduleName = m :=
      fun u member => by simpa using (List.mem_filter.mp member).2
    -- at most one unit has the name, and there is one order of one unit
    rcases found : units.filter (fun u => u.moduleName == m) with _ | ⟨u, _ | ⟨v, rest⟩⟩
    · rw [found] at order
      rw [order.eq_nil, found]
    · rw [found] at order
      rw [List.perm_singleton.mp order, found]
    · rw [found] at distinct named_m
      have same : u.moduleName = v.moduleName :=
        (named_m u (by simp)).trans (named_m v (by simp)).symm
      have unnamed := (List.pairwise_cons.mp distinct).1 v (by simp) same
      rw [named_m u (by simp)] at unnamed
      simp [unnamed] at named

/-- Neither the order of the units nor the choice of those that are scanned changes what a unit
gives. -/
theorem own_of_perm {units : List SourceUnit} (distinct : Distinct sources.units)
    (order : units.Perm sources.units) {o' : ScanOptions} (search : o.SameSearch o')
    (u : SourceUnit) : own tree o' { sources with units } u = own tree o sources u := by
  have answers : SourceSet.answers tree { sources with units } = sources.answers tree := by
    funext m
    rw [SourceSet.answers_eq, SourceSet.answers_eq]
  have related (found : Option SourceUnit) : Option.Rel (· = ·) found found := by
    cases found with
    | none => exact .none
    | some u => exact .some rfl
  let M : Modules := { units := sources.units, known := sources.answers tree }
  let M' : Modules := { units, known := sources.answers tree }
  have indexed (m : String) : Option.Rel (· = ·) (indexed? M.units m) (indexed? M'.units m) := by
    rw [indexed?_of_perm distinct order]
    exact related _
  have outside (m : String) : Query.Agree M.known M'.known (Option.Rel (· = ·)) (Query.outside m)
      (Query.outside m) := .outside fun found _ => related found
  let C : Correspondence M M' :=
    { rel := (· = ·)
      spelling := fun _ v => v
      alike := fun {u u'} same => same ▸ .refl u
      origins := fun same same' => by rw [same, same']
      units := agree_unitFor? indexed outside
      cuts := agree_split? indexed outside }
  have same : C.rel u u := rfl
  have written : True → u.path = u.path ∧ ∀ v, C.spelling u.origin v = v :=
    fun _ => ⟨rfl, fun _ => rfl⟩
  have settled := (settle_of_rel same o written).2 trivial
  rw [own, own, SourceSet.run_fst, SourceSet.run_fst, search.unitRecord, answers]
  exact settled

/-- Units are scanned independently of each other. Whatever their order, and whichever of them are
excluded, each one that is scanned gives what it gives on its own; the scan ends with the first
fault among these, and otherwise with the records and the warnings of the units in their order. -/
theorem units_independent (tree : FileTree) (o o' : ScanOptions) (sources : SourceSet)
    (units : List SourceUnit) (distinct : Distinct sources.units)
    (order : units.Perm sources.units)
    (search : o' = { o with excludeGlobs := o'.excludeGlobs, includeTests := o'.includeTests }) :
    ∀ outcome scan, ofSources tree o' { sources with units } = (outcome, scan) →
      outcome = ((selected o' units).mapM (own tree o sources)).map (fun _ => ()) ∧
      ∀ results, (selected o' units).mapM (own tree o sources) = .ok results →
        scan.result.records = results.filterMap Prod.fst ∧
        scan.result.warnings = results.flatMap Prod.snd ++ scan.sources.outsideFailures := by
  have search : o.SameSearch o' := by
    rw [search]
    exact ⟨rfl, rfl, rfl, rfl⟩
  have each : own tree o' { sources with units } = own tree o sources :=
    funext (own_of_perm distinct order search)
  rw [← each]
  intro outcome scan scanned
  have ended := ofSources_own tree o' { sources with units }
  rw [scanned] at ended
  refine ⟨ended, fun results gives => ?_⟩
  have result := @result_of_own tree o' { sources with units } results gives
  rw [scanned] at result
  exact result

/-- A constant of a module that is not scanned, and an adapter that imports it. -/
def sharing : List (String × String) :=
  [("tools/k.py", "NAME = 'a'\n"),
    ("p.py", "from meloshub import adapter\nfrom tools.k import NAME\ndef make():\n    " ++
      "return adapter.Metadata(id=NAME)\nadapter.register(make())\n")]

/-- The adapter gives its record although it stands first and the module of the constant is
excluded. -/
theorem units_independent_sharing :
    Distinct (SourceSet.ofTexts sharing).units ∧
    selected { excludeGlobs := ["tools/*"] } (SourceSet.ofTexts sharing).units.reverse ≠
      (SourceSet.ofTexts sharing).units.reverse ∧
    ∀ outcome scan, ofSources default { excludeGlobs := ["tools/*"] }
        { SourceSet.ofTexts sharing with units := (SourceSet.ofTexts sharing).units.reverse } =
          (outcome, scan) →
      outcome = .ok () ∧ scan.result.records = [{ id := "a" }] := by
  -- one evaluation for all, as each of them reads the texts
  have facts : Distinct (SourceSet.ofTexts sharing).units ∧
      (selected { excludeGlobs := ["tools/*"] } (SourceSet.ofTexts sharing).units.reverse).length ≠
        (SourceSet.ofTexts sharing).units.reverse.length ∧
      (selected { excludeGlobs := ["tools/*"] } (SourceSet.ofTexts sharing).units.reverse).mapM
        (own default { excludeGlobs := [] } (SourceSet.ofTexts sharing)) =
          .ok [(some { id := "a" }, [])] := by
    decide +kernel
  obtain ⟨distinct, fewer, gives⟩ := facts
  refine ⟨distinct, fun all => fewer (congrArg List.length all), ?_⟩
  intro outcome scan scanned
  have result := units_independent default { excludeGlobs := [] }
    { excludeGlobs := ["tools/*"] } (SourceSet.ofTexts sharing)
    (SourceSet.ofTexts sharing).units.reverse distinct (List.reverse_perm _) rfl
    outcome scan scanned
  refine ⟨?_, (result.2 _ gives).1⟩
  rw [result.1, gives]
  rfl

end Scan

end Catalog
