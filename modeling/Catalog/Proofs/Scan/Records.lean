import Catalog.Proofs.Scan.Outcome
import Mathlib.Data.List.Nodup

/-!
# Which records a scan gives

A unit gives the record of its first entry that leads to one: from the entry to its registration,
from there to a declaration of the unit, and from there to the metadata. All entries are searched
before the first of them is followed, so a fault in any of them leaves the unit without a record.

A set of units is scanned in order. The records come from different places of the list of units,
in the same order, and from nowhere else.
-/

namespace Catalog

open Syntax

namespace Setting

variable (c : Setting) (u : SourceUnit)

/-! ## One unit -/

/-- The search for a registration in the entry comes to an end. -/
def EntrySearched (e : LoadEntry) : Prop :=
  c.NoRegistration u e.body ∨ ∃ site, c.EntrySite u e site

/-- The entry leads to a record. -/
def EntryGives (e : LoadEntry) (r : Record) : Prop :=
  ∃ site, c.EntrySite u e site ∧ c.SiteGives u site r

/-- The entry is known to lead to no record: it has no registration, or the registration is not
traced to a declaration, or the declaration holds no record. -/
def EntryFails (e : LoadEntry) : Prop :=
  c.NoRegistration u e.body ∨
  ∃ site warning, c.EntrySite u e site ∧ c.SiteFails u site warning

/-- The record of the first of the entries that leads to one. -/
def FirstEntry (entries : List LoadEntry) (r : Record) : Prop :=
  ∃ before e after, entries = before ++ e :: after ∧ c.EntryGives u e r ∧
    ∀ earlier ∈ before, c.EntryFails u earlier

/-- The scan of the unit ends with the record. -/
def UnitGives (r : Record) : Prop :=
  (∀ e ∈ LoadEntry.all u c.options.initFunctions, c.EntrySearched u e) ∧
    c.FirstEntry u (LoadEntry.all u c.options.initFunctions) r

variable {c u}

theorem Splits.searched {entries bare : List LoadEntry} {sites : List Registration}
    (splits : c.Splits u entries sites bare) : ∀ e ∈ entries, c.EntrySearched u e := by
  induction splits with
  | nil => simp
  | site found _ ih => exact List.forall_mem_cons.mpr ⟨.inr ⟨_, found⟩, ih⟩
  | bare nothing _ ih => exact List.forall_mem_cons.mpr ⟨.inl nothing, ih⟩

theorem exists_splits {entries : List LoadEntry}
    (searched : ∀ e ∈ entries, c.EntrySearched u e) :
    ∃ sites bare, c.Splits u entries sites bare := by
  induction entries with
  | nil => exact ⟨[], [], .nil⟩
  | cons e rest ih =>
    obtain ⟨first, searched⟩ := List.forall_mem_cons.mp searched
    obtain ⟨sites, bare, splits⟩ := ih searched
    rcases first with nothing | ⟨site, found⟩
    · exact ⟨sites, e :: bare, .bare nothing splits⟩
    · exact ⟨site :: sites, bare, .site found splits⟩

/-- Trying the registrations in turn finds the first entry that leads to a record. -/
theorem Splits.firstEntry {entries bare : List LoadEntry} {sites tried rest : List Registration}
    {failures : List String} {r : Record} (splits : c.Splits u entries sites bare)
    (order : sites = tried ++ rest) (fails : List.Forall₂ (c.SiteFails u) tried failures)
    (wins : c.Wins u rest (some r)) : c.FirstEntry u entries r := by
  induction splits generalizing tried failures with
  | nil =>
    obtain ⟨_, rfl⟩ := List.append_eq_nil_iff.mp order.symm
    obtain ⟨_, _, impossible, _⟩ := wins
    cases impossible
  | @site e site entries _ _ found _ ih =>
    cases fails with
    | nil =>
      obtain ⟨winner, after, same, gives⟩ := wins
      cases order.trans same
      exact ⟨[], e, entries, rfl, ⟨site, found, gives⟩, by simp⟩
    | cons fail fails =>
      cases order
      obtain ⟨before, first, after, rfl, gives, earlier⟩ := ih rfl fails
      exact ⟨e :: before, first, after, rfl, gives,
        List.forall_mem_cons.mpr ⟨.inr ⟨site, _, found, fail⟩, earlier⟩⟩
  | @bare e _ _ _ nothing _ ih =>
    obtain ⟨before, first, after, rfl, gives, earlier⟩ := ih order fails
    exact ⟨e :: before, first, after, rfl, gives,
      List.forall_mem_cons.mpr ⟨.inl nothing, earlier⟩⟩

/-- The first entry that leads to a record is found by trying the registrations in turn. -/
theorem FirstEntry.exists_splits {entries : List LoadEntry} {r : Record}
    (searched : ∀ e ∈ entries, c.EntrySearched u e) (first : c.FirstEntry u entries r) :
    ∃ tried rest failures bare, c.Splits u entries (tried ++ rest) bare ∧
      List.Forall₂ (c.SiteFails u) tried failures ∧ c.Wins u rest (some r) := by
  obtain ⟨before, e, after, rfl, ⟨site, found, gives⟩, earlier⟩ := first
  induction before with
  | nil =>
    obtain ⟨sites, bare, splits⟩ :=
      Setting.exists_splits (List.forall_mem_cons.mp searched).2
    exact ⟨[], site :: sites, [], bare, .site found splits, .nil, site, sites, rfl, gives⟩
  | cons first before ih =>
    obtain ⟨fail, earlier⟩ := List.forall_mem_cons.mp earlier
    obtain ⟨tried, rest, failures, bare, splits, fails, wins⟩ :=
      ih (List.forall_mem_cons.mp searched).2 earlier
    rcases fail with nothing | ⟨site, warning, found, fail⟩
    · exact ⟨tried, rest, failures, first :: bare, .bare nothing splits, fails, wins⟩
    · exact ⟨site :: tried, rest, warning :: failures, bare, .site found splits,
        .cons fail fails, wins⟩

theorem exists_account_iff {r : Record} :
    (∃ warnings, Nonempty (c.Account u (some r) warnings)) ↔ c.UnitGives u r := by
  constructor
  · rintro ⟨warnings, ⟨a⟩⟩
    exact ⟨a.splits.searched, a.splits.firstEntry a.order a.fails a.wins⟩
  · rintro ⟨searched, first⟩
    obtain ⟨tried, rest, failures, bare, splits, fails, wins⟩ := first.exists_splits searched
    exact ⟨_, ⟨tried ++ rest, bare, tried, rest, failures, splits, rfl, fails, wins, rfl⟩⟩

theorem UnitGives.id_ne_empty {r : Record} (gives : c.UnitGives u r) : r.id ≠ "" := by
  obtain ⟨_, _, e, _, _, ⟨site, _, declaration, _, first⟩, _⟩ := gives
  obtain ⟨_, n, _, _, ⟨info, func, args, keywords, _, _, _, named⟩, _⟩ := first
  exact named

end Setting

/-! ## Options -/

/-- The two options look for the same registrations and the same metadata. They may select other
units, and treat what is found in another way. -/
structure ScanOptions.SameSearch (o o' : ScanOptions) : Prop where
  registerTarget : o'.registerTarget = o.registerTarget
  metadataTarget : o'.metadataTarget = o.metadataTarget
  metadataType : o'.metadataType = o.metadataType
  initFunctions : o'.initFunctions = o.initFunctions

namespace ScanOptions.SameSearch

variable {o o' : ScanOptions} (same : o.SameSearch o') (units : List SourceUnit) (u : SourceUnit)
include same

theorem ofEntries (entries : List LoadEntry) :
    Registration.ofEntries units o' u entries = Registration.ofEntries units o u entries := by
  have argument : Registration.argument? units o' u = Registration.argument? units o u := by
    funext n
    simp only [Registration.argument?, same.registerTarget]
  induction entries with
  | nil => rfl
  | cons e rest ih =>
    simp only [Registration.ofEntries, Registration.first?, argument, Registration.missingWarning,
      same.registerTarget, ih]

theorem firstRecord (sites : List Registration) :
    Scan.firstRecord units o' u sites = Scan.firstRecord units o u sites := by
  induction sites with
  | nil => rfl
  | cons r rest ih =>
    simp only [Scan.firstRecord, Scan.recordOf, Scan.emptyWarning, same.metadataTarget,
      same.metadataType, ih]

/-- A unit is searched in the same way. -/
theorem unitRecord : Scan.unitRecord units o' u = Scan.unitRecord units o u := by
  simp only [Scan.unitRecord, Registration.all, same.initFunctions, same.ofEntries,
    same.firstRecord]

end ScanOptions.SameSearch

/-! ## A set of units -/

namespace SourceSet

/-- The units of the set were read from files of the repository, or from other texts and added after
that. -/
inductive IsLoaded (tree : FileTree) : SourceSet → Prop
  | load {repo : Path} {roots paths warnings : List String} {start s : SourceSet}
      (empty : start.units = [])
      (loaded : loadFiles tree repo roots start paths = .ok (s, warnings)) : IsLoaded tree s
  | add {s : SourceSet} {u : SourceUnit} (before : IsLoaded tree s)
      (next : u.origin = .repository s.units.length) (read : u.IsRead) : IsLoaded tree (s.add u)

/-- The units stand where their origins say, and were read from texts. -/
structure IsOrderly (s : SourceSet) : Prop where
  origins : s.units.map SourceUnit.origin = (List.range s.units.length).map Origin.repository
  texts : ∀ u ∈ s.units, u.IsRead

variable {tree : FileTree} {s : SourceSet}

theorem unit_of_loadFile {repo : Path} {roots : List String} {index : Nat} {path : String}
    {u : SourceUnit} (loaded : loadFile tree repo roots index path = .ok (.unit u)) :
    u.origin = .repository index ∧ u.IsRead := by
  unfold loadFile SourceUnit.parse SourceUnit.ofText at loaded
  split at loaded <;> try cases loaded
  rename_i text _
  split at loaded <;> cases loaded
  rename_i read
  split at read <;> try cases read
  rename_i m parsed
  split at read <;> cases read
  exact ⟨rfl, _, _, _, text, m, parsed, rfl⟩

theorem IsOrderly.add {u : SourceUnit} (orderly : s.IsOrderly)
    (next : u.origin = .repository s.units.length) (read : u.IsRead) : (s.add u).IsOrderly := by
  refine ⟨?_, List.forall_mem_append.mpr ⟨orderly.texts, List.forall_mem_singleton.mpr read⟩⟩
  simp only [SourceSet.add, List.map_append, List.length_append, List.length_singleton,
    List.range_succ, List.map_cons, List.map_nil, next]
  rw [orderly.origins]

theorem loadFiles_cons (tree : FileTree) (repo : Path) (roots : List String) (s : SourceSet)
    (path : String) (rest : List String) :
    loadFiles tree repo roots s (path :: rest) =
      match loadFile tree repo roots s.units.length path with
      | .error cause => .error cause
      | .ok (.unit u) => loadFiles tree repo roots (s.add u) rest
      | .ok (.failed warning) =>
        match loadFiles tree repo roots { s with failed := s.failed ++ [path] } rest with
        | .error cause => .error cause
        | .ok (s, warnings) => .ok (s, warning :: warnings) := by
  rfl

/-- The steps of a load: a file gives a unit, which is added, or it fails and is noted. -/
inductive LoadsFiles (tree : FileTree) (repo : Path) (roots : List String) :
    SourceSet → List String → SourceSet → List String → Prop
  | nil {s : SourceSet} : LoadsFiles tree repo roots s [] s []
  | unit {start s : SourceSet} {path : String} {u : SourceUnit} {rest warnings : List String}
      (found : loadFile tree repo roots start.units.length path = .ok (.unit u))
      (more : LoadsFiles tree repo roots (start.add u) rest s warnings) :
      LoadsFiles tree repo roots start (path :: rest) s warnings
  | failed {start s : SourceSet} {path warning : String} {rest warnings : List String}
      (found : loadFile tree repo roots start.units.length path = .ok (.failed warning))
      (more : LoadsFiles tree repo roots { start with failed := start.failed ++ [path] } rest s
        warnings) :
      LoadsFiles tree repo roots start (path :: rest) s (warning :: warnings)

theorem loadsFiles_of_loadFiles {repo : Path} {roots paths warnings : List String}
    {start : SourceSet} (loaded : loadFiles tree repo roots start paths = .ok (s, warnings)) :
    LoadsFiles tree repo roots start paths s warnings := by
  induction paths generalizing start warnings with
  | nil =>
    cases loaded
    exact .nil
  | cons path rest ih =>
    rw [loadFiles_cons] at loaded
    split at loaded
    · cases loaded
    · rename_i found
      exact .unit found (ih loaded)
    · rename_i found
      split at loaded
      · cases loaded
      · rename_i more
        cases loaded
        exact .failed found (ih more)

theorem isOrderly_of_loadFiles {repo : Path} {roots paths warnings : List String}
    {start : SourceSet} (orderly : start.IsOrderly)
    (loaded : loadFiles tree repo roots start paths = .ok (s, warnings)) : s.IsOrderly := by
  replace loaded := loadsFiles_of_loadFiles loaded
  induction loaded with
  | nil => exact orderly
  | unit found _ ih =>
    obtain ⟨next, read⟩ := unit_of_loadFile found
    exact ih (orderly.add next read)
  | failed _ _ ih => exact ih ⟨orderly.origins, orderly.texts⟩

theorem IsLoaded.isOrderly (loaded : s.IsLoaded tree) : s.IsOrderly := by
  induction loaded with
  | load empty loaded => exact isOrderly_of_loadFiles ⟨by simp [empty], by simp [empty]⟩ loaded
  | add _ next read orderly => exact orderly.add next read

end SourceSet

namespace Scan

variable {tree : FileTree} {o : ScanOptions} {sources : SourceSet}

theorem run_unitRecord_iff {u : SourceUnit} {r : Record} :
    (∃ warnings, (SourceSet.run tree (unitRecord sources.units o u).collect sources).1 =
      .ok (.ok (some r), warnings)) ↔ (Setting.ofSources tree o sources).UnitGives u r := by
  rw [← Setting.exists_account_iff]
  refine exists_congr fun warnings => ?_
  rw [← Setting.gives_unitRecord_iff]
  exact Tracing.run_collect_iff

theorem ofSources_eq_of_sameAnswers {s : SourceSet}
    (same : SourceSet.SameAnswers tree sources s) :
    Setting.ofSources tree o s = Setting.ofSources tree o sources := by
  rw [Setting.ofSources, Setting.ofSources, same.answers, same.units]

/-- Options that look for the same and select the same units lead to the same scan. -/
theorem ofSources_of_sameSearch {o' : ScanOptions} (same : o.SameSearch o')
    (selected : ∀ u, o'.isIrrelevant u = o.isIrrelevant u) :
    ofSources tree o' sources = ofSources tree o sources := by
  have units (s : Scan) (us : List SourceUnit) :
      scanUnits tree o' s us = scanUnits tree o s us := by
    induction us generalizing s with
    | nil => rfl
    | cons u rest ih =>
      rw [scanUnits, scanUnits, scanUnit, scanUnit, selected, same.unitRecord]
      split
      · exact ih _
      · rfl
  rw [ofSources, ofSources, units]

/-- What the scan of one unit adds to the records, with the unit it comes from. -/
theorem scanUnit_records {s : Scan} (same : SourceSet.SameAnswers tree sources s.sources)
    (u : SourceUnit) :
    ∃ found : List (SourceUnit × Record),
      (scanUnit tree o s u).2.result.records = s.result.records ++ found.map Prod.snd ∧
      (found.map Prod.fst).Sublist [u] ∧
      (∀ p ∈ found, o.isIrrelevant p.1 = false ∧
        (Setting.ofSources tree o sources).UnitGives p.1 p.2) ∧
      ((scanUnit tree o s u).1 = .ok () →
        SourceSet.SameAnswers tree sources (scanUnit tree o s u).2.sources ∧
        ∀ r, o.isIrrelevant u = false →
          (Setting.ofSources tree o sources).UnitGives u r → (u, r) ∈ found) := by
  rw [← ofSources_eq_of_sameAnswers same]
  simp only [← run_unitRecord_iff]
  rw [scanUnit]
  by_cases irrelevant : o.isIrrelevant u = true
  · rw [if_pos irrelevant]
    exact ⟨[], by simp [skip], by simp, by simp, fun _ => ⟨same, by simp [irrelevant]⟩⟩
  · rw [if_neg irrelevant]
    have relevant : o.isIrrelevant u = false := by simpa using irrelevant
    rcases ran : SourceSet.run tree (unitRecord s.sources.units o u).collect s.sources with
      ⟨cause | ⟨cause | _ | r, warnings⟩, sources'⟩
    · exact ⟨[], by simp [keep], by simp, by simp, by simp⟩
    · have same' := same.trans (SourceSet.sameAnswers_run ran)
      cases cause <;> exact ⟨[], by simp [keep], by simp, by simp, by simp [keep, same']⟩
    · have same' := same.trans (SourceSet.sameAnswers_run ran)
      exact ⟨[], by simp [keep], by simp, by simp, by simp [keep, same']⟩
    · have same' := same.trans (SourceSet.sameAnswers_run ran)
      exact ⟨[(u, r)], by simp [keep], by simp, by simp [relevant, ran],
        by simp [keep, same']⟩

/-- What the scan of units adds to the records, in the order of the units. -/
theorem scanUnits_records {s : Scan} (same : SourceSet.SameAnswers tree sources s.sources)
    (units : List SourceUnit) :
    ∃ found : List (SourceUnit × Record),
      (scanUnits tree o s units).2.result.records = s.result.records ++ found.map Prod.snd ∧
      (found.map Prod.fst).Sublist units ∧
      (∀ p ∈ found, o.isIrrelevant p.1 = false ∧
        (Setting.ofSources tree o sources).UnitGives p.1 p.2) ∧
      ((scanUnits tree o s units).1 = .ok () →
        ∀ u ∈ units, ∀ r, o.isIrrelevant u = false →
          (Setting.ofSources tree o sources).UnitGives u r → (u, r) ∈ found) := by
  induction units generalizing s with
  | nil => exact ⟨[], by simp [scanUnits], by simp, by simp, by simp⟩
  | cons u rest ih =>
    obtain ⟨first, records, origin, sound, complete⟩ := scanUnit_records (o := o) same u
    rw [scanUnits]
    rcases scanned : scanUnit tree o s u with ⟨cause | done, s'⟩
    · rw [scanned] at records
      exact ⟨first, records, origin.trans (by simp), sound, by simp⟩
    · rw [scanned] at records complete
      obtain ⟨same', complete⟩ := complete rfl
      obtain ⟨more, records', origin', sound', complete'⟩ := ih same'
      refine ⟨first ++ more, ?_, ?_, ?_, ?_⟩
      · rw [List.map_append, ← List.append_assoc, ← records]
        exact records'
      · rw [List.map_append]
        exact origin.append origin'
      · exact List.forall_mem_append.mpr ⟨sound, sound'⟩
      · intro ended
        refine List.forall_mem_cons.mpr ⟨?_, ?_⟩
        · intro r relevant gives
          exact List.mem_append_left _ (complete r relevant gives)
        · intro u' member r relevant gives
          exact List.mem_append_right _ (complete' ended u' member r relevant gives)

theorem result_records_ofSources (tree : FileTree) (o : ScanOptions) (sources : SourceSet) :
    ∃ found : List (SourceUnit × Record),
      (ofSources tree o sources).2.result.records = found.map Prod.snd ∧
      (found.map Prod.fst).Sublist sources.units ∧
      (∀ p ∈ found, o.isIrrelevant p.1 = false ∧
        (Setting.ofSources tree o sources).UnitGives p.1 p.2) ∧
      ((ofSources tree o sources).1 = .ok () →
        ∀ u ∈ sources.units, ∀ r, o.isIrrelevant u = false →
          (Setting.ofSources tree o sources).UnitGives u r → (u, r) ∈ found) := by
  obtain ⟨found, records, origin, sound, complete⟩ := scanUnits_records (o := o)
    (s := { sources, result := { unitsSkipped := sources.failed.length } }) (.refl tree sources)
    sources.units
  refine ⟨found, ?_, origin, sound, ?_⟩
  · rw [ofSources]
    split
    · rename_i scanned
      rw [scanned] at records
      simpa [finish] using records
    · simpa using records
  · intro ended
    apply complete
    rw [ofSources] at ended
    split at ended
    · rename_i scanned
      rw [scanned]
    · exact ended

/-- A unit gives a record exactly if its entries can be searched, and then the record is that of
the first entry that leads to one. So the records of a set have ids, and come from different units
of the repository that are neither empty nor irrelevant; no such unit is left out if the scan ends
without a fault. What a registration is traced to is a definition of the same unit. -/
theorem scan_gives_record_iff (tree : FileTree) (o : ScanOptions) (sources : SourceSet) :
    (∀ u r,
      (∃ warnings, (SourceSet.run tree (unitRecord sources.units o u).collect sources).1 =
        .ok (.ok (some r), warnings)) ↔ (Setting.ofSources tree o sources).UnitGives u r) ∧
    ∃ found : List (SourceUnit × Record),
      (ofSources tree o sources).2.result.records = found.map Prod.snd ∧
      (found.map Prod.fst).Sublist sources.units ∧
      (∀ p ∈ found, o.isIrrelevant p.1 = false ∧ p.2.id ≠ "" ∧
        (Setting.ofSources tree o sources).UnitGives p.1 p.2) ∧
      ((ofSources tree o sources).1 = .ok () →
        ∀ u ∈ sources.units, ∀ r, o.isIrrelevant u = false →
          (Setting.ofSources tree o sources).UnitGives u r → (u, r) ∈ found) ∧
      (sources.IsLoaded tree →
        (found.map fun p => p.1.origin).Nodup ∧
        (∀ p ∈ found, ∃ index, p.1.origin = .repository index) ∧
        ∀ u ∈ sources.units, ∀ site D, Constructor.trace u site = .ok D →
          D ∈ Node.preorder u.body ∧ D.isDefinition = true) := by
  refine ⟨fun u r => run_unitRecord_iff, ?_⟩
  obtain ⟨found, records, origin, sound, complete⟩ := result_records_ofSources tree o sources
  refine ⟨found, records, origin, ?_, complete, ?_⟩
  · intro p member
    exact ⟨(sound p member).1, (sound p member).2.id_ne_empty, (sound p member).2⟩
  · intro loaded
    have origins := origin.map SourceUnit.origin
    rw [loaded.isOrderly.origins, List.map_map] at origins
    refine ⟨origins.nodup ?_, fun p member => ?_, fun u member site D traced => ?_⟩
    · exact List.Nodup.map (fun i j same => Origin.repository.inj same) List.nodup_range
    · obtain ⟨index, _, same⟩ := List.mem_map.mp (origins.mem (List.mem_map_of_mem member))
      exact ⟨index, same.symm⟩
    · exact Constructor.isDefinition_of_trace (loaded.isOrderly.texts u member) traced

end Scan

end Catalog
