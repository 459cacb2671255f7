import Catalog.Proofs.Scan.Sites
import Mathlib.Data.List.Forall2

/-!
# What comes of scanning a unit

The entries of a unit are searched one after another, and then the registrations found are tried
one after another until one gives a record. `Splits` and `Wins` describe the two loops without
their order of work: which entries have a registration, and which registration is the first to give
a record. Both loops leave one warning for each step that comes to nothing.
-/

namespace Catalog

open Syntax Tracing

namespace Setting

variable (c : Setting) (u : SourceUnit)

/-! ## One registration -/

/-- The registration is traced to a declaration whose first record is `record`. -/
def SiteGives (site : Registration) (record : Record) : Prop :=
  ∃ declaration, Constructor.trace u site = .ok declaration ∧
    c.FirstRecord u (Constructor.declaredBody declaration) record

/-- The registration gives no record, and `warning` says why: it is not traced to a declaration,
or the declaration holds no record. -/
def SiteFails (site : Registration) (warning : String) : Prop :=
  Constructor.trace u site = .error warning ∨
  ∃ declaration, Constructor.trace u site = .ok declaration ∧
    c.NoRecord u (Constructor.declaredBody declaration) ∧
    warning = Scan.emptyWarning c.options u declaration

/-- The registration is that of the entry. -/
def EntrySite (e : LoadEntry) (site : Registration) : Prop :=
  site.entry = e.name ∧ site.scope = e.scope ∧
    c.FirstRegistration u e.body site.call site.argument

/-- The entries with a registration give the sites, in their order; the others are `bare`. -/
inductive Splits : List LoadEntry → List Registration → List LoadEntry → Prop
  | nil : Splits [] [] []
  | site {e : LoadEntry} {site : Registration} {entries bare : List LoadEntry}
      {sites : List Registration} (found : c.EntrySite u e site)
      (rest : Splits entries sites bare) : Splits (e :: entries) (site :: sites) bare
  | bare {e : LoadEntry} {entries bare : List LoadEntry} {sites : List Registration}
      (nothing : c.NoRegistration u e.body) (rest : Splits entries sites bare) :
      Splits (e :: entries) sites (e :: bare)

/-- The record is that of the first of the sites, or there are no sites left and no record. -/
def Wins (sites : List Registration) : Option Record → Prop
  | some record => ∃ winner after, sites = winner :: after ∧ c.SiteGives u winner record
  | none => sites = []

variable {c u}

theorem recordOf_eq_ok_iff {site : Registration} {result : Except String Record} :
    (Scan.recordOf c.units c.options u site).answer c.known = .ok result ↔
      (∃ record, result = .ok record ∧ c.SiteGives u site record) ∨
      ∃ warning, result = .error warning ∧ c.SiteFails u site warning := by
  rw [Scan.recordOf]
  cases traced : Constructor.trace u site with
  | error warning => simp [SiteGives, SiteFails, traced, eq_comm]
  | ok declaration =>
    simp only
    rw [Query.answer_bind_eq_ok]
    constructor
    · rintro ⟨_ | record, found, given⟩
      · cases given
        exact .inr ⟨_, rfl, .inr ⟨declaration, traced, find?_eq_none_iff.mp found, rfl⟩⟩
      · cases given
        exact .inl ⟨record, rfl, declaration, traced, find?_eq_some_iff.mp found⟩
    · rintro (⟨record, rfl, _, traced', first⟩ | ⟨_, rfl, untraced | ⟨_, traced', nothing, rfl⟩⟩)
      · rw [traced] at traced'
        cases traced'
        exact ⟨some record, find?_eq_some_iff.mpr first, rfl⟩
      · rw [traced] at untraced
        cases untraced
      · rw [traced] at traced'
        cases traced'
        exact ⟨none, find?_eq_none_iff.mpr nothing, rfl⟩

/-! ## The two loops -/

/-- Entries that are functions; the entry of the module's own statements may do without a
registration. -/
def functionEntries (entries : List LoadEntry) : List LoadEntry :=
  entries.filter fun e => e.name != LoadEntry.moduleEntry

theorem functionEntries_cons (e : LoadEntry) (rest : List LoadEntry) :
    functionEntries (e :: rest) = functionEntries [e] ++ functionEntries rest :=
  List.filter_append (p := fun e : LoadEntry => e.name != LoadEntry.moduleEntry) [e] rest

/-- A function without a registration leaves a warning, and tracing goes on. -/
theorem gives_missing_iff {α : Type} {e : LoadEntry} {next : Tracing α} {a : α}
    {before after : List String} :
    Gives c.known
      (if e.name != LoadEntry.moduleEntry then do
        warn (Registration.missingWarning c.options u e)
        next
      else next) before a after ↔
      Gives c.known next
        (before ++ (functionEntries [e]).map (Registration.missingWarning c.options u)) a
        after := by
  by_cases function : e.name != LoadEntry.moduleEntry
  · rw [if_pos function, gives_bind_iff]
    simp [gives_warn_iff, functionEntries, function]
  · rw [if_neg function]
    simp [functionEntries, function]

theorem gives_ofEntries_iff {entries : List LoadEntry} {sites : List Registration}
    {before after : List String} :
    Gives c.known (Registration.ofEntries c.units c.options u entries) before sites after ↔
      ∃ bare, c.Splits u entries sites bare ∧
        after = before ++ (functionEntries bare).map (Registration.missingWarning c.options u) := by
  induction entries generalizing before sites after with
  | nil =>
    rw [Registration.ofEntries, gives_pure_iff]
    constructor
    · rintro ⟨rfl, rfl⟩
      exact ⟨[], .nil, by simp [functionEntries]⟩
    · rintro ⟨bare, split, rfl⟩
      cases split
      exact ⟨rfl, by simp [functionEntries]⟩
  | cons e rest ih =>
    rw [Registration.ofEntries, gives_bind_iff]
    constructor
    · rintro ⟨_ | ⟨call, argument⟩, middle, asked, more⟩
      · obtain ⟨nothing, rfl⟩ := gives_query_iff.mp asked
        obtain ⟨bare, split, rfl⟩ := ih.mp (gives_missing_iff.mp more)
        refine ⟨e :: bare, .bare (first?_eq_none_iff.mp nothing) split, ?_⟩
        rw [functionEntries_cons e bare, List.map_append, List.append_assoc]
      · obtain ⟨first, rfl⟩ := gives_query_iff.mp asked
        obtain ⟨sites, middle, more, last⟩ := gives_bind_iff.mp more
        obtain ⟨rfl, rfl⟩ := gives_pure_iff.mp last
        obtain ⟨bare, split, rfl⟩ := ih.mp more
        exact ⟨bare, .site ⟨rfl, rfl, first?_eq_some_iff.mp first⟩ split, rfl⟩
    · rintro ⟨bare, split, rfl⟩
      cases split with
      | @site _ site _ _ sites found split =>
        obtain ⟨entry, scope, call, argument⟩ := site
        obtain ⟨rfl, rfl, first⟩ := found
        refine ⟨some (call, argument), before, ?_, ?_⟩
        · exact gives_query_iff.mpr ⟨first?_eq_some_iff.mpr first, rfl⟩
        · exact gives_bind_iff.mpr
            ⟨sites, _, ih.mpr ⟨bare, split, rfl⟩, gives_pure_iff.mpr ⟨rfl, rfl⟩⟩
      | @bare _ _ bare _ nothing split =>
        refine ⟨none, before, ?_, ?_⟩
        · exact gives_query_iff.mpr ⟨first?_eq_none_iff.mpr nothing, rfl⟩
        · refine gives_missing_iff.mpr (ih.mpr ⟨bare, split, ?_⟩)
          rw [functionEntries_cons e bare, List.map_append, List.append_assoc]

theorem gives_firstRecord_iff {sites : List Registration} {record : Option Record}
    {before after : List String} :
    Gives c.known (Scan.firstRecord c.units c.options u sites) before record after ↔
      ∃ tried rest failures, sites = tried ++ rest ∧
        List.Forall₂ (c.SiteFails u) tried failures ∧ c.Wins u rest record ∧
        after = before ++ failures := by
  induction sites generalizing before with
  | nil =>
    rw [Scan.firstRecord, gives_pure_iff]
    constructor
    · rintro ⟨rfl, rfl⟩
      exact ⟨[], [], [], rfl, .nil, rfl, by simp⟩
    · rintro ⟨tried, rest, failures, split, fails, wins, rfl⟩
      obtain ⟨rfl, rfl⟩ := List.append_eq_nil_iff.mp split.symm
      cases fails
      cases record with
      | none => exact ⟨rfl, by simp⟩
      | some record =>
        obtain ⟨_, _, none, _⟩ := wins
        cases none
  | cons site sites ih =>
    rw [Scan.firstRecord, gives_bind_iff]
    constructor
    · rintro ⟨result, middle, asked, more⟩
      obtain ⟨tried, rfl⟩ := gives_query_iff.mp asked
      rcases recordOf_eq_ok_iff.mp tried with ⟨r, rfl, gives⟩ | ⟨warning, rfl, fails⟩
      · obtain ⟨rfl, rfl⟩ := gives_pure_iff.mp more
        exact ⟨[], site :: sites, [], rfl, .nil, ⟨site, sites, rfl, gives⟩, by simp⟩
      · obtain ⟨_, _, warned, more⟩ := gives_bind_iff.mp more
        obtain rfl := gives_warn_iff.mp warned
        obtain ⟨tried, rest, failures, rfl, allFail, wins, rfl⟩ := ih.mp more
        exact ⟨site :: tried, rest, warning :: failures, rfl, .cons fails allFail, wins,
          by simp⟩
    · rintro ⟨tried, rest, failures, split, allFail, wins, rfl⟩
      cases allFail with
      | nil =>
        cases record with
        | none =>
          cases split.trans wins
        | some r =>
          obtain ⟨winner, after, same, gives⟩ := wins
          cases split.trans same
          refine ⟨.ok r, before, ?_, gives_pure_iff.mpr ⟨rfl, by simp⟩⟩
          exact gives_query_iff.mpr ⟨recordOf_eq_ok_iff.mpr (.inl ⟨r, rfl, gives⟩), rfl⟩
      | @cons _ warning tried failures fails allFail =>
        cases split
        refine ⟨.error warning, before, ?_, ?_⟩
        · exact gives_query_iff.mpr
            ⟨recordOf_eq_ok_iff.mpr (.inr ⟨warning, rfl, fails⟩), rfl⟩
        · refine gives_bind_iff.mpr ⟨(), _, gives_warn_iff.mpr rfl, ih.mpr ?_⟩
          exact ⟨tried, rest, failures, rfl, allFail, wins, by simp⟩

/-! ## The scan of a unit -/

variable (c u)

/-- The course of a scan that ends with `record` and leaves `warnings`: the entries have
registrations or are bare, and the registrations are tried in turn until one wins. -/
structure Account (record : Option Record) (warnings : List String) where
  sites : List Registration
  bare : List LoadEntry
  tried : List Registration
  rest : List Registration
  failures : List String
  splits : c.Splits u (LoadEntry.all u c.options.initFunctions) sites bare
  order : sites = tried ++ rest
  fails : List.Forall₂ (c.SiteFails u) tried failures
  wins : c.Wins u rest record
  warned : warnings =
    (functionEntries bare).map (Registration.missingWarning c.options u) ++ failures

variable {c u}

/-- A scan of a unit ends without a fault exactly if there is such a course. -/
theorem gives_unitRecord_iff {record : Option Record} {warnings : List String} :
    Gives c.known (Scan.unitRecord c.units c.options u) [] record warnings ↔
      Nonempty (c.Account u record warnings) := by
  rw [Scan.unitRecord, gives_bind_iff]
  constructor
  · rintro ⟨sites, middle, found, first⟩
    obtain ⟨bare, splits, rfl⟩ := gives_ofEntries_iff.mp found
    obtain ⟨tried, rest, failures, order, fails, wins, rfl⟩ := gives_firstRecord_iff.mp first
    exact ⟨sites, bare, tried, rest, failures, splits, order, fails, wins, rfl⟩
  · rintro ⟨sites, bare, tried, rest, failures, splits, order, fails, wins, rfl⟩
    exact ⟨sites, _, gives_ofEntries_iff.mpr ⟨bare, splits, rfl⟩,
      gives_firstRecord_iff.mpr ⟨tried, rest, failures, order, fails, wins, rfl⟩⟩

namespace Account

variable {record : Option Record} {warnings : List String} (a : c.Account u record warnings)

theorem length_warnings :
    warnings.length = (functionEntries a.bare).length + a.tried.length := by
  have counted := congrArg List.length a.warned
  rw [List.length_append, List.length_map] at counted
  rw [counted, a.fails.length_eq]

/-- Without a record every registration was tried. -/
theorem tried_eq_sites (a : c.Account u none warnings) : a.tried = a.sites := by
  have last : a.rest = [] := a.wins
  rw [a.order, last, List.append_nil]

/-- A unit that registers something gives a record or leaves a warning. -/
theorem isSome_or_warnings_ne_nil (registers : a.sites ≠ []) :
    record.isSome ∨ warnings ≠ [] := by
  cases record with
  | some r => exact .inl rfl
  | none =>
    have counted := a.length_warnings
    have positive : 0 < a.tried.length := by
      rw [a.tried_eq_sites]
      exact List.length_pos_iff.mpr registers
    exact .inr (List.ne_nil_of_length_pos (by omega))

end Account

end Setting

/-- A scan of a unit that ends without a fault is accounted for: it leaves one warning for each
function without a registration and one for each registration that was tried in vain, and nothing
for the one that wins and those after it. -/
theorem Scan.warnings_accounted (tree : FileTree) (o : ScanOptions) (sources : SourceSet)
    (u : SourceUnit) (record : Option Record) (warnings : List String) :
    ((SourceSet.run tree (Scan.unitRecord sources.units o u).collect sources).1 =
        .ok (.ok record, warnings) ↔
      Nonempty ((Setting.ofSources tree o sources).Account u record warnings)) ∧
    ∀ a : (Setting.ofSources tree o sources).Account u record warnings,
      warnings.length = (Setting.functionEntries a.bare).length + a.tried.length ∧
      (a.sites ≠ [] → record.isSome ∨ warnings ≠ []) := by
  refine ⟨?_, fun a => ⟨a.length_warnings, a.isSome_or_warnings_ne_nil⟩⟩
  rw [← Setting.gives_unitRecord_iff]
  exact run_collect_iff

end Catalog
