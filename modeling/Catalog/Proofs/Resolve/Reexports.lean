import Catalog.Proofs.Resolve.Naming
import Catalog.Proofs.Resolve.Redirects
import Catalog.Proofs.Scan.Sites

/-!
# Re-exports

A package may offer a function that one of its modules defines, and other modules may offer it in
turn. The call of such a function and the configured target are followed through these imports from
different ends. They meet: following imports is idempotent, and a name whose imports lead through
the target ends where the target ends.
-/

namespace Catalog.Resolve

open Syntax

namespace Modules

variable (M : Modules)

/-- Imports lead from `q` to the name `r`, and no further. The empty text is no name. -/
structure EndsAt (q r : String) : Prop where
  leads : M.Leads q r
  final : M.Final r
  named : r ≠ ""

variable {M} {q target ends : String}

/-- Imports that end are followed to the end, if the loop allows for that many. -/
theorem answer_canonical_of_leads (leads : M.Leads q ends) (final : M.Final ends)
    (ending : (canonical M.units q).answer M.known ≠ .error .endless) :
    (canonical M.units q).answer M.known = .ok ends := by
  obtain ⟨passed, path⟩ := leads_iff.mp leads
  have distinct := path.nodup_of_final final
  by_cases short : passed.length < maxRedirects
  · exact canonical_eq_ok_iff.mpr ⟨passed, path, distinct, short, .inl final⟩
  · exact absurd (answer_canonicalFrom_of_long path distinct (by simp) (Nat.le_of_not_lt short))
      ending

/-- The target on the way ends where the whole way ends. -/
theorem EndsAt.answer_canonical (chain : M.EndsAt target ends) (passes : M.Leads q target)
    (ending : (canonical M.units q).answer M.known ≠ .error .endless) :
    (canonical M.units q).answer M.known = .ok ends ∧
      (canonical M.units target).answer M.known = .ok ends := by
  have whole := answer_canonical_of_leads (passes.trans chain.leads) chain.final ending
  refine ⟨whole, ?_⟩
  obtain ⟨passed, path, distinct, short, -⟩ := canonical_eq_ok_iff.mp whole
  obtain ⟨before, first⟩ := leads_iff.mp passes
  obtain ⟨after, second⟩ := leads_iff.mp chain.leads
  have same := path.eq_of_final (first.append second) chain.final chain.final
  refine canonical_eq_ok_iff.mpr
    ⟨after, second, second.nodup_of_final chain.final, ?_, .inl chain.final⟩
  rw [same, List.length_append] at short
  omega

end Modules

theorem endsIn_self {s : String} (named : s ≠ "") : Dotted.endsIn s s = true := by
  simp [Dotted.endsIn, named]

/-- The name where a target ends denotes the target. -/
theorem answer_matchesTarget {units : List SourceUnit}
    {known : String → Except Fault (Option SourceUnit)} {target ends : String}
    (resolved : (canonical units target).answer known = .ok ends) (named : ends ≠ "") :
    (matchesTarget units (some ends) target).answer known = .ok true := by
  rw [matchesTarget, if_neg (by simpa using named)]
  split
  · rfl
  · rename_i other
    have moved : ends ≠ target := by
      rintro rfl
      exact other (endsIn_self named)
    rw [Query.answer_bind_eq_ok]
    refine ⟨ends, resolved, ?_⟩
    simp [moved, endsIn_self named]

/-- The node is a name that nothing binds but an import of `q`. -/
def NamesImport (u : SourceUnit) (func : Node) (q : String) : Prop :=
  ∃ info id context ref b, func = .name info id context ∧ u.symbolFor? info.id id = some ref ∧
    definite? u ref = some b ∧ b.form = .imported q

theorem namesImport_of_target? {u : SourceUnit} {info : Info} {id q : String}
    (only : ((u.symbolFor? info.id id).bind (definite? u)).bind (·.form.target?) = some q)
    (context : Context) : NamesImport u (.name info id context) q := by
  obtain ⟨b, bound, target⟩ := Option.bind_eq_some_iff.mp only
  obtain ⟨ref, place, definite⟩ := Option.bind_eq_some_iff.mp bound
  exact ⟨info, id, context, ref, b, rfl, place, definite, Modules.target?_eq_some_iff.mp target⟩

theorem NamesImport.answer_qualifiedName {units : List SourceUnit}
    {known : String → Except Fault (Option SourceUnit)} {u : SourceUnit} {func : Node} {q : String}
    (imports : NamesImport u func q) :
    (qualifiedName units u func).answer known =
      ((canonical units q).answer known).map some := by
  obtain ⟨info, id, context, ref, b, rfl, place, only, form⟩ := imports
  rw [qualifiedName_imported place only form, Query.answer_bind]
  cases (canonical units q).answer known <;> rfl

theorem NamesImport.denotes {c : Setting} {u : SourceUnit} {func : Node}
    {q target ends : String} (imports : NamesImport u func q)
    (whole : (canonical c.units q).answer c.known = .ok ends)
    (matched : (matchesTarget c.units (some ends) target).answer c.known = .ok true) :
    c.denotes u func target = .ok true := by
  rw [Setting.denotes, Query.answer_bind_eq_ok]
  refine ⟨some ends, ?_, matched⟩
  rw [imports.answer_qualifiedName, whole]
  rfl

/-- A call that denotes the metadata class gives what its arguments give. -/
theorem answer_ofNode?_of_denotes {c : Setting} {u : SourceUnit} {func : Node} {target : String}
    (denotes : c.denotes u func target = .ok true) (info : Info) (args keywords : List Node) :
    (Metadata.ofNode? c.units target u (.call info func args keywords)).answer c.known =
      (Metadata.ofArguments? c.units u keywords).answer c.known := by
  rw [Metadata.ofNode?, ← bind_assoc, Query.answer_bind]
  rw [Setting.denotes] at denotes
  rw [denotes]
  rfl

open Modules in
/-- Following imports twice is following them once, also where they run in a circle. A name whose
imports lead through a configured target denotes the target wherever its own imports end. So a call
is one of the registry's function, or of the metadata class, if its function is a name that nothing
binds but an import of such a name. -/
theorem reexports_keep_target (tree : FileTree) (o : ScanOptions) (sources : SourceSet) :
    (∀ limit q,
      (SourceSet.run tree (do
          let r ← canonicalFrom sources.units limit [] q
          canonicalFrom sources.units limit [] r) sources).1 =
        (SourceSet.run tree (canonicalFrom sources.units limit [] q) sources).1) ∧
    ∀ target ends q, (ofSources tree sources).EndsAt target ends →
      (ofSources tree sources).Leads q target →
      (SourceSet.run tree (canonical sources.units q) sources).1 ≠ .error .endless →
      (SourceSet.run tree (do
          let r ← canonical sources.units q
          matchesTarget sources.units (some r) target) sources).1 = .ok true ∧
      ∀ u func, NamesImport u func q →
        (SourceSet.run tree (do
            let r ← qualifiedName sources.units u func
            matchesTarget sources.units r target) sources).1 = .ok true ∧
        (target = o.registerTarget → ∀ info argument more keywords, Setting.IsSingle argument →
          (SourceSet.run tree (Registration.argument? sources.units o u
            (.call info func (argument :: more) keywords)) sources).1 =
            .ok (some (.call info func (argument :: more) keywords, argument))) ∧
        (target = o.metadataTarget → ∀ info args keywords,
          (SourceSet.run tree (Metadata.ofNode? sources.units o.metadataTarget u
            (.call info func args keywords)) sources).1 =
            (SourceSet.run tree (Metadata.ofArguments? sources.units u keywords) sources).1) := by
  refine ⟨fun limit q => ?_, fun target ends q chain passes ending => ?_⟩
  · rw [SourceSet.run_fst, SourceSet.run_fst, Query.answer_bind]
    cases ended : (canonicalFrom sources.units limit [] q).answer (sources.answers tree) with
    | error cause => rfl
    | ok r => exact canonicalFrom_idem (M := ofSources tree sources) ended
  · rw [SourceSet.run_fst] at ending
    obtain ⟨whole, resolved⟩ := chain.answer_canonical passes ending
    have matched := answer_matchesTarget resolved chain.named
    refine ⟨?_, fun u func imports => ?_⟩
    · rw [SourceSet.run_fst, Query.answer_bind_eq_ok]
      exact ⟨ends, whole, matched⟩
    · have denotes := imports.denotes (c := Setting.ofSources tree o sources) whole matched
      refine ⟨(SourceSet.run_fst ..).trans denotes, ?_, ?_⟩
      · rintro rfl info argument more keywords single
        rw [SourceSet.run_fst]
        exact (Setting.argument?_eq_some_iff (c := Setting.ofSources tree o sources)).mpr
          ⟨rfl, info, func, more, keywords, rfl, single, denotes⟩
      · rintro rfl info args keywords
        rw [SourceSet.run_fst, SourceSet.run_fst]
        exact answer_ofNode?_of_denotes denotes info args keywords

/-- A registry whose function is defined in a module of its package, and a module that calls it
under a name that another module gave it. -/
def registry : SourceSet :=
  .ofTexts [("meloshub/adapter/__init__.py", "from .core import register\n"),
    ("meloshub/adapter/core.py", "def register(x):\n    pass\n"),
    ("kit.py", "from meloshub.adapter import register as reg\n"),
    ("p.py", "from kit import reg\nreg(1)\n")]

open Modules in
theorem reexports_keep_target_registry :
    (ofSources default registry).EndsAt "meloshub.adapter.register"
      "meloshub.adapter.core.register" ∧
    (ofSources default registry).Leads "kit.reg" "meloshub.adapter.register" ∧
    (SourceSet.run default (canonical registry.units "kit.reg") registry).1 ≠ .error .endless ∧
    ∃ u ∈ registry.units, NamesImport u (.name ⟨5, 2⟩ "reg" .load) "kit.reg" ∧
      (SourceSet.run default (Registration.argument? registry.units {} u
        (.call ⟨4, 2⟩ (.name ⟨5, 2⟩ "reg" .load) [.constant ⟨6, 2⟩ none] [])) registry).1 =
        .ok (some (.call ⟨4, 2⟩ (.name ⟨5, 2⟩ "reg" .load) [.constant ⟨6, 2⟩ none] [],
          .constant ⟨6, 2⟩ none)) := by
  have facts :
      (redirect? registry.units "kit.reg").answer (registry.answers default) =
        .ok (some "meloshub.adapter.register") ∧
      (redirect? registry.units "meloshub.adapter.register").answer (registry.answers default) =
        .ok (some "meloshub.adapter.core.register") ∧
      (redirect? registry.units "meloshub.adapter.core.register").answer
        (registry.answers default) = .ok none ∧
      (canonical registry.units "kit.reg").answer (registry.answers default) =
        .ok "meloshub.adapter.core.register" ∧
      registry.units.any fun u =>
        ((u.symbolFor? 5 "reg").bind (definite? u)).bind (·.form.target?) == some "kit.reg" := by
    decide +kernel
  obtain ⟨first, second, final, whole, callee⟩ := facts
  have chain : (ofSources default registry).EndsAt "meloshub.adapter.register"
      "meloshub.adapter.core.register" := ⟨.single second, final, by decide⟩
  have passes : (ofSources default registry).Leads "kit.reg" "meloshub.adapter.register" :=
    .single first
  have ending : (SourceSet.run default (canonical registry.units "kit.reg") registry).1 ≠
      .error .endless := by
    rw [SourceSet.run_fst, whole]
    exact fun failed => by cases failed
  obtain ⟨u, member, only⟩ := List.any_eq_true.mp callee
  have imports : NamesImport u (.name ⟨5, 2⟩ "reg" .load) "kit.reg" :=
    namesImport_of_target? (beq_iff_eq.mp only) .load
  have registers := ((reexports_keep_target default {} registry).2 _ _ _ chain passes
    ending).2 u _ imports
  exact ⟨chain, passes, ending, u, member, imports,
    registers.2.1 (by decide) ⟨4, 2⟩ (.constant ⟨6, 2⟩ none) [] [] (by simp [Setting.IsSingle])⟩

end Catalog.Resolve
