import Catalog.Proofs.Resolve.Reexports
import Catalog.Proofs.Scope.Modules
import Catalog.Proofs.Source.Reached

/-!
# Imported names and what they denote at home

A name that is imported from a module should denote what it denotes there. At home a name is
followed through imports and through aliases, from abroad through imports only. So the two agree
for what the module defines itself, and for what it imports and hands on; an alias keeps the name
that it has in its module.

There are two more ways to differ. The imported name may be that of a module, which comes first.
And the imports of the home module may lead back to it: then the circle is entered one name later.
-/

namespace Catalog

open Syntax

namespace Dotted

theorem ofSegments_pair (m n : String) : ofSegments [m, n] = m ++ "." ++ n := by
  rw [ofSegments, Text.join_cons_cons, Text.join_singleton]

end Dotted

namespace SourceUnit

/-- The scope of a module, with nothing around it. -/
theorem moduleScope_of_isRead {u : SourceUnit} (read : u.IsRead) :
    ∃ s, u.scopes.get? ScopeTable.moduleScope = some s ∧ s.kind = .module ∧ s.outer = [] := by
  obtain ⟨origin, path, identity, source, m, parsed, rfl⟩ := read
  have steps : Reads (Node.preorder m.body) { kind := .module } (Node.nodes m.body)
      (Node.stepsList identity.package none m.body) :=
    Node.reads_module (Module.shaped_of_parse parsed)
  have fits : (ScopeBuilder.start identity.name m.body).Fits { kind := .module } :=
    ScopeBuilder.start_fits
  obtain ⟨t, ran, more⟩ := steps.run fits
  obtain ⟨s, top, grows⟩ := more.scopes ScopeTable.moduleScope _ rfl
  have table : (ofModule origin path identity m).scopes = t := congrArg ScopeBuilder.table ran
  rw [table]
  exact ⟨s, top, grows.kind, grows.outer⟩

/-- There is nothing around the scope of a module. -/
theorem path_moduleScope {u : SourceUnit} (read : u.IsRead) :
    (u.scopes.path ScopeTable.moduleScope).drop 1 = [] := by
  obtain ⟨s, top, -, around⟩ := moduleScope_of_isRead read
  rw [ScopeTable.path, top]
  simp [around]

end SourceUnit

namespace Resolve

/-- What a module defines at its top has the name of the module before its own. -/
theorem scopeQualname_atTop {u : SourceUnit} (read : u.IsRead) {n : String}
    (module : u.moduleName ≠ "") (named : n ≠ "") :
    scopeQualname u (atTop n) = u.moduleName ++ "." ++ n := by
  have around : (u.scopes.path (atTop n).scope).drop 1 = [] := SourceUnit.path_moduleScope read
  rw [scopeQualname, around, ← Dotted.ofSegments_pair]
  simp [atTop, module, named]

section

variable {units : List SourceUnit} {known : String → Except Fault (Option SourceUnit)}
variable {u : SourceUnit} {ref : SymbolRef} {b : Binding}

/-- Only what is bound in one way denotes anything. -/
theorem exists_definite?_of_symbolQualname {Q : String}
    (denotes : (symbolQualname units u ref).answer known = .ok (some Q)) :
    ∃ b, definite? u ref = some b := by
  cases only : definite? u ref with
  | none =>
    rw [definite?] at only
    simp [symbolQualname, maxNesting, symbolName, only] at denotes
  | some b => exact ⟨b, rfl⟩

theorem symbolQualname_imported {t : String} (only : definite? u ref = some b)
    (form : b.form = .imported t) :
    symbolQualname units u ref = (do return some (← canonical units t)) :=
  symbolName_imported only form 959 []

theorem symbolQualname_declared (only : definite? u ref = some b)
    (declares : b.form.isDeclaration = true) :
    symbolQualname units u ref = return some (scopeQualname u ref) :=
  symbolName_declared only declares 959 []

end

namespace Modules

variable {M : Modules} {m n : String} {home : SourceUnit}

/-! ## The first step from an imported name -/

theorem ofSegments_segments_append (m : String) {tail : List String}
    (plain : ∀ s ∈ tail, Dotted.IsPlain s) :
    Dotted.ofSegments (Dotted.segments m ++ tail) = Dotted.ofSegments (m :: tail) := by
  rw [← Dotted.segments_ofSegments m plain, Dotted.ofSegments_segments]

/-- A name below a module of the repository is looked for in this module, if no longer part of it
is the name of a module. -/
theorem splits_ofSegments {tail : List String} (plain : ∀ s ∈ tail, Dotted.IsPlain s)
    (found : indexed? M.units m = some home)
    (free : ∀ front, front <+: tail → front ≠ [] →
      indexed? M.units (Dotted.ofSegments (m :: front)) = none) :
    M.Splits (Dotted.ofSegments (m :: tail)) home tail := by
  obtain ⟨shorter, more⟩ := cuts_eq_cons m
  have cut := cuts_ofSegments m plain
  rw [more, List.map_cons, List.nil_append] at cut
  refine splits_iff.mpr (.inl ⟨_, m, _, cut, found, fun c member => ?_⟩)
  obtain ⟨k, inside, rfl⟩ := List.mem_map.mp member
  have longer := List.mem_range.mp inside
  have front := List.take_prefix (tail.length - k) tail
  dsimp only
  rw [ofSegments_segments_append m fun s known => plain s (front.mem known)]
  refine free _ front (List.ne_nil_of_length_pos ?_)
  rw [List.length_take]
  omega

/-- A member of a module of the repository is looked for in this module. -/
theorem splits_member (plain : Dotted.IsPlain n) (found : indexed? M.units m = some home)
    (free : indexed? M.units (m ++ "." ++ n) = none) : M.Splits (m ++ "." ++ n) home [n] := by
  rw [← Dotted.ofSegments_pair] at free ⊢
  refine splits_ofSegments (List.forall_mem_singleton.mpr plain) found fun front first longer => ?_
  rcases List.prefix_cons_iff.mp first with rfl | ⟨more, rfl, last⟩
  · exact absurd rfl longer
  · rw [List.prefix_nil.mp last, free]

theorem final_of_indexed? {q : String} {u : SourceUnit} (found : indexed? M.units q = some u) :
    M.Final q := by
  obtain ⟨shorter, cut⟩ := cuts_eq_cons q
  have split : M.Splits q u [] := splits_iff.mpr (.inl ⟨[], q, shorter, cut, found, by simp⟩)
  rw [Final, redirect?, Query.answer_bind_eq_ok]
  exact ⟨some (u, []), split, rfl⟩

theorem step_of_import {q t : String} {b : Binding} (split : M.Splits q home [n])
    (only : definite? home (atTop n) = some b) (form : b.form = .imported t) : M.Step q t := by
  rw [definite?_atTop] at only
  obtain ⟨symbol, bound, only⟩ := Option.bind_eq_some_iff.mp only
  refine step_iff.mpr ⟨t, [], ⟨home, n, split, .own bound only form⟩, ?_⟩
  rw [Dotted.ofSegments, Text.join_singleton]

/-- A name whose first segment in its module is not imported is no import. -/
theorem final_of_top {q : String} {rest : List String} {top : Symbol}
    (split : M.Splits q home (n :: rest)) (bound : home.topSymbol? n = some top)
    (stays : ∀ b t, top.definite? = some b → b.form ≠ .imported t) : M.Final q := by
  have untargeted : (top.definite?.bind fun b => b.form.target?) = none := by
    rw [Option.eq_none_iff_forall_not_mem]
    intro t member
    obtain ⟨b, only, target⟩ := Option.bind_eq_some_iff.mp member
    exact stays b t only (target?_eq_some_iff.mp target)
  rw [Final, redirect?, Query.answer_bind_eq_ok]
  refine ⟨some (home, n :: rest), split, ?_⟩
  simp [bound, untargeted]

theorem final_of_not_import {q : String} {b : Binding} (split : M.Splits q home [n])
    (only : definite? home (atTop n) = some b) (form : ∀ t, b.form ≠ .imported t) :
    M.Final q := by
  rw [definite?_atTop] at only
  obtain ⟨symbol, bound, only⟩ := Option.bind_eq_some_iff.mp only
  refine final_of_top split bound fun b' t only' => ?_
  cases only.symm.trans only'
  exact form t

/-! ## Where the imports lead -/

theorem canonical_of_final {q : String} (final : M.Final q) :
    (canonical M.units q).answer M.known = .ok q :=
  canonical_eq_ok_iff.mpr ⟨[], .here q, List.nodup_nil, by decide, .inl final⟩

/-- Where a path ends, all names that it leads to are on it. -/
theorem Path.mem_of_leads {p q r : String} {passed : List String} (path : M.Path p passed r)
    (last : M.Final r ∨ r ∈ passed) (leads : M.Leads p q) : q ∈ passed ∨ q = r := by
  have passes {q next : String} (inside : q ∈ passed) (step : M.Step q next) :
      next ∈ passed ∨ next = r := by
    obtain ⟨before, after, rfl, -, rest⟩ := path.split inside
    cases rest with
    | step first more =>
      cases first.unique step
      cases more with
      | here => exact .inr rfl
      | step => exact .inl (by simp)
  induction leads with
  | refl =>
    cases path with
    | here => exact .inr rfl
    | step => exact .inl List.mem_cons_self
  | tail _ step ih =>
    rcases ih with inside | rfl
    · exact passes inside step
    · rcases last with final | inside
      · exact absurd step final.not_step
      · exact passes inside step

/-- An import is followed like its target, if that does not lead back to it. -/
theorem canonical_of_step {p t r : String} (step : M.Step p t) (away : ¬ M.Leads t p)
    (ended : (canonical M.units t).answer M.known = .ok r)
    (ending : (canonical M.units p).answer M.known ≠ .error .endless) :
    (canonical M.units p).answer M.known = .ok r := by
  obtain ⟨passed, path, distinct, short, last⟩ := canonical_eq_ok_iff.mp ended
  have new : p ∉ passed := by
    intro member
    obtain ⟨before, _, _, back, _⟩ := path.split member
    exact away (leads_iff.mpr ⟨before, back⟩)
  have distinct' : (p :: passed).Nodup := List.nodup_cons.mpr ⟨new, distinct⟩
  by_cases longer : (p :: passed).length < maxRedirects
  · refine canonical_eq_ok_iff.mpr ⟨p :: passed, .step step path, distinct', longer, ?_⟩
    exact last.imp_right (List.mem_cons_of_mem p)
  · exact absurd (answer_canonicalFrom_of_long (.step step path) distinct' (by simp)
      (Nat.le_of_not_lt longer)) ending

/-- An import whose target leads back to it is on a circle, and stands for itself. -/
theorem canonical_of_circle {p t r : String} (step : M.Step p t) (back : M.Leads t p)
    (ended : (canonical M.units t).answer M.known = .ok r) :
    (canonical M.units p).answer M.known = .ok p := by
  obtain ⟨passed, path, distinct, short, last⟩ := canonical_eq_ok_iff.mp ended
  have inside : p ∈ passed := by
    rcases path.mem_of_leads last back with inside | rfl
    · exact inside
    · exact last.resolve_left fun final => final.not_step step
  -- from the import to its target and along the way back is one round
  obtain ⟨before, after, rfl, round, -⟩ := path.split inside
  obtain ⟨distinct, -, apart⟩ := List.nodup_append.mp distinct
  have new : p ∉ before := fun member => apart p member p List.mem_cons_self rfl
  refine canonical_eq_ok_iff.mpr ⟨p :: before, .step step round,
    List.nodup_cons.mpr ⟨new, distinct⟩, ?_, .inr List.mem_cons_self⟩
  simp only [List.length_append, List.length_cons] at short ⊢
  omega

variable (M)

/-- The module hands on what it imports under the name: nothing else binds the name, the import
does not lead back to it, and no module has the name. -/
def HandsOn (home : SourceUnit) (m n : String) : Prop :=
  indexed? M.units (m ++ "." ++ n) = none ∧
    ∃ b t, definite? home (atTop n) = some b ∧ b.form = .imported t ∧
      ¬ M.Leads t (m ++ "." ++ n)

variable {M}

/-- A name that is imported from a module of the repository denotes what the module hands on, or
else stands for itself. -/
theorem answer_canonical_member {Q : String} (plain : Dotted.IsPlain n)
    (found : indexed? M.units m = some home)
    (denotes : (symbolQualname M.units home (atTop n)).answer M.known = .ok (some Q))
    (ending : (canonical M.units (m ++ "." ++ n)).answer M.known ≠ .error .endless) :
    (M.HandsOn home m n → (canonical M.units (m ++ "." ++ n)).answer M.known = .ok Q) ∧
    (¬ M.HandsOn home m n →
      (canonical M.units (m ++ "." ++ n)).answer M.known = .ok (m ++ "." ++ n)) := by
  cases free : indexed? M.units (m ++ "." ++ n) with
  | some u =>
    refine ⟨fun handsOn => ?_, fun _ => canonical_of_final (final_of_indexed? free)⟩
    rw [HandsOn, free] at handsOn
    cases handsOn.1
  | none =>
    have split := splits_member plain found free
    obtain ⟨b, only⟩ := exists_definite?_of_symbolQualname denotes
    by_cases imports : ∃ t, b.form = .imported t
    · obtain ⟨t, form⟩ := imports
      have step := step_of_import split only form
      rw [symbolQualname_imported only form, Query.answer_bind_eq_ok] at denotes
      obtain ⟨_, ended, same⟩ := denotes
      cases same
      constructor
      · rintro ⟨-, b', t', only', form', away⟩
        cases form_unique only form only' form'
        exact canonical_of_step step away ended ending
      · intro stays
        refine canonical_of_circle step ?_ ended
        by_contra away
        exact stays ⟨free, b, t, only, form, away⟩
    · have final := final_of_not_import split only fun t form => imports ⟨t, form⟩
      refine ⟨?_, fun _ => canonical_of_final final⟩
      rintro ⟨-, b', t', only', form', -⟩
      cases only.symm.trans only'
      exact absurd ⟨t', form'⟩ imports

end Modules

open Modules in
/-- A name that is bound by an import of `n` from the module `m` only, and `n` denotes `Q` in `m`.
Then the name denotes `Q` exactly if the module hands on what it imports as `n`, or if `Q` is the
qualified name of `n` itself; otherwise it denotes just this name. What the module defines has this
name, so definitions always denote what they denote at home. -/
theorem imported_denotes_iff (tree : FileTree) (sources : SourceSet)
    (reached : sources.Reached tree) {u home : SourceUnit} {m n Q : String} {func : Node}
    (segment : Dotted.IsSegment n) (imports : NamesImport u func (m ++ "." ++ n))
    (found : indexed? sources.units m = some home)
    (denotes : (SourceSet.run tree (symbolQualname sources.units home (atTop n)) sources).1 =
      .ok (some Q))
    (ending : (SourceSet.run tree (qualifiedName sources.units u func) sources).1 ≠
      .error .endless) :
    ((SourceSet.run tree (qualifiedName sources.units u func) sources).1 = .ok (some Q) ↔
      (ofSources tree sources).HandsOn home m n ∨ Q = m ++ "." ++ n) ∧
    (¬ (ofSources tree sources).HandsOn home m n →
      (SourceSet.run tree (qualifiedName sources.units u func) sources).1 =
        .ok (some (m ++ "." ++ n))) ∧
    ∀ b, definite? home (atTop n) = some b → b.form.isDeclaration = true → Q = m ++ "." ++ n := by
  have name : (qualifiedName sources.units u func).answer (sources.answers tree) =
      ((canonical sources.units (m ++ "." ++ n)).answer (sources.answers tree)).map some :=
    imports.answer_qualifiedName
  rw [SourceSet.run_fst, name] at ending
  rw [SourceSet.run_fst] at denotes
  rw [SourceSet.run_fst, name]
  obtain ⟨handed, kept⟩ := answer_canonical_member (M := ofSources tree sources) segment.plain found
    denotes (fun failed => ending (congrArg (Except.map some) failed))
  refine ⟨?_, fun stays => congrArg (Except.map some) (kept stays), fun b only declares => ?_⟩
  · constructor
    · intro same
      by_cases handsOn : (ofSources tree sources).HandsOn home m n
      · exact .inl handsOn
      · have other := congrArg (Except.map some) (kept handsOn)
        exact .inr (Option.some.inj (Except.ok.inj (same.symm.trans other)))
    · intro agrees
      by_cases handsOn : (ofSources tree sources).HandsOn home m n
      · exact congrArg (Except.map some) (handed handsOn)
      · rw [agrees.resolve_left handsOn]
        exact congrArg (Except.map some) (kept handsOn)
  · obtain ⟨member, rfl, module⟩ := mem_of_indexed? (M := ofSources tree sources) found
    rw [symbolQualname_declared only declares] at denotes
    have read := isRead_of_has reached (has_of_mem member)
    rw [← scopeQualname_atTop read module segment.named]
    exact (Option.some.inj (Except.ok.inj denotes)).symm

/-- A module with an alias, and one that imports it. -/
def aliased : List (String × String) :=
  [("m.py", "from meloshub import adapter\nMeta = adapter.Metadata\n"),
    ("u.py", "from m import Meta\nMeta\n")]

theorem imported_denotes_iff_alias :
    (SourceSet.ofTexts aliased).Reached (FileTree.ofTexts aliased) ∧
    ∃ u home, indexed? (SourceSet.ofTexts aliased).units "m" = some home ∧
      NamesImport u (.name ⟨4, 2⟩ "Meta" .load) ("m" ++ "." ++ "Meta") ∧
      (SourceSet.run (FileTree.ofTexts aliased)
        (symbolQualname (SourceSet.ofTexts aliased).units home (atTop "Meta"))
        (SourceSet.ofTexts aliased)).1 = .ok (some "meloshub.adapter.Metadata") ∧
      ¬ (Modules.ofSources (FileTree.ofTexts aliased) (SourceSet.ofTexts aliased)).HandsOn
        home "m" "Meta" ∧
      (SourceSet.run (FileTree.ofTexts aliased)
        (qualifiedName (SourceSet.ofTexts aliased).units u (.name ⟨4, 2⟩ "Meta" .load))
        (SourceSet.ofTexts aliased)).1 = .ok (some ("m" ++ "." ++ "Meta")) := by
  have facts :
      (∀ f ∈ aliased.zipIdx, (SourceUnit.parse ["."] f.2 f.1.1 f.1.2).isOk = true) ∧
      ((indexed? (SourceSet.ofTexts aliased).units "m").any fun home =>
        (definite? home (atTop "Meta")).any (fun b => b.form.target? == none) &&
        (symbolQualname (SourceSet.ofTexts aliased).units home (atTop "Meta")).answer
          (fun _ => .ok none) = .ok (some "meloshub.adapter.Metadata")) ∧
      (SourceSet.ofTexts aliased).units.any fun u =>
        ((u.symbolFor? 4 "Meta").bind (definite? u)).bind (·.form.target?) == some "m.Meta" &&
        (qualifiedName (SourceSet.ofTexts aliased).units u (.name ⟨4, 2⟩ "Meta" .load)).answer
          (fun _ => .ok none) = .ok (some "m.Meta") := by
    decide +kernel
  obtain ⟨parsed, atHome, abroad⟩ := facts
  have reached := SourceSet.reached_ofTexts (by decide) (by decide +kernel) parsed
  obtain ⟨home, found, holds⟩ := (Option.any_eq_true ..).mp atHome
  obtain ⟨own, denotes⟩ := Bool.and_eq_true_iff.mp holds
  obtain ⟨b, only, form⟩ := (Option.any_eq_true ..).mp own
  obtain ⟨u, member, holds⟩ := List.any_eq_true.mp abroad
  obtain ⟨import_, name⟩ := Bool.and_eq_true_iff.mp holds
  have imports : NamesImport u (.name ⟨4, 2⟩ "Meta" .load) ("m" ++ "." ++ "Meta") :=
    namesImport_of_target? (beq_iff_eq.mp import_) .load
  have denotes' : (SourceSet.run (FileTree.ofTexts aliased)
      (symbolQualname (SourceSet.ofTexts aliased).units home (atTop "Meta"))
      (SourceSet.ofTexts aliased)).1 = .ok (some "meloshub.adapter.Metadata") := by
    rw [SourceSet.run_fst, SourceSet.answers_ofTexts]
    exact of_decide_eq_true denotes
  have ending : (SourceSet.run (FileTree.ofTexts aliased)
      (qualifiedName (SourceSet.ofTexts aliased).units u (.name ⟨4, 2⟩ "Meta" .load))
      (SourceSet.ofTexts aliased)).1 ≠ .error .endless := by
    rw [SourceSet.run_fst, SourceSet.answers_ofTexts, of_decide_eq_true name]
    exact fun failed => by cases failed
  have stays : ¬ (Modules.ofSources (FileTree.ofTexts aliased)
      (SourceSet.ofTexts aliased)).HandsOn home "m" "Meta" := by
    rintro ⟨-, b', t, only', form', -⟩
    cases only.symm.trans only'
    rw [form'] at form
    cases form
  exact ⟨reached, u, home, found, imports, denotes', stays,
    (imported_denotes_iff _ _ reached ⟨by decide, by decide⟩ imports found denotes' ending).2.1
      stays⟩

end Resolve

end Catalog
