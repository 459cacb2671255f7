import Catalog.Proofs.Resolve.Courses
import Catalog.Proofs.Source.Reached

/-!
# Constants are evaluated by the rules

The evaluation of a constant keeps track of the symbols on its way and gives up at one that it
meets again. By induction on the depth, each value that is found has a derivation, and each failure
comes from a dependency that cannot be found out; by induction on derivations, each value that has
one is found. The symbols on the way never stand in the way of a value: a derivation that met a
symbol again would have no end.
-/

namespace Catalog.Resolve

open Syntax

namespace Modules

variable {M : Modules} {fuel : Nat} {seen : List SymbolKey}

/-! ## Values and derivations -/

variable {s t : Term}

/-- A value that is found has a derivation. -/
theorem evaluates_of_value {value : String} (deep : fuel ≤ maxNesting)
    (given : (s.value M.units fuel seen).answer M.known = .ok (some value)) :
    M.Evaluates s value := by
  induction fuel using Nat.strong_induction_on generalizing seen s value with
  | _ fuel ih =>
    cases course deep given nofun with
    | text u info value => exact .text u info value
    | sum u info left right smaller sides =>
      obtain ⟨a, b, first, second, joined⟩ := sumOutcome_eq_ok sides.symm
      obtain ⟨a, b, rfl, rfl, rfl⟩ := Option.map₂_eq_some_iff.mp joined.symm
      have deep' := Nat.le_of_lt (smaller.trans_le deep)
      exact .sum info (ih _ smaller deep' first) (ih _ smaller deep' second)
    | refers _ smaller refers there =>
      exact .refers refers (ih _ smaller (Nat.le_of_lt (smaller.trans_le deep)) there.symm)

/-- A failure comes from something that the term depends on. -/
theorem faults_of_error {cause : Fault} (deep : fuel ≤ maxNesting)
    (given : (s.value M.units fuel seen).answer M.known = .error cause)
    (shallow : cause ≠ .tooDeep) :
    ∃ t, Relation.ReflTransGen M.Needs s t ∧ M.Faults t cause := by
  induction fuel using Nat.strong_induction_on generalizing seen s with
  | _ fuel ih =>
    cases course deep given (fun same => shallow (Except.error.inj same)) with
    | sum u info left right smaller sides =>
      have deep' := Nat.le_of_lt (smaller.trans_le deep)
      rcases sumOutcome_eq_error sides.symm with failed | failed
      · obtain ⟨t, needs, faults⟩ := ih _ smaller deep' failed
        exact ⟨t, needs.head (.left u info left right), faults⟩
      · obtain ⟨t, needs, faults⟩ := ih _ smaller deep' failed
        exact ⟨t, needs.head (.right u info left right), faults⟩
    | refers _ smaller refers there =>
      obtain ⟨t, needs, faults⟩ := ih _ smaller (Nat.le_of_lt (smaller.trans_le deep)) there.symm
      exact ⟨t, needs.head (.refers refers), faults⟩
    | faults _ faults => exact ⟨s, .refl, faults⟩

variable (M)

/-- Units are known by their origins. -/
def Distinct : Prop := ∀ u v, M.Has u → M.Has v → u.origin = v.origin → u = v

variable {M}

theorem Distinct.eq_of_key (distinct : M.Distinct) (first : M.Has s.unit) (second : M.Has t.unit)
    {key : SymbolKey} (noted : key ∈ s.key?) (noted' : key ∈ t.key?) : s = t := by
  cases s with
  | expr => cases noted
  | symbol u ref =>
    cases t with
    | expr => cases noted'
    | symbol v ref' =>
      have same := (Option.mem_some_iff.mp noted).trans (Option.mem_some_iff.mp noted').symm
      cases distinct u v first second (congrArg SymbolKey.origin same)
      cases congrArg SymbolKey.symbol same
      rfl

theorem has_of_needs (has : M.Has s.unit) (needs : Relation.ReflTransGen M.Needs s t) :
    M.Has t.unit := by
  induction needs with
  | refl => exact has
  | tail _ step ih => exact step.has ih

/-- A value that has a derivation is found, whatever was met before, as long as the term does not
depend on it. -/
theorem value_of_evaluates (distinct : M.Distinct) {value : String}
    (evaluates : M.Evaluates s value) (deep : fuel ≤ maxNesting) (has : M.Has s.unit)
    (new : ∀ t, Relation.ReflTransGen M.Needs s t → t.IsNew seen)
    {outcome : Except Fault (Option String)}
    (given : (s.value M.units fuel seen).answer M.known = outcome)
    (shallow : outcome ≠ .error .tooDeep) : outcome = .ok (some value) := by
  -- each rule leaves the evaluation with one course only, and the parts are found by induction
  induction evaluates generalizing fuel seen outcome with
  | text u info text =>
    cases course deep given shallow with
    | text => rfl
    | refers _ _ refers => exact absurd refers (not_refers_of_isOwn (.literal ..))
    | faults _ faults => exact absurd faults (not_faults_of_isOwn (.literal ..) _)
    | blank _ blank => exact absurd (.text u info text) (blank.evaluates _)
  | @sum u info left right a b first second ihFirst ihSecond =>
    cases course deep given shallow with
    | sum _ _ _ _ smaller sides =>
      have deep' := Nat.le_of_lt (smaller.trans_le deep)
      have one := ihFirst deep' has (fun t needs => new t (needs.head (.left ..))) rfl (by
        intro failed
        exact shallow (sides.trans (by rw [failed]; rfl)))
      have two := ihSecond deep' has (fun t needs => new t (needs.head (.right ..))) rfl (by
        intro failed
        exact shallow (sides.trans (by rw [one, failed]; rfl)))
      rw [sides, one, two]
      rfl
    | refers _ _ refers => exact absurd refers (not_refers_of_isOwn (.sum ..))
    | faults _ faults => exact absurd faults (not_faults_of_isOwn (.sum ..) _)
    | blank _ blank => exact absurd (.sum info first second) (blank.evaluates _)
  | @refers s t value refers there ih =>
    cases course deep given shallow with
    | met again => exact absurd again (new _ .refl _ rfl)
    | text => exact absurd refers (not_refers_of_isOwn (.literal ..))
    | sum => exact absurd refers (not_refers_of_isOwn (.sum ..))
    | refers _ smaller refers' goes =>
      cases refers.unique refers'
      subst goes
      refine ih (Nat.le_of_lt (smaller.trans_le deep)) (Needs.has (.refers refers) has)
        (fun r needs => ?_) rfl shallow
      have needs' := needs.head (Needs.refers refers)
      -- a term with a value does not come back to itself
      refine Term.isNew_meet (new r needs') fun key noted again => ?_
      cases distinct.eq_of_key (has_of_needs has needs') has noted again
      exact not_needs_self (Evaluates.refers refers there).acc (.head' (.refers refers) needs)
    | faults _ faults => exact absurd faults refers.not_faults
    | blank _ blank => exact absurd (.refers refers) (blank.needs t)

/-! ## What an evaluation visits -/

/-- The first term depends on the second, which is in a known unit and was not met before. -/
def Visits (M : Modules) (seen : List SymbolKey) (s t : Term) : Prop :=
  M.Needs s t ∧ t.IsNew seen ∧ M.Has t.unit

/-- A way from one place to another needs to leave the first place only once. -/
theorem leaves_once {α : Type} {R : α → α → Prop} {a b : α} (way : Relation.ReflTransGen R a b) :
    b = a ∨ ∃ n, R a n ∧ n ≠ a ∧ Relation.ReflTransGen (fun x y => R x y ∧ y ≠ a) n b := by
  induction way with
  | refl => exact .inl rfl
  | @tail x y _ step ih =>
    by_cases back : y = a
    · exact .inl back
    · rcases ih with rfl | ⟨n, first, away, more⟩
      · exact .inr ⟨y, step, back, .refl⟩
      · exact .inr ⟨n, first, away, more.tail ⟨step, back⟩⟩

theorem visits_of_needs (has : M.Has s.unit) (needs : Relation.ReflTransGen M.Needs s t) :
    Relation.ReflTransGen (M.Visits []) s t := by
  induction needs with
  | refl => exact .refl
  | @tail x y before step ih =>
    exact ih.tail ⟨step, y.isNew_nil, step.has (has_of_needs has before)⟩

/-- An evaluation without a fault meets no fault anywhere: it goes to everything that the term
depends on, except through what was met before. -/
theorem not_faults_of_ok (distinct : M.Distinct) (deep : fuel ≤ maxNesting) (has : M.Has s.unit)
    (new : s.IsNew seen) {result : Option String}
    (given : (s.value M.units fuel seen).answer M.known = .ok result)
    (way : Relation.ReflTransGen (M.Visits seen) s t) (cause : Fault) : ¬ M.Faults t cause := by
  induction fuel using Nat.strong_induction_on generalizing seen s result with
  | _ fuel ih =>
    cases course deep given nofun with
    | met again => exact absurd again (new _ rfl)
    | text u info text =>
      rcases way.cases_head with rfl | ⟨n, ⟨needs, -⟩, -⟩
      · exact not_faults_of_isOwn (.literal ..) cause
      · cases needs with
        | refers refers => exact absurd refers (not_refers_of_isOwn (.literal ..))
    | sum u info left right smaller sides =>
      obtain ⟨a, b, first, second, -⟩ := sumOutcome_eq_ok sides.symm
      have deep' := Nat.le_of_lt (smaller.trans_le deep)
      rcases way.cases_head with rfl | ⟨n, ⟨needs, -⟩, rest⟩
      · exact not_faults_of_isOwn (.sum ..) cause
      · cases needs with
        | left => exact ih _ smaller deep' (s := .expr u left) has nofun first rest
        | right => exact ih _ smaller deep' (s := .expr u right) has nofun second rest
        | refers refers => exact absurd refers (not_refers_of_isOwn (.sum ..))
    | refers _ smaller refers goes =>
      rcases leaves_once way with rfl | ⟨n, ⟨needs, new', has'⟩, away, rest⟩
      · exact refers.not_faults
      · cases refers.eq_of_needs needs
        -- the way does not come back to the term, so noting the term does not cut it off
        have apart {r : Term} (known : M.Has r.unit) (other : r ≠ s) :
            ∀ key ∈ r.key?, key ∉ s.key? :=
          fun key noted again => other (distinct.eq_of_key known has noted again)
        have stays : ∀ x y, M.Visits seen x y ∧ y ≠ s → M.Visits (s.meet seen) x y := by
          rintro x y ⟨⟨needs, unmet, known⟩, other⟩
          exact ⟨needs, Term.isNew_meet unmet (apart known other), known⟩
        exact ih _ smaller (Nat.le_of_lt (smaller.trans_le deep)) has'
          (Term.isNew_meet new' (apart has' away)) goes.symm
          (Relation.ReflTransGen.mono stays _ _ rest)
    | blank _ blank =>
      rcases way.cases_head with rfl | ⟨n, ⟨needs, -⟩, -⟩
      · exact blank.faults cause
      · exact absurd needs (blank.needs n)

end Modules

open Modules in
/-- A constant has a value exactly if there is a finite derivation of it by the rules. It has none
exactly if there is no derivation and everything that it depends on can be found out. Otherwise
the evaluation fails, since a module outside of the repository cannot be looked up. A symbol whose
dependencies run into a circle has no derivation. -/
theorem constant_value_iff (tree : FileTree) (sources : SourceSet)
    (reached : sources.Reached tree) {u : SourceUnit} (has : (ofSources tree sources).Has u)
    (ref : SymbolRef)
    (shallow : (SourceSet.run tree (symbolValue sources.units u ref) sources).1 ≠ .error .tooDeep)
    (ending : (SourceSet.run tree (symbolValue sources.units u ref) sources).1 ≠
      .error .endless) :
    (∀ value, (SourceSet.run tree (symbolValue sources.units u ref) sources).1 =
        .ok (some value) ↔ (ofSources tree sources).Evaluates (.symbol u ref) value) ∧
    ((SourceSet.run tree (symbolValue sources.units u ref) sources).1 = .ok none ↔
      (∀ value, ¬ (ofSources tree sources).Evaluates (.symbol u ref) value) ∧
      ∀ t cause, Relation.ReflTransGen (ofSources tree sources).Needs (.symbol u ref) t →
        ¬ (ofSources tree sources).Faults t cause) ∧
    (∀ cause, (SourceSet.run tree (symbolValue sources.units u ref) sources).1 = .error cause →
      ∃ m, sources.answers tree m = .error cause) ∧
    ((ofSources tree sources).Circular (.symbol u ref) →
      ∀ value, ¬ (ofSources tree sources).Evaluates (.symbol u ref) value) := by
  rw [SourceSet.run_fst] at shallow ending ⊢
  have distinct : (ofSources tree sources).Distinct := fun _ _ => eq_of_origin reached
  have iff (value : String) : (symbolValue sources.units u ref).answer (sources.answers tree) =
      .ok (some value) ↔ (ofSources tree sources).Evaluates (.symbol u ref) value := by
    constructor
    · intro given
      exact evaluates_of_value (M := ofSources tree sources) (s := .symbol u ref) le_rfl given
    · intro evaluates
      exact value_of_evaluates distinct evaluates le_rfl has (fun t _ => t.isNew_nil) rfl shallow
  refine ⟨iff, ⟨fun nothing => ⟨?_, ?_⟩, fun ⟨underivable, answered⟩ => ?_⟩, fun cause failed => ?_,
    fun circular => circular.not_evaluates⟩
  · intro value evaluates
    cases nothing.symm.trans ((iff value).mpr evaluates)
  · intro t cause needs
    exact not_faults_of_ok (s := .symbol u ref) distinct le_rfl has (Term.isNew_nil _) nothing
      (visits_of_needs has needs) cause
  · cases outcome : (symbolValue sources.units u ref).answer (sources.answers tree) with
    | error cause =>
      obtain ⟨t, needs, faults⟩ := faults_of_error (M := ofSources tree sources)
        (s := .symbol u ref) le_rfl outcome (fun same => shallow (by rw [outcome, same]))
      exact absurd faults (answered t cause needs)
    | ok result =>
      cases result with
      | none => rfl
      | some value => exact absurd ((iff value).mp outcome) (underivable value)
  · have deep : cause ≠ .tooDeep := fun same => shallow (by rw [failed, same])
    obtain ⟨t, -, faults⟩ := faults_of_error (M := ofSources tree sources) (s := .symbol u ref)
      le_rfl failed deep
    rcases faults.cause with (same | same) | asked
    · exact absurd (by rw [failed, same]) ending
    · exact absurd same deep
    · exact asked

/-- A constant of a class, and one that uses it twice from another module. -/
def shared : List (String × String) :=
  [("k.py", "class C:\n    V = 'x'\n"), ("m.py", "from k import C\nA = C.V + C.V\n")]

theorem constant_value_iff_shared :
    (SourceSet.ofTexts shared).Reached (FileTree.ofTexts shared) ∧
    ∃ u, (Modules.ofSources (FileTree.ofTexts shared) (SourceSet.ofTexts shared)).Has u ∧
      (SourceSet.run (FileTree.ofTexts shared) (symbolValue (SourceSet.ofTexts shared).units u
        (atTop "A")) (SourceSet.ofTexts shared)).1 =
        .ok (some "xx") ∧
      (Modules.ofSources (FileTree.ofTexts shared) (SourceSet.ofTexts shared)).Evaluates
        (.symbol u (atTop "A")) "xx" := by
  have facts :
      (∀ f ∈ shared.zipIdx, (SourceUnit.parse ["."] f.2 f.1.1 f.1.2).isOk = true) ∧
      (SourceSet.ofTexts shared).units.any fun u =>
        (symbolValue (SourceSet.ofTexts shared).units u
          (atTop "A")).answer (fun _ => .ok none) =
          .ok (some "xx") := by
    decide +kernel
  obtain ⟨parsed, evaluated⟩ := facts
  have reached := SourceSet.reached_ofTexts (by decide) (by decide +kernel) parsed
  obtain ⟨u, member, value⟩ := List.any_eq_true.mp evaluated
  have given : (SourceSet.run (FileTree.ofTexts shared)
      (symbolValue (SourceSet.ofTexts shared).units u
        (atTop "A")) (SourceSet.ofTexts shared)).1 =
      .ok (some "xx") := by
    rw [SourceSet.run_fst, SourceSet.answers_ofTexts]
    exact of_decide_eq_true value
  have has : (Modules.ofSources (FileTree.ofTexts shared) (SourceSet.ofTexts shared)).Has u :=
    Modules.has_of_mem member
  have iff := (constant_value_iff (FileTree.ofTexts shared) (SourceSet.ofTexts shared) reached has
    (atTop "A") (by rw [given]; nofun)
    (by rw [given]; nofun)).1
  exact ⟨reached, u, has, given, (iff "xx").mp given⟩

end Catalog.Resolve
