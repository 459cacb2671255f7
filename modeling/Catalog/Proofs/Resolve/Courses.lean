import Catalog.Proofs.Resolve.Evaluation
import Catalog.Proofs.Resolve.Failures
import Mathlib.Data.Option.NAry

/-!
# One step of the evaluation of a constant

The evaluation of a constant is four functions that call each other, to a limited depth and with
the symbols on the way. `Course` puts what they can do in terms of the rules: the evaluation of a
term gives up at a symbol that it met before, or does what the only rule for the term says, or ends
since there is no rule, or fails since the rule cannot be found out.
-/

namespace Catalog.Resolve

open Syntax

/-- Evaluates a term. -/
def Term.value (units : List SourceUnit) (fuel : Nat) (seen : List SymbolKey) :
    Term → Query (Option String)
  | .symbol u ref => constantValue units fuel seen u ref
  | .expr u node => definitionValue units fuel seen u node

/-- The outcome of a sum, from those of its sides; the left side comes first. -/
def sumOutcome (left right : Except Fault (Option String)) : Except Fault (Option String) :=
  left.bind fun a => right.bind fun b => .ok (Option.map₂ (· ++ ·) a b)

section

variable {left right : Except Fault (Option String)}

theorem sumOutcome_eq_ok {result : Option String} (given : sumOutcome left right = .ok result) :
    ∃ a b, left = .ok a ∧ right = .ok b ∧ result = Option.map₂ (· ++ ·) a b := by
  cases left with
  | error => cases given
  | ok a =>
    cases right with
    | error => cases given
    | ok b =>
      cases given
      exact ⟨a, b, rfl, rfl, rfl⟩

theorem sumOutcome_eq_error {cause : Fault} (failed : sumOutcome left right = .error cause) :
    left = .error cause ∨ right = .error cause := by
  cases left with
  | error =>
    cases failed
    exact .inl rfl
  | ok a =>
    cases right with
    | error =>
      cases failed
      exact .inr rfl
    | ok b => cases failed

end

namespace Modules

variable {M : Modules}

/-- A name that cannot be found out is one that leads on without end, one that is nested too deep,
or one for which a module outside of the repository cannot be looked up. -/
theorem Faults.cause {s : Term} {cause : Fault} (faults : M.Faults s cause) :
    (cause = .endless ∨ cause = .tooDeep) ∨ ∃ m, M.known m = .error cause := by
  let P (cause : Fault) : Prop := cause = .endless ∨ cause = .tooDeep
  have endless : P .endless := .inl rfl
  cases faults with
  | imported _ _ failed | unfound _ _ _ failed =>
    exact (failsOnly_lookupSymbol M.units endless _).cause failed
  | unnamed _ failed =>
    exact ((failsOnly_names M.units endless (.inr rfl) maxNesting [] _).2 _).cause failed

/-! ## Looking a name up -/

/-- Where imports lead, the same symbol is found. -/
theorem lookupSymbol_of_canonical {t q : String}
    (ended : (canonical M.units t).answer M.known = .ok q) :
    (lookupSymbol M.units q).answer M.known = (lookupSymbol M.units t).answer M.known := by
  have again : (canonical M.units q).answer M.known = .ok q := canonicalFrom_idem ended
  rw [lookupSymbol, lookupSymbol, Query.answer_bind, Query.answer_bind, ended, again]

theorem lookupSymbol_of_error {t : String} {cause : Fault}
    (failed : (canonical M.units t).answer M.known = .error cause) :
    (lookupSymbol M.units t).answer M.known = .error cause := by
  rw [lookupSymbol, Query.answer_bind, failed]
  rfl

/-- Nothing is left over of the empty text. -/
theorem rest_of_splits_empty {u : SourceUnit} {rest : List String} (split : M.Splits "" u rest) :
    rest = [] := by
  obtain ⟨m, member⟩ := split.exists_cut
  have cut : cuts "" = [("", [])] := by decide
  rw [cut, List.mem_singleton] at member
  exact congrArg Prod.snd member

theorem not_step_empty (next : String) : ¬ M.Step "" next := by
  intro step
  obtain ⟨_, tail, ⟨u, name, split, -⟩, -⟩ := step_iff.mp step
  cases rest_of_splits_empty split

/-- The empty text is the name of no symbol. -/
theorem not_finds_empty (owner : SourceUnit) (ref : SymbolRef) : ¬ M.Finds "" owner ref := by
  intro finds
  obtain ⟨r, ended, split⟩ := (Query.answer_bind_eq_ok _).mp finds
  obtain ⟨passed, path, -⟩ := canonical_eq_ok_iff.mp ended
  cases path with
  | step step => exact not_step_empty _ step
  | here =>
    obtain ⟨_ | ⟨u, rest⟩, split, given⟩ := (Query.answer_bind_eq_ok _).mp split
    · cases given
    · cases rest_of_splits_empty split
      cases given

/-- Imports that lead to the empty text lead to no symbol. -/
theorem lookupSymbol_of_empty {t : String}
    (ended : (canonical M.units t).answer M.known = .ok "") :
    (lookupSymbol M.units t).answer M.known = .ok none := by
  obtain ⟨passed, path, -, -, last⟩ := canonical_eq_ok_iff.mp ended
  have final : M.Final "" := by
    refine last.resolve_right fun member => ?_
    obtain ⟨_, _, _, _, rest⟩ := path.split member
    cases rest with
    | step step => exact not_step_empty _ step
  obtain ⟨found, split, -⟩ := (Query.answer_bind_eq_ok _).mp final
  have looked : (lookupSymbol M.units t).answer M.known =
      .ok (found.bind fun (u, rest) => (descend? u rest).map (u, ·)) := by
    refine (Query.answer_bind_eq_ok _).mpr ⟨"", ended, (Query.answer_bind_eq_ok _).mpr
      ⟨found, split, ?_⟩⟩
    cases found <;> rfl
  rw [looked]
  cases found with
  | none => rfl
  | some pair =>
    obtain ⟨u, rest⟩ := pair
    cases rest_of_splits_empty split
    rfl

/-! ## One step of an evaluation -/

/-- No rule gives the term a value, and nothing fails. -/
structure Blank (M : Modules) (s : Term) : Prop where
  needs : ∀ t, ¬ M.Needs s t
  evaluates : ∀ value, ¬ M.Evaluates s value
  faults : ∀ cause, ¬ M.Faults s cause

/-- What the evaluation of a term can come to, with the symbols `seen` on the way to it: what it
goes on with, or the outcome. -/
inductive Course (M : Modules) (fuel : Nat) (seen : List SymbolKey) :
    Term → Except Fault (Option String) → Prop
  | met {u : SourceUnit} {ref : SymbolRef}
      (again : { origin := u.origin, symbol := ref : SymbolKey } ∈ seen) :
      Course M fuel seen (.symbol u ref) (.ok none)
  | text (u : SourceUnit) (info : Info) (text : String) :
      Course M fuel seen (.expr u (.constant info (some text))) (.ok (some text))
  | sum (u : SourceUnit) (info : Info) (left right : Node) {less : Nat} (smaller : less < fuel)
      {outcome : Except Fault (Option String)}
      (given : outcome = sumOutcome (((Term.expr u left).value M.units less seen).answer M.known)
        (((Term.expr u right).value M.units less seen).answer M.known)) :
      Course M fuel seen (.expr u (.binOp info true left right)) outcome
  | refers {s t : Term} {less : Nat} (new : s.IsNew seen) (smaller : less < fuel)
      (refers : M.Refers s t) {outcome : Except Fault (Option String)}
      (given : outcome = (t.value M.units less (s.meet seen)).answer M.known) :
      Course M fuel seen s outcome
  | faults {s : Term} {cause : Fault} (new : s.IsNew seen) (faults : M.Faults s cause) :
      Course M fuel seen s (.error cause)
  | blank {s : Term} (new : s.IsNew seen) (blank : M.Blank s) : Course M fuel seen s (.ok none)

theorem blank_of_not_refers {s : Term}
    (text : ∀ u info value, s ≠ .expr u (.constant info (some value)))
    (sum : ∀ u info left right, s ≠ .expr u (.binOp info true left right))
    (refers : ∀ t, ¬ M.Refers s t) (faults : ∀ cause, ¬ M.Faults s cause) : M.Blank s := by
  refine ⟨fun t needs => ?_, fun value evaluates => ?_, faults⟩
  · cases needs with
    | left | right => exact sum _ _ _ _ rfl
    | refers leads => exact refers t leads
  · cases evaluates with
    | text => exact text _ _ _ rfl
    | sum => exact sum _ _ _ _ rfl
    | refers leads => exact refers _ leads

variable {fuel : Nat} {seen : List SymbolKey} {u : SourceUnit}

/-- A symbol has no value if nothing is assigned to it and its import finds nothing. -/
theorem blank_symbol {ref : SymbolRef}
    (unassigned : ∀ b value, definite? u ref = some b → b.form ≠ .assigned value)
    (missing : ∀ b target, definite? u ref = some b → b.form = .imported target →
      (lookupSymbol M.units target).answer M.known = .ok none) : M.Blank (.symbol u ref) := by
  refine blank_of_not_refers nofun nofun (fun t refers => ?_) (fun cause faults => ?_)
  · cases refers with
    | assigned only form => exact unassigned _ _ only form
    | imported only form finds => cases (missing _ _ only form).symm.trans finds
  · cases faults with
    | imported only form failed => cases (missing _ _ only form).symm.trans failed

/-- An expression that stands for a qualified name has no value if the name finds nothing. -/
theorem blank_qualified {e : Node} (stands : IsQualified u e) {name : Option String}
    (whole : (qualifiedName M.units u e).answer M.known = .ok name)
    (missing : ∀ q, name = some q →
      q = "" ∨ (lookupSymbol M.units q).answer M.known = .ok none) : M.Blank (.expr u e) := by
  have own {q : String} (names : M.Names u e q) : name = some q :=
    Except.ok.inj (whole.symm.trans names)
  refine blank_of_not_refers ?_ ?_ (fun t refers => ?_) (fun cause faults => ?_)
  · rintro _ info value ⟨⟩
    cases stands
  · rintro _ info left right ⟨⟩
    cases stands
  · cases refers with
    | bound _ place =>
      cases stands with
      | free _ unbound => cases place.symm.trans unbound
    | qualified _ names finds =>
      rcases missing _ (own names) with rfl | looked
      · exact not_finds_empty _ _ finds
      · cases looked.symm.trans finds
  · cases faults with
    | unnamed _ failed => cases whole.symm.trans failed
    | unfound _ names named failed =>
      have looked := (missing _ (own names)).resolve_left named
      cases looked.symm.trans failed

/-! ## The functions -/

/-- The value of a qualified name is that of the symbol it finds. -/
theorem qualifiedValue_cases {name : Option String} {outcome : Except Fault (Option String)}
    (given : (qualifiedValue M.units fuel seen name).answer M.known = outcome)
    (shallow : outcome ≠ .error .tooDeep) :
    (∀ q, name = some q → q = "" ∨ (lookupSymbol M.units q).answer M.known = .ok none) ∧
      outcome = .ok none ∨
    (∃ q cause, name = some q ∧ q ≠ "" ∧
      (lookupSymbol M.units q).answer M.known = .error cause ∧ outcome = .error cause) ∨
    ∃ q owner ref less, name = some q ∧ less < fuel ∧ M.Finds q owner ref ∧
      outcome = (constantValue M.units less seen owner ref).answer M.known := by
  subst given
  cases fuel with
  | zero => exact absurd (by rw [qualifiedValue]; rfl) shallow
  | succ fuel =>
    cases name with
    | none => exact .inl ⟨nofun, by rw [qualifiedValue]; rfl⟩
    | some q =>
      rw [qualifiedValue]
      by_cases named : q = ""
      · refine .inl ⟨fun q' same => ?_, by rw [if_pos (by simpa using named)]; rfl⟩
        cases same
        exact .inl named
      · rw [if_neg (by simpa using named), Query.answer_bind]
        cases looked : (lookupSymbol M.units q).answer M.known with
        | error cause => exact .inr (.inl ⟨q, cause, rfl, named, looked, rfl⟩)
        | ok found =>
          cases found with
          | none =>
            refine .inl ⟨fun q' same => ?_, rfl⟩
            cases same
            exact .inr looked
          | some pair =>
            exact .inr (.inr ⟨q, pair.1, pair.2, fuel, rfl, Nat.lt_succ_self _, looked, rfl⟩)

/-- An import goes on with the symbol that its target finds. -/
theorem course_imported {ref : SymbolRef} {b : Binding} {target : String}
    (new : (Term.symbol u ref).IsNew seen) (only : definite? u ref = some b)
    (form : b.form = .imported target) {outcome : Except Fault (Option String)}
    (given : (do
      let q ← canonical M.units target
      qualifiedValue M.units fuel ((Term.symbol u ref).meet seen) (some q) :
        Query (Option String)).answer M.known = outcome)
    (shallow : outcome ≠ .error .tooDeep) :
    M.Course (fuel + 1) seen (.symbol u ref) outcome := by
  have blank (looked : (lookupSymbol M.units target).answer M.known = .ok none) :
      M.Blank (.symbol u ref) := by
    refine blank_symbol (fun b' value only' form' => ?_) (fun b' target' only' form' => ?_)
    · cases form_unique only form only' form'
    · cases form_unique only form only' form'
      exact looked
  rw [Query.answer_bind] at given
  cases ended : (canonical M.units target).answer M.known with
  | error cause =>
    rw [ended] at given
    cases given
    exact .faults new (.imported only form (lookupSymbol_of_error ended))
  | ok q =>
    rw [ended] at given
    have same := lookupSymbol_of_canonical ended
    rcases qualifiedValue_cases given shallow with
      ⟨missing, rfl⟩ | ⟨_, cause, ⟨⟩, -, failed, rfl⟩ | ⟨_, owner, r, less, ⟨⟩, smaller, finds, rfl⟩
    · refine .blank new (blank ?_)
      rcases missing q rfl with rfl | looked
      · exact lookupSymbol_of_empty ended
      · exact same.symm.trans looked
    · exact .faults new (.imported only form (same.symm.trans failed))
    · exact .refers new (Nat.lt_succ_of_lt smaller) (.imported only form (same.symm.trans finds))
        rfl

/-- An expression that stands for a qualified name goes on with the symbol that the name finds. -/
theorem course_qualified {e : Node} (stands : IsQualified u e) (deep : fuel ≤ maxNesting)
    {limit : Nat} (inside : fuel < limit) {outcome : Except Fault (Option String)}
    (given : (do
      let q ← expressionName M.units fuel [] u e
      qualifiedValue M.units fuel seen q : Query (Option String)).answer M.known = outcome)
    (shallow : outcome ≠ .error .tooDeep) :
    M.Course limit seen (.expr u e) outcome := by
  have new : (Term.expr u e).IsNew seen := nofun
  rw [Query.answer_bind] at given
  -- the name is looked for at the depth that is left, which is not too little
  have depth : UpToDepth ((expressionName M.units fuel [] u e).answer M.known)
      ((qualifiedName M.units u e).answer M.known) := expressionName_upToDepth deep u e
  cases ended : (expressionName M.units fuel [] u e).answer M.known with
  | error cause =>
    rw [ended] at given depth
    cases given
    exact .faults new (.unnamed stands (depth.resolve_left shallow).symm)
  | ok name =>
    have whole := depth.ok ended
    rw [ended] at given
    rcases qualifiedValue_cases given shallow with
      ⟨missing, rfl⟩ | ⟨q, cause, rfl, named, failed, rfl⟩ |
        ⟨q, owner, r, less, rfl, smaller, finds, rfl⟩
    · exact .blank new (blank_qualified stands whole missing)
    · exact .faults new (.unfound stands whole named failed)
    · exact .refers new (Nat.lt_trans smaller inside) (.qualified stands whole finds) rfl

/-- A symbol goes on with what is assigned to it, or with what its import finds. -/
theorem course_symbol {ref : SymbolRef} {outcome : Except Fault (Option String)}
    (given : (constantValue M.units fuel seen u ref).answer M.known = outcome)
    (shallow : outcome ≠ .error .tooDeep) : M.Course fuel seen (.symbol u ref) outcome := by
  cases fuel with
  | zero => exact absurd (given.symm.trans (by rw [constantValue]; rfl)) shallow
  | succ fuel =>
    rw [constantValue] at given
    split at given
    · rename_i again
      cases given
      exact .met (by simpa using again)
    · rename_i unmet
      have new : (Term.symbol u ref).IsNew seen := by
        rintro key ⟨⟩
        simpa using unmet
      split at given
      · rename_i unbound
        cases given
        refine .blank new (blank_symbol (fun b value only => ?_) (fun b target only => ?_)) <;>
          cases unbound.symm.trans only
      · rename_i b only
        split at given
        · rename_i target form
          exact course_imported new only form given shallow
        · rename_i value form
          exact .refers new (Nat.lt_succ_self fuel) (.assigned only form) given.symm
        · rename_i unimported unassigned
          cases given
          refine .blank new (blank_symbol (fun b' value only' form => ?_)
            (fun b' target only' form => ?_))
          · cases only.symm.trans only'
            exact unassigned value form
          · cases only.symm.trans only'
            exact absurd form (unimported target)

/-- Apart from sums, the definition of a constant is a reference. -/
theorem definitionValue_succ {e : Node}
    (single : ∀ info left right, e ≠ .binOp info true left right) :
    definitionValue M.units (fuel + 1) seen u e = referenceValue M.units fuel seen u e := by
  rw [definitionValue]
  exact single

/-- A reference is a text, a bound name, or stands for a qualified name. -/
theorem course_reference {e : Node} (single : ∀ info left right, e ≠ .binOp info true left right)
    (deep : fuel ≤ maxNesting) {outcome : Except Fault (Option String)}
    (given : (referenceValue M.units fuel seen u e).answer M.known = outcome)
    (shallow : outcome ≠ .error .tooDeep) : M.Course (fuel + 1) seen (.expr u e) outcome := by
  have new : (Term.expr u e).IsNew seen := nofun
  cases fuel with
  | zero => exact absurd (given.symm.trans (by rw [referenceValue]; rfl)) shallow
  | succ fuel =>
    rw [referenceValue.eq_def] at given
    dsimp only at given
    split at given
    · rename_i info text
      cases given
      cases text with
      | some text => exact .text u info text
      | none =>
        exact .blank new (blank_of_not_refers nofun nofun
          (fun t => not_refers_of_isOwn (.literal ..)) (not_faults_of_isOwn (.literal ..)))
    · rename_i info id context
      split at given
      · rename_i unbound
        exact course_qualified (.free context unbound) (Nat.le_of_succ_le deep) (by omega) given
          shallow
      · rename_i ref place
        exact .refers new (by omega) (.bound context place) given.symm
    · rename_i info value label
      exact course_qualified (.attr info value label) (Nat.le_of_succ_le deep) (by omega) given
        shallow
    · rename_i text name attr
      cases given
      have stands : ¬ IsQualified u e := by
        rintro (_ | _)
        · exact attr _ _ _ rfl
        · exact name _ _ _ rfl
      refine .blank new (blank_of_not_refers ?_ ?_ (fun t refers => ?_) (fun cause faults => ?_))
      · rintro _ info value ⟨⟩
        exact text _ _ rfl
      · rintro _ info left right ⟨⟩
        exact single _ _ _ rfl
      · cases refers with
        | bound => exact name _ _ _ rfl
        | qualified qualified => exact stands qualified
      · cases faults with
        | unnamed qualified | unfound qualified => exact stands qualified

/-- An expression is a sum or a reference. -/
theorem course_expr {e : Node} (deep : fuel ≤ maxNesting) {outcome : Except Fault (Option String)}
    (given : (definitionValue M.units fuel seen u e).answer M.known = outcome)
    (shallow : outcome ≠ .error .tooDeep) : M.Course fuel seen (.expr u e) outcome := by
  cases fuel with
  | zero => exact absurd (given.symm.trans (by rw [definitionValue]; rfl)) shallow
  | succ fuel =>
    by_cases sum : ∃ info left right, e = .binOp info true left right
    · obtain ⟨info, left, right, rfl⟩ := sum
      refine .sum u info left right (Nat.lt_succ_self fuel) ?_
      rw [definitionValue, Query.answer_bind] at given
      rw [← given, sumOutcome]
      congr 1
      funext a
      rw [Query.answer_bind]
      congr 1
      funext b
      cases a <;> cases b <;> rfl
    · have single : ∀ info left right, e ≠ .binOp info true left right :=
        fun info left right same => sum ⟨info, left, right, same⟩
      rw [definitionValue_succ single] at given
      exact course_reference single (Nat.le_of_succ_le deep) given shallow

/-- An evaluation that is not too deep takes one of the courses. -/
theorem course {s : Term} (deep : fuel ≤ maxNesting) {outcome : Except Fault (Option String)}
    (given : (s.value M.units fuel seen).answer M.known = outcome)
    (shallow : outcome ≠ .error .tooDeep) : M.Course fuel seen s outcome := by
  cases s with
  | symbol u ref => exact course_symbol given shallow
  | expr u e => exact course_expr deep given shallow

end Modules

end Catalog.Resolve
