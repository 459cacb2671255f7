import Catalog.Proofs.Source.Answers
import Catalog.Resolve.Name

/-!
# How resolving a name can fail

Queries that only look modules up fail where a module cannot be looked up, and in no other way.
Following imports can fail for one more reason, that it does not end, and the qualified name of an
expression for one more, that it is nested too deep.
-/

namespace Catalog.Resolve

variable {P : Fault → Prop} (units : List SourceUnit)

theorem failsOnly_firstOutside? (cs : List (String × List String)) :
    (firstOutside? cs).FailsOnly P := by
  induction cs with
  | nil => exact Query.failsOnly_pure _
  | cons c more ih =>
    refine (Query.failsOnly_outside c.1).bind fun found => ?_
    cases found with
    | none => exact ih
    | some u => exact Query.failsOnly_pure _

theorem failsOnly_split? (q : String) : (split? units q).FailsOnly P := by
  rw [split?]
  split
  · exact Query.failsOnly_pure _
  · exact failsOnly_firstOutside? _

theorem failsOnly_unitFor? (m : String) : (unitFor? units m).FailsOnly P := by
  rw [unitFor?]
  split
  · exact Query.failsOnly_pure _
  · split
    · exact Query.failsOnly_pure _
    · exact Query.failsOnly_outside m

theorem failsOnly_starTarget? (u : SourceUnit) (name : String) :
    (starTarget? units u name).FailsOnly P := by
  rw [starTarget?]
  induction u.topScope.stars with
  | nil => exact Query.failsOnly_pure _
  | cons m rest ih =>
    refine (failsOnly_unitFor? units m).bind fun found => ?_
    cases found with
    | none => exact ih
    | some origin =>
      dsimp only
      split
      · exact Query.failsOnly_pure _
      · exact ih

theorem failsOnly_redirect? (q : String) : (redirect? units q).FailsOnly P := by
  refine (failsOnly_split? units q).bind fun found => ?_
  rcases found with _ | ⟨u, _ | ⟨name, rest⟩⟩
  · exact Query.failsOnly_pure _
  · exact Query.failsOnly_pure _
  · dsimp only
    split
    · exact (failsOnly_starTarget? units u name).bind fun _ => Query.failsOnly_pure _
    · exact Query.failsOnly_pure _

/-! ## Imports and names -/

theorem failsOnly_canonicalFrom (endless : P .endless) (limit : Nat) (seen : List String)
    (q : String) : (canonicalFrom units limit seen q).FailsOnly P := by
  induction limit generalizing seen q with
  | zero => exact .fail endless
  | succ limit ih =>
    rw [canonicalFrom]
    split
    · exact Query.failsOnly_pure _
    · refine (failsOnly_redirect? units q).bind fun found => ?_
      cases found with
      | none => exact Query.failsOnly_pure _
      | some next => exact ih (q :: seen) next

theorem failsOnly_canonical (endless : P .endless) (q : String) :
    (canonical units q).FailsOnly P :=
  failsOnly_canonicalFrom units endless maxRedirects [] q

theorem failsOnly_lookupSymbol (endless : P .endless) (q : String) :
    (lookupSymbol units q).FailsOnly P := by
  refine (failsOnly_canonical units endless q).bind fun r => ?_
  refine (failsOnly_split? units r).bind fun found => ?_
  cases found <;> exact Query.failsOnly_pure _

theorem failsOnly_names (endless : P .endless) (tooDeep : P .tooDeep) (fuel : Nat)
    (seen : List SymbolKey) (u : SourceUnit) :
    (∀ ref, (symbolName units fuel seen u ref).FailsOnly P) ∧
      ∀ expr, (expressionName units fuel seen u expr).FailsOnly P := by
  induction fuel generalizing seen with
  | zero =>
    constructor
    · intro ref
      rw [symbolName]
      exact .fail tooDeep
    · intro expr
      rw [expressionName.eq_def]
      exact .fail tooDeep
  | succ fuel ih =>
    constructor
    · intro ref
      rw [symbolName]
      split
      · exact Query.failsOnly_pure _
      · split
        · exact (failsOnly_canonical units endless _).bind fun _ => Query.failsOnly_pure _
        · exact Query.failsOnly_pure _
        · exact Query.failsOnly_pure _
        · dsimp only
          split
          · exact Query.failsOnly_pure _
          · exact (ih _).2 _
        · exact Query.failsOnly_pure _
    · intro expr
      rw [expressionName.eq_def]
      dsimp only
      split
      · split
        · exact failsOnly_starTarget? units u _
        · exact (ih seen).1 _
      · refine ((ih seen).2 _).bind fun base => ?_
        cases base with
        | none => exact Query.failsOnly_pure _
        | some base =>
          dsimp only
          split
          · exact Query.failsOnly_pure _
          · exact (failsOnly_canonical units endless _).bind fun _ => Query.failsOnly_pure _
      · exact Query.failsOnly_pure _

end Catalog.Resolve
