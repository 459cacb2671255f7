import Catalog.Proofs.Resolve.Alike
import Catalog.Proofs.Resolve.Redirects
import Catalog.Proofs.Source.Agreement
import Catalog.Resolve.Constant

/-!
# Names in two sets of modules

What a name denotes depends on the modules in two ways only: which unit a module name stands for,
and how a dotted name is cut. If two sets of modules give units that are alike wherever the other
one does, in both ways, then names and constants have the same meaning in both. The units may stand
in different places, and their variables may have different names.
-/

namespace Catalog.Resolve

open Syntax

/-- Units of two sets of modules that correspond to each other. Wherever one set gives a unit, the
other one gives a unit that corresponds to it. -/
structure Correspondence (M M' : Modules) where
  rel : SourceUnit → SourceUnit → Prop
  /-- How the variables of the unit with an origin are spelled in the other one. -/
  spelling : Origin → String → String
  alike : ∀ {u u'}, rel u u' → u.Alike (spelling u.origin) u'
  /-- The same origin on one side is the same origin on the other. -/
  origins : ∀ {u u' v v'}, rel u u' → rel v v' → (u.origin = v.origin ↔ u'.origin = v'.origin)
  units : ∀ m, Query.Agree M.known M'.known (Option.Rel rel)
    (unitFor? M.units m) (unitFor? M'.units m)
  cuts : ∀ q, Query.Agree M.known M'.known
    (Option.Rel fun found found' => rel found.1 found'.1 ∧ found.2 = found'.2)
    (split? M.units q) (split? M'.units q)

/-! ## Sets with the same index -/

/-- The first cut whose name stands for a unit is the same if names stand for related units. -/
theorem rel_findSome? {rel : SourceUnit → SourceUnit → Prop} {f g : String → Option SourceUnit}
    (each : ∀ m, Option.Rel rel (f m) (g m)) (cs : List (String × List String)) :
    Option.Rel (fun found found' => rel found.1 found'.1 ∧ found.2 = found'.2)
      (cs.findSome? fun (m, rest) => (f m).map (·, rest))
      (cs.findSome? fun (m, rest) => (g m).map (·, rest)) := by
  induction cs with
  | nil => exact .none
  | cons c more ih =>
    obtain ⟨m, rest⟩ := c
    have found := each m
    rw [List.findSome?_cons, List.findSome?_cons]
    dsimp only
    generalize f m = first at found
    generalize g m = second at found
    cases found with
    | some related => exact .some ⟨related, rfl⟩
    | none => exact ih

section

variable {M M' : Modules} {rel : SourceUnit → SourceUnit → Prop}
  (indexed : ∀ m, Option.Rel rel (indexed? M.units m) (indexed? M'.units m))
  (outside : ∀ m, Query.Agree M.known M'.known (Option.Rel rel) (Query.outside m)
    (Query.outside m))
include indexed outside

/-- Sets in which the same names stand for corresponding units, inside and outside of the
repository, give corresponding units. -/
theorem agree_unitFor? (m : String) :
    Query.Agree M.known M'.known (Option.Rel rel) (unitFor? M.units m) (unitFor? M'.units m) := by
  have found := indexed m
  rw [unitFor?, unitFor?]
  generalize indexed? M.units m = inside at found
  generalize indexed? M'.units m = inside' at found
  cases found with
  | some related => exact .pure (.some related)
  | none =>
    dsimp only
    split
    · exact .pure .none
    · exact outside m

theorem agree_split? (q : String) :
    Query.Agree M.known M'.known
      (Option.Rel fun found found' => rel found.1 found'.1 ∧ found.2 = found'.2)
      (split? M.units q) (split? M'.units q) := by
  have miss (cs : List (String × List String)) :
      Query.Agree M.known M'.known
        (Option.Rel fun found found' => rel found.1 found'.1 ∧ found.2 = found'.2)
        (firstOutside? cs) (firstOutside? cs) := by
    induction cs with
    | nil => exact .pure .none
    | cons c more ih =>
      refine (outside c.1).bind fun found found' related => ?_
      cases related with
      | none => exact ih
      | some related => exact .pure (.some ⟨related, rfl⟩)
  have found := rel_findSome? indexed (cuts q)
  rw [split?, split?]
  generalize ((cuts q).findSome? fun (m, rest) => (indexed? M.units m).map (·, rest)) = inside
    at found
  generalize ((cuts q).findSome? fun (m, rest) => (indexed? M'.units m).map (·, rest)) = inside'
    at found
  cases found with
  | some related => exact .pure (.some related)
  | none => exact miss (cuts q)

end

namespace Correspondence

variable {M M' : Modules} (C : Correspondence M M')

/-- The query gives the same in both sets of modules. -/
abbrev Same (M M' : Modules) {α : Type} (q q' : Query α) : Prop :=
  Query.Agree M.known M'.known (· = ·) q q'

include C

/-! ## Imports -/

theorem starTargetIn? (name : String) (modules : List String) :
    Same M M' (Resolve.starTargetIn? M.units name modules)
      (Resolve.starTargetIn? M'.units name modules) := by
  induction modules with
  | nil => exact .pure rfl
  | cons m rest ih =>
    refine (C.units m).bind fun found found' related => ?_
    cases related with
    | none => exact ih
    | some related =>
      dsimp only
      rw [(C.alike related).topScope_binds]
      split
      · exact .pure rfl
      · exact ih

theorem starTarget? {u u' : SourceUnit} (related : C.rel u u') (name : String) :
    Same M M' (Resolve.starTarget? M.units u name)
      (Resolve.starTarget? M'.units u' name) := by
  rw [Resolve.starTarget?, Resolve.starTarget?, (C.alike related).topScope_stars]
  exact C.starTargetIn? name _

theorem redirect? (q : String) :
    Same M M' (Resolve.redirect? M.units q) (Resolve.redirect? M'.units q) := by
  refine (C.cuts q).bind fun found found' related => ?_
  cases related with
  | none => exact .pure rfl
  | @some found found' related =>
    obtain ⟨u, rest⟩ := found
    obtain ⟨u', rest'⟩ := found'
    obtain ⟨related, rfl⟩ := related
    cases rest with
    | nil => exact .pure rfl
    | cons name rest =>
      have symbol := (C.alike related).topSymbol? name
      dsimp only
      rw [symbol]
      cases u.topSymbol? name with
      | none =>
        refine (C.starTarget? related name).bind fun a b same => ?_
        exact .pure (by rw [same])
      | some symbol =>
        refine .pure ?_
        simp only [Symbol.definite?_rename]
        cases symbol.definite? <;> simp

theorem canonicalFrom (fuel : Nat) (seen : List String) (q : String) :
    Same M M' (Resolve.canonicalFrom M.units fuel seen q)
      (Resolve.canonicalFrom M'.units fuel seen q) := by
  induction fuel generalizing seen q with
  | zero => exact .fail _
  | succ fuel ih =>
    rw [Resolve.canonicalFrom, Resolve.canonicalFrom]
    split
    · exact .pure rfl
    · refine (C.redirect? q).bind ?_
      rintro found _ rfl
      cases found with
      | none => exact .pure rfl
      | some next => exact ih (q :: seen) next

theorem canonical (q : String) :
    Same M M' (Resolve.canonical M.units q) (Resolve.canonical M'.units q) :=
  C.canonicalFrom maxRedirects [] q

theorem matchesTarget (q : Option String) (target : String) :
    Same M M' (Resolve.matchesTarget M.units q target)
      (Resolve.matchesTarget M'.units q target) := by
  cases q with
  | none => exact .pure rfl
  | some q =>
    rw [Resolve.matchesTarget, Resolve.matchesTarget]
    split
    · exact .pure rfl
    · split
      · exact .pure rfl
      · refine (C.canonical target).bind ?_
        rintro resolved _ rfl
        exact .pure rfl

/-- A qualified name finds a symbol on one side if it finds its counterpart on the other. -/
theorem lookupSymbol (q : String) :
    Query.Agree M.known M'.known
      (Option.Rel fun found found' => C.rel found.1 found'.1 ∧
        found'.2 = found.2.rename (C.spelling found.1.origin))
      (Resolve.lookupSymbol M.units q) (Resolve.lookupSymbol M'.units q) := by
  refine (C.canonical q).bind ?_
  rintro r _ rfl
  refine (C.cuts r).bind fun found found' related => ?_
  cases related with
  | none => exact .pure .none
  | @some found found' related =>
    obtain ⟨u, rest⟩ := found
    obtain ⟨u', rest'⟩ := found'
    obtain ⟨related, rfl⟩ := related
    refine .pure ?_
    dsimp only
    rw [(C.alike related).descend? rest]
    cases descend? u rest with
    | none => exact .none
    | some ref => exact .some ⟨related, rfl⟩

/-! ## Symbols that were met -/

/-- The keys are those of corresponding symbols. -/
def SameKey (key key' : SymbolKey) : Prop :=
  ∃ u u', C.rel u u' ∧ key.origin = u.origin ∧ key'.origin = u'.origin ∧
    key'.symbol = key.symbol.rename (C.spelling key.origin)

omit C

variable {C : Correspondence M M'}

theorem SameKey.eq_iff {k k' l l' : SymbolKey} (first : C.SameKey k k') (second : C.SameKey l l') :
    k = l ↔ k' = l' := by
  obtain ⟨u, u', related, origin, origin', symbol⟩ := first
  obtain ⟨v, v', other, originOther, originOther', symbolOther⟩ := second
  obtain ⟨o, s⟩ := k
  obtain ⟨o', s'⟩ := k'
  obtain ⟨p, t⟩ := l
  obtain ⟨p', t'⟩ := l'
  dsimp only at origin origin' symbol originOther originOther' symbolOther
  subst origin origin' originOther originOther' symbol symbolOther
  rw [SymbolKey.mk.injEq, SymbolKey.mk.injEq, ← C.origins related other]
  refine and_congr_right fun same => ?_
  rw [← same]
  exact (SymbolRef.rename_injective (C.alike related).apart).eq_iff.symm

theorem SameKey.contains_eq {seen seen' : List SymbolKey} {k k' : SymbolKey}
    (met : List.Forall₂ C.SameKey seen seen') (same : C.SameKey k k') :
    seen'.contains k' = seen.contains k := by
  induction met with
  | nil => rfl
  | cons first _ ih =>
    rw [List.contains_cons, List.contains_cons, ih, beq_eq_beq.mpr (same.eq_iff first)]

theorem sameKey {u u' : SourceUnit} (related : C.rel u u') (ref : SymbolRef) :
    C.SameKey { origin := u.origin, symbol := ref }
      { origin := u'.origin, symbol := ref.rename (C.spelling u.origin) } :=
  ⟨u, u', related, rfl, rfl, rfl⟩

/-! ## Qualified names -/

/-- The names of corresponding symbols and expressions are the same. -/
theorem names {u u' : SourceUnit} (related : C.rel u u') (fuel : Nat) {seen seen' : List SymbolKey}
    (met : List.Forall₂ C.SameKey seen seen') :
    (∀ ref, Same M M' (symbolName M.units fuel seen u ref)
      (symbolName M'.units fuel seen' u' (ref.rename (C.spelling u.origin)))) ∧
    ∀ expr, Same M M' (expressionName M.units fuel seen u expr)
      (expressionName M'.units fuel seen' u' (expr.rename (C.spelling u.origin))) := by
  have alike := C.alike related
  induction fuel generalizing seen seen' with
  | zero =>
    constructor
    · intro ref
      rw [symbolName, symbolName]
      exact .fail _
    · intro expr
      rw [expressionName.eq_def, expressionName.eq_def]
      exact .fail _
  | succ fuel ih =>
    constructor
    · intro ref
      have binding := alike.definite? ref
      rw [symbolName, symbolName, ← definite?, ← definite?, binding]
      cases only : definite? u ref with
      | none => exact .pure rfl
      | some b =>
        simp only [Option.map_some, Binding.form_rename]
        cases form : b.form with
        | imported target =>
          refine (C.canonical target).bind ?_
          rintro q _ rfl
          exact .pure rfl
        | function | classDef =>
          have kept := alike.declared ref b only (by rw [form]; rfl)
          exact .pure (congrArg some (alike.scopeQualname kept).symm)
        | assigned value =>
          have same := sameKey related ref
          simp only [BindingForm.rename, SameKey.contains_eq met same]
          split
          · exact .pure rfl
          · exact (ih (.cons same met)).2 value
        | parameter | other => exact .pure rfl
    · intro expr
      cases expr with
      | name info id context =>
        simp only [Node.rename, expressionName, alike.symbolFor?]
        cases u.symbolFor? info.id id with
        | none =>
          -- a name that nothing binds is not renamed, or there is nothing to import it with
          rcases alike.stars with none | kept
          · have none' := alike.topScope_stars.trans none
            simp only [Option.map_none, Resolve.starTarget?, none, none']
            exact .pure rfl
          · simp only [Option.map_none, kept]
            exact C.starTarget? related id
        | some ref => exact (ih met).1 ref
      | attr info value label =>
        simp only [Node.rename, expressionName]
        refine ((ih met).2 value).bind ?_
        rintro base _ rfl
        cases base with
        | none => exact .pure rfl
        | some base =>
          dsimp only
          split
          · exact .pure rfl
          · refine (C.canonical _).bind ?_
            rintro q _ rfl
            exact .pure rfl
      | _ => exact .pure rfl

theorem qualifiedName {u u' : SourceUnit} (related : C.rel u u') (expr : Node) :
    Same M M' (Resolve.qualifiedName M.units u expr)
      (Resolve.qualifiedName M'.units u' (expr.rename (C.spelling u.origin))) :=
  (names related maxNesting .nil).2 expr

/-! ## Constants -/

/-- The values of corresponding expressions and symbols are the same. -/
theorem values (fuel : Nat) {seen seen' : List SymbolKey}
    (met : List.Forall₂ C.SameKey seen seen') :
    (∀ u u' expr, C.rel u u' → Same M M' (referenceValue M.units fuel seen u expr)
      (referenceValue M'.units fuel seen' u' (expr.rename (C.spelling u.origin)))) ∧
    (∀ q, Same M M' (qualifiedValue M.units fuel seen q) (qualifiedValue M'.units fuel seen' q)) ∧
    (∀ u u' ref, C.rel u u' → Same M M' (constantValue M.units fuel seen u ref)
      (constantValue M'.units fuel seen' u' (ref.rename (C.spelling u.origin)))) ∧
    ∀ u u' expr, C.rel u u' → Same M M' (definitionValue M.units fuel seen u expr)
      (definitionValue M'.units fuel seen' u' (expr.rename (C.spelling u.origin))) := by
  induction fuel generalizing seen seen' with
  | zero =>
    refine ⟨?_, ?_, ?_, ?_⟩
    · intro u u' expr _
      rw [referenceValue.eq_def, referenceValue.eq_def]
      exact .fail _
    · intro q
      rw [qualifiedValue.eq_def, qualifiedValue.eq_def]
      exact .fail _
    · intro u u' ref _
      rw [constantValue, constantValue]
      exact .fail _
    · intro u u' expr _
      rw [definitionValue.eq_def, definitionValue.eq_def]
      exact .fail _
  | succ fuel ih =>
    refine ⟨?_, ?_, ?_, ?_⟩
    · intro u u' expr related
      cases expr with
      | constant info text => exact .pure rfl
      | name info id context =>
        have alike := C.alike related
        simp only [Node.rename, referenceValue, alike.symbolFor?]
        cases u.symbolFor? info.id id with
        | none =>
          refine ((names related fuel .nil).2 (.name info id context)).bind ?_
          rintro q _ rfl
          exact (ih met).2.1 q
        | some ref => exact (ih met).2.2.1 u u' ref related
      | attr info value label =>
        simp only [Node.rename, referenceValue]
        refine ((names related fuel .nil).2 (.attr info value label)).bind ?_
        rintro q _ rfl
        exact (ih met).2.1 q
      | _ => exact .pure rfl
    · intro q
      cases q with
      | none => exact .pure rfl
      | some q =>
        simp only [qualifiedValue]
        split
        · exact .pure rfl
        · refine (C.lookupSymbol q).bind fun found found' related => ?_
          cases related with
          | none => exact .pure rfl
          | @some found found' related =>
            obtain ⟨owner, ref⟩ := found
            obtain ⟨owner', ref'⟩ := found'
            obtain ⟨related, rfl⟩ := related
            exact (ih met).2.2.1 owner owner' ref related
    · intro u u' ref related
      have same := sameKey related ref
      have binding := (C.alike related).definite? ref
      rw [constantValue, constantValue, ← definite?, ← definite?, binding]
      simp only [SameKey.contains_eq met same]
      split
      · exact .pure rfl
      · cases definite? u ref with
        | none => exact .pure rfl
        | some b =>
          simp only [Option.map_some, Binding.form_rename]
          cases b.form with
          | imported target =>
            refine (C.canonical target).bind ?_
            rintro q _ rfl
            exact (ih (.cons same met)).2.1 (some q)
          | assigned value => exact (ih (.cons same met)).2.2.2 u u' value related
          | _ => exact .pure rfl
    · intro u u' expr related
      cases expr with
      | binOp info isAdd left right =>
        cases isAdd with
        | false => exact (ih met).1 u u' (.binOp info false left right) related
        | true =>
          simp only [Node.rename, definitionValue]
          refine ((ih met).2.2.2 u u' left related).bind ?_
          rintro a _ rfl
          refine ((ih met).2.2.2 u u' right related).bind ?_
          rintro b _ rfl
          cases a <;> cases b <;> exact .pure rfl
      | _ => exact (ih met).1 u u' _ related

theorem fieldText {u u' : SourceUnit} (related : C.rel u u') (expr : Node) :
    Same M M' (Resolve.fieldText M.units u expr)
      (Resolve.fieldText M'.units u' (expr.rename (C.spelling u.origin))) := by
  refine ((values maxNesting .nil).1 u u' expr related).bind ?_
  rintro value _ rfl
  exact .pure rfl

end Correspondence

end Catalog.Resolve
