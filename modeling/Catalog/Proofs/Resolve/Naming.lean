import Catalog.Proofs.Source.Answers
import Catalog.Resolve.Name

/-!
# The qualified names of expressions

The name of an expression is found by going from reference to reference, to a limited depth. More
depth never changes a name that was found: an outcome at some depth is that at any greater depth,
or a failure for lack of depth.
-/

namespace Catalog

open Syntax

/-! ## Outcomes at limited depth -/

/-- The outcome `a` is `b`, or a failure for lack of depth. -/
def UpToDepth {α : Type} (a b : Except Fault α) : Prop :=
  a = .error .tooDeep ∨ a = b

namespace UpToDepth

variable {α β : Type} {known : String → Except Fault (Option SourceUnit)}

theorem refl (a : Except Fault α) : UpToDepth a a := .inr rfl

theorem ok {a : Except Fault α} {b : Except Fault α} {c : α} (below : UpToDepth a b)
    (given : a = .ok c) : b = .ok c := by
  rcases below with failed | same
  · cases given.symm.trans failed
  · exact same.symm.trans given

theorem bind {q q' : Query α} {f f' : α → Query β}
    (first : UpToDepth (q.answer known) (q'.answer known))
    (second : ∀ a, q'.answer known = .ok a →
      UpToDepth ((f a).answer known) ((f' a).answer known)) :
    UpToDepth ((q >>= f).answer known) ((q' >>= f').answer known) := by
  rw [Query.answer_bind, Query.answer_bind]
  rcases first with failed | same
  · rw [failed]
    exact .inl rfl
  · rw [same]
    cases given : q'.answer known with
    | error cause => exact .refl _
    | ok a => exact second a given

end UpToDepth

namespace Resolve

variable {units : List SourceUnit} {known : String → Except Fault (Option SourceUnit)}
variable {u : SourceUnit}

/-- The binding that every use of the symbol sees. -/
def definite? (u : SourceUnit) (ref : SymbolRef) : Option Binding :=
  (u.scopes.symbol? ref).bind Symbol.definite?

/-- A symbol has one form. -/
theorem form_unique {ref : SymbolRef} {b b' : Binding} {form form' : BindingForm}
    (only : definite? u ref = some b) (first : b.form = form)
    (only' : definite? u ref = some b') (second : b'.form = form') : form = form' := by
  cases only.symm.trans only'
  exact first.symm.trans second

/-! ## Symbols -/

/-- The symbol of a name at the top of a module. -/
def atTop (name : String) : SymbolRef := { scope := ScopeTable.moduleScope, name }

theorem symbol?_atTop (u : SourceUnit) (name : String) :
    u.scopes.symbol? (atTop name) = u.topSymbol? name := by
  rw [ScopeTable.symbol?, SourceUnit.topSymbol?, SourceUnit.topScope, atTop]
  cases u.scopes.get? ScopeTable.moduleScope <;> rfl

theorem definite?_atTop (u : SourceUnit) (name : String) :
    definite? u (atTop name) = (u.topSymbol? name).bind Symbol.definite? := by
  rw [definite?, symbol?_atTop]

theorem symbolName_imported {ref : SymbolRef} {b : Binding} {target : String}
    (only : definite? u ref = some b) (form : b.form = .imported target) (fuel : Nat)
    (seen : List SymbolKey) :
    symbolName units (fuel + 1) seen u ref = (do return some (← canonical units target)) := by
  rw [definite?] at only
  simp only [symbolName, only, form]

theorem symbolName_declared {ref : SymbolRef} {b : Binding} (only : definite? u ref = some b)
    (declares : b.form.isDeclaration = true) (fuel : Nat) (seen : List SymbolKey) :
    symbolName units (fuel + 1) seen u ref = return some (scopeQualname u ref) := by
  rw [definite?] at only
  cases form : b.form with
  | function | classDef => simp only [symbolName, only, form]
  | _ => simp [form, BindingForm.isDeclaration] at declares

theorem expressionName_name {info : Info} {id : String} {context : Context} {ref : SymbolRef}
    (place : u.symbolFor? info.id id = some ref) (fuel : Nat) (seen : List SymbolKey) :
    expressionName units (fuel + 1) seen u (.name info id context) =
      symbolName units fuel seen u ref := by
  simp only [expressionName, place]

/-- A name that is bound by an import only denotes what the import leads to. -/
theorem qualifiedName_imported {info : Info} {id : String} {context : Context} {ref : SymbolRef}
    {b : Binding} {target : String} (place : u.symbolFor? info.id id = some ref)
    (only : definite? u ref = some b) (form : b.form = .imported target) :
    qualifiedName units u (.name info id context) =
      (do return some (← canonical units target)) :=
  (expressionName_name place 959 []).trans (symbolName_imported only form 958 [])

/-! ## Depth -/

/-- Names that are found are found at every greater depth. -/
theorem names_upToDepth (fuel more : Nat) (seen : List SymbolKey) (u : SourceUnit) :
    (∀ ref, UpToDepth ((symbolName units fuel seen u ref).answer known)
      ((symbolName units (fuel + more) seen u ref).answer known)) ∧
    ∀ expr, UpToDepth ((expressionName units fuel seen u expr).answer known)
      ((expressionName units (fuel + more) seen u expr).answer known) := by
  induction fuel generalizing seen with
  | zero =>
    constructor
    · intro ref
      exact .inl (by simp only [symbolName]; rfl)
    · intro expr
      exact .inl (by simp only [expressionName]; rfl)
  | succ fuel ih =>
    rw [Nat.add_right_comm]
    constructor
    · intro ref
      simp only [symbolName]
      cases (u.scopes.symbol? ref).bind Symbol.definite? with
      | none => exact .refl _
      | some b =>
        cases form : b.form with
        | assigned value =>
          simp only [form]
          split
          · exact .refl _
          · exact (ih _).2 value
        | _ =>
          simp only [form]
          exact .refl _
    · intro expr
      cases expr with
      | name info id context =>
        simp only [expressionName]
        cases u.symbolFor? info.id id with
        | none => exact .refl _
        | some ref => exact (ih seen).1 ref
      | attr info value label =>
        simp only [expressionName]
        refine UpToDepth.bind ((ih seen).2 value) fun base _ => ?_
        exact .refl _
      | _ => exact .inr (by simp only [expressionName])

theorem expressionName_upToDepth {fuel : Nat} (shallow : fuel ≤ maxNesting) (u : SourceUnit)
    (expr : Node) :
    UpToDepth ((expressionName units fuel [] u expr).answer known)
      ((qualifiedName units u expr).answer known) := by
  obtain ⟨more, deep⟩ := Nat.exists_eq_add_of_le shallow
  rw [qualifiedName, deep]
  exact (names_upToDepth fuel more [] u).2 expr

end Resolve

end Catalog
