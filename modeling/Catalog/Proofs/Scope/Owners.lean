import Catalog.Proofs.Scope.Building
import Catalog.Proofs.Scope.Statements
import Catalog.Proofs.Syntax.Statement
import Catalog.Source.Unit

/-!
# Definitions and the names they bind

Bindings come into the table of scopes one by one, each from a step. So what holds of the bindings
of all steps holds of all bindings of the table: a definition that binds a name is a node of the
module.
-/

namespace Catalog

open Syntax

/-- The binding that a step makes. -/
def Step.binding? : Step → Option Binding
  | bind _ _ binding => some binding
  | _ => none

namespace Reads

variable {all : List Node} {f : Frame} {ns : Multiset Node} {l : List Step}

theorem owned_parameters (params : List Node) :
    ∀ step ∈ params.flatMap Node.parameterStep, ∀ b ∈ step.binding?, b.Owned all := by
  intro step member b bound
  obtain ⟨n, _, inside⟩ := List.mem_flatMap.mp member
  unfold Node.parameterStep at inside
  split at inside
  · simp only [List.mem_cons, List.not_mem_nil, or_false] at inside
    rcases inside with rfl | rfl
    · cases bound
    · cases bound
      rintro ⟨⟩
  · cases inside

theorem owned_declared {steps : List Step}
    (declares : ∀ step ∈ steps, step.isDeclaration = true) :
    ∀ step ∈ steps, ∀ b ∈ step.binding?, b.Owned all := by
  intro step member b bound
  have declares := declares step member
  cases step with
  | bind => cases declares
  | _ => cases bound

/-- All bindings that are made are owned by nodes of the module. -/
theorem owned (read : Reads all f ns l) : ∀ step ∈ l, ∀ b ∈ step.binding?, b.Owned all := by
  induction read with
  | nil | skip => simp
  | append _ _ first second => exact List.forall_mem_append.mpr ⟨first, second⟩
  | place | star => simp [Step.binding?]
  | bind _ _ _ _ owned | clause _ _ _ _ _ owned | capture _ _ owned =>
    simpa [Step.binding?] using owned
  | declare declares _ => exact owned_declared (List.forall_mem_singleton.mpr declares)
  | enter info name body params nested declares _ _ ih =>
    simp only [List.cons_append, List.forall_mem_cons, List.forall_mem_append]
    exact ⟨by simp [Step.binding?], ⟨⟨owned_parameters params, owned_declared declares⟩, ih⟩,
      by simp [Step.binding?], by simp⟩

end Reads

/-! ## Bindings of the table -/

/-- All bindings of the scope have the property. -/
def Scope.EveryBinding (P : Binding → Prop) (s : Scope) : Prop :=
  ∀ symbol ∈ s.symbols, ∀ b ∈ symbol.bindings, P b

/-- All bindings of the table have the property. -/
def ScopeTable.EveryBinding (P : Binding → Prop) (t : ScopeTable) : Prop :=
  ∀ n s, t.get? n = some s → s.EveryBinding P

variable {P : Binding → Prop}

theorem Scope.EveryBinding.bind {s : Scope} {b : Binding} (before : s.EveryBinding P)
    (holds : P b) (name : String) : (s.bind name b).EveryBinding P := by
  have added (symbols : List Symbol)
      (before : ∀ symbol ∈ symbols, ∀ b ∈ symbol.bindings, P b) :
      ∀ symbol ∈ Scope.addTo name b symbols, ∀ b ∈ symbol.bindings, P b := by
    induction symbols with
    | nil => simpa [Scope.addTo] using holds
    | cons symbol rest ih =>
      obtain ⟨first, before⟩ := List.forall_mem_cons.mp before
      rw [Scope.addTo]
      split
      · refine List.forall_mem_cons.mpr ⟨?_, before⟩
        exact List.forall_mem_append.mpr ⟨first, List.forall_mem_singleton.mpr holds⟩
      · exact List.forall_mem_cons.mpr ⟨first, ih before⟩
  exact added s.symbols before

namespace ScopeBuilder

variable {b : ScopeBuilder}

theorem everyBinding_modify (before : b.table.EveryBinding P) (n : Nat) {g : Scope → Scope}
    (keeps : ∀ s, s.EveryBinding P → (g s).EveryBinding P) :
    (b.modifyScope n g).table.EveryBinding P := by
  intro k s found
  rw [modifyScope, ScopeTable.get?_modify] at found
  split at found
  · obtain ⟨s', old, rfl⟩ := Option.map_eq_some_iff.mp found
    exact keeps s' (before k s' old)
  · exact before k s found

theorem everyBinding_take (before : b.table.EveryBinding P) {step : Step}
    (made : ∀ binding ∈ step.binding?, P binding) : (b.take step).table.EveryBinding P := by
  cases step with
  | place => exact before
  | bind fixed name binding =>
    exact everyBinding_modify before _ fun s old => old.bind (made binding rfl) name
  | enter kind info name body =>
    intro k s found
    rw [take, ScopeTable.get?, Array.getElem?_push] at found
    split at found
    · cases found
      exact fun symbol none => absurd none List.not_mem_nil
    · exact before k s found
  | leave =>
    rw [take]
    split <;> exact before
  | declareGlobal | declareNonlocal | star => exact everyBinding_modify before _ fun s old => old

theorem everyBinding_run {steps : List Step} (before : b.table.EveryBinding P)
    (made : ∀ step ∈ steps, ∀ binding ∈ step.binding?, P binding) :
    (steps.foldl take b).table.EveryBinding P := by
  induction steps generalizing b with
  | nil => exact before
  | cons step rest ih =>
    obtain ⟨first, made⟩ := List.forall_mem_cons.mp made
    exact ih (everyBinding_take before first) made

end ScopeBuilder

namespace SourceUnit

/-- The unit is that of a text. -/
def IsRead (u : SourceUnit) : Prop :=
  ∃ origin path identity source m, Module.parse source = .ok m ∧
    u = ofModule origin path identity m

theorem owned_of_isRead {u : SourceUnit} (read : u.IsRead) :
    u.scopes.EveryBinding (Binding.Owned (Node.preorder u.body)) := by
  obtain ⟨origin, path, identity, source, m, parsed, rfl⟩ := read
  have steps : Reads (Node.preorder m.body) { kind := .module } (Node.nodes m.body)
      (Node.stepsList identity.package none m.body) :=
    Node.reads_module (Module.shaped_of_parse parsed)
  refine ScopeBuilder.everyBinding_run (b := .start identity.name m.body) ?_ steps.owned
  intro n s found
  cases n with
  | zero =>
    cases found
    exact fun symbol none => absurd none List.not_mem_nil
  | succ n => cases found

/-- A definition that binds a name is a node of the unit. -/
theorem owner_of_isRead {u : SourceUnit} (read : u.IsRead) {ref : SymbolRef} {symbol : Symbol}
    (found : u.scopes.symbol? ref = some symbol) {b : Binding} (member : b ∈ symbol.bindings)
    (declares : b.form.isDeclaration = true) :
    b.owner ∈ Node.preorder u.body ∧ b.owner.isDefinition = true := by
  obtain ⟨s, scope, has⟩ := Option.bind_eq_some_iff.mp found
  exact owned_of_isRead read ref.scope s scope symbol (List.mem_of_find?_eq_some has) b member
    declares

end SourceUnit

end Catalog
