import Catalog.Proofs.Resolve.Naming
import Catalog.Proofs.Scope.Renaming

/-!
# Units that differ in the names of variables

Two units are alike if one is the other with its variables renamed. The renaming keeps the names
that can be asked for from outside: those at the top of the module, those of the members of a class,
and those that are part of a qualified name. So a qualified name finds the same symbol in both.
-/

namespace Catalog

open Syntax Resolve

/-! ## Members of a class -/

namespace Resolve

variable {u : SourceUnit} {ref : SymbolRef} {b : Binding} {attr : String}

theorem memberOf?_of_none (none : definite? u ref = none) : memberOf? u ref attr = Option.none := by
  rw [definite?] at none
  rw [memberOf?]
  cases found : u.scopes.symbol? ref with
  | none => rfl
  | some symbol =>
    rw [found, Option.bind_some] at none
    simp [none]

theorem memberOf?_of_class (only : definite? u ref = some b) (form : b.form = .classDef) :
    memberOf? u ref attr =
      (u.scopes.openedBy? b.owner.id).bind fun n => u.scopes.symbolIn? n attr := by
  obtain ⟨symbol, found, only⟩ := Option.bind_eq_some_iff.mp only
  simp [memberOf?, found, only, form]

theorem memberOf?_of_other (only : definite? u ref = some b) (form : b.form ≠ .classDef) :
    memberOf? u ref attr = none := by
  obtain ⟨symbol, found, only⟩ := Option.bind_eq_some_iff.mp only
  simp [memberOf?, found, only]

end Resolve

/-! ## Renamed variables -/

/-- The unit `u'` is `u` with its variables renamed, wherever it stands. -/
structure SourceUnit.Alike (ρ : String → String) (u u' : SourceUnit) : Prop where
  identity : u'.identity = u.identity
  body : u'.body = u.body.map (Node.rename ρ)
  scopes : u'.scopes = u.scopes.rename ρ
  apart : Function.Injective ρ
  /-- What is bound at the top keeps its name. -/
  top : ∀ symbol ∈ u.topScope.symbols, ρ symbol.name = symbol.name
  /-- What is bound in the body of a class keeps its name. -/
  members : ∀ ref b n s, definite? u ref = some b → b.form = .classDef →
    u.scopes.openedBy? b.owner.id = some n → u.scopes.get? n = some s →
    ∀ symbol ∈ s.symbols, ρ symbol.name = symbol.name
  /-- What is defined keeps its name. -/
  declared : ∀ ref b, definite? u ref = some b → b.form.isDeclaration = true →
    ρ ref.name = ref.name
  /-- A variable that nothing binds keeps its name, if it may be imported with everything else. -/
  stars : u.topScope.stars = [] ∨ ∀ name, ρ name = name

namespace SourceUnit.Alike

variable {ρ : String → String} {u u' : SourceUnit}

/-- A unit is like itself, in whatever place. -/
theorem of_same (identity : u'.identity = u.identity) (body : u'.body = u.body)
    (scopes : u'.scopes = u.scopes) : Alike (fun v => v) u u' where
  identity := identity
  body := by rw [body, funext Node.rename_self, List.map_id']
  scopes := scopes.trans (ScopeTable.rename_self _).symm
  apart := fun _ _ same => same
  top _ _ := rfl
  members _ _ _ _ _ _ _ _ _ _ := rfl
  declared _ _ _ _ := rfl
  stars := .inr fun _ => rfl

theorem refl (u : SourceUnit) : Alike (fun v => v) u u := of_same rfl rfl rfl

variable (alike : Alike ρ u u')
include alike

theorem moduleName : u'.moduleName = u.moduleName :=
  congrArg ModuleName.Identity.name alike.identity

theorem topScope : u'.topScope = u.topScope.rename ρ := by
  rw [SourceUnit.topScope, alike.scopes, ScopeTable.get?_rename, SourceUnit.topScope]
  cases u.scopes.get? ScopeTable.moduleScope <;> rfl

theorem topScope_stars : u'.topScope.stars = u.topScope.stars := by
  rw [alike.topScope]
  rfl

theorem topScope_binds (name : String) : u'.topScope.binds name = u.topScope.binds name := by
  rw [alike.topScope, Scope.binds_rename_of_kept alike.top]

theorem topSymbol? (name : String) :
    u'.topSymbol? name = (u.topSymbol? name).map (Symbol.rename ρ) := by
  rw [SourceUnit.topSymbol?, alike.topScope, Scope.symbol?_rename_of_kept alike.top,
    SourceUnit.topSymbol?]

theorem symbolFor? (node : Nat) (name : String) :
    u'.symbolFor? node (ρ name) = (u.symbolFor? node name).map (SymbolRef.rename ρ) := by
  rw [SourceUnit.symbolFor?, alike.scopes, ScopeTable.symbolFor?_rename alike.apart,
    SourceUnit.symbolFor?]

theorem symbol? (ref : SymbolRef) :
    u'.scopes.symbol? (ref.rename ρ) = (u.scopes.symbol? ref).map (Symbol.rename ρ) := by
  rw [alike.scopes, ScopeTable.symbol?_rename alike.apart]

theorem definite? (ref : SymbolRef) :
    Resolve.definite? u' (ref.rename ρ) = (Resolve.definite? u ref).map (Binding.rename ρ) := by
  rw [Resolve.definite?, alike.symbol?, Resolve.definite?]
  cases u.scopes.symbol? ref with
  | none => rfl
  | some symbol => exact symbol.definite?_rename

theorem scopeQualname {ref : SymbolRef} (kept : ρ ref.name = ref.name) :
    Resolve.scopeQualname u' (ref.rename ρ) = Resolve.scopeQualname u ref := by
  simp only [Resolve.scopeQualname, alike.moduleName, alike.scopes, ScopeTable.path_rename,
    SymbolRef.rename, kept]

/-! ## Members -/

/-- A symbol of a scope whose names are kept keeps its name. -/
theorem rename_symbolIn? (n : Nat) (name : String)
    (kept : ∀ s, u.scopes.get? n = some s → ∀ symbol ∈ s.symbols, ρ symbol.name = symbol.name) :
    u'.scopes.symbolIn? n name = (u.scopes.symbolIn? n name).map (SymbolRef.rename ρ) := by
  rw [alike.scopes, ScopeTable.symbolIn?_rename_of_kept kept, ScopeTable.symbolIn?]
  cases found : u.scopes.get? n with
  | none => rfl
  | some s =>
    by_cases bound : s.binds name = true
    · obtain ⟨symbol, has⟩ := Scope.binds_iff.mp bound
      have same : symbol.name = name := by simpa using List.find?_some has
      have own : ρ name = name := by
        rw [← same]
        exact kept s found symbol (List.mem_of_find?_eq_some has)
      simp [bound, SymbolRef.rename, own]
    · simp [bound]

theorem memberOf? (ref : SymbolRef) (attr : String) :
    Resolve.memberOf? u' (ref.rename ρ) attr =
      (Resolve.memberOf? u ref attr).map (SymbolRef.rename ρ) := by
  have given := alike.definite? ref
  cases only : Resolve.definite? u ref with
  | none =>
    rw [only] at given
    rw [memberOf?_of_none only, memberOf?_of_none given]
    rfl
  | some b =>
    rw [only, Option.map_some] at given
    cases form : b.form with
    | classDef =>
      rw [memberOf?_of_class only form,
        memberOf?_of_class given (by rw [Binding.form_rename, form]; rfl)]
      have opened : u'.scopes.openedBy? (b.rename ρ).owner.id =
          u.scopes.openedBy? b.owner.id := by
        rw [alike.scopes, ScopeTable.openedBy?_rename, Binding.owner_rename, Node.id_rename]
      rw [opened]
      cases scope : u.scopes.openedBy? b.owner.id with
      | none => rfl
      | some n =>
        exact alike.rename_symbolIn? n attr fun s => alike.members ref b n s only form scope
    | _ =>
      rw [memberOf?_of_other only (by rw [form]; simp),
        memberOf?_of_other given (by rw [Binding.form_rename, form]; simp [BindingForm.rename])]
      rfl

/-- A path of names leads to the same symbol. -/
theorem descend? (names : List String) :
    Resolve.descend? u' names = (Resolve.descend? u names).map (SymbolRef.rename ρ) := by
  have walk (rest : List String) (ref : SymbolRef) :
      rest.foldlM (Resolve.memberOf? u') (ref.rename ρ) =
        (rest.foldlM (Resolve.memberOf? u) ref).map (SymbolRef.rename ρ) := by
    induction rest generalizing ref with
    | nil => rfl
    | cons name rest ih =>
      rw [List.foldlM_cons, List.foldlM_cons, alike.memberOf?]
      cases Resolve.memberOf? u ref name with
      | none => rfl
      | some next => exact ih next
  cases names with
  | nil => rfl
  | cons name rest =>
    have first := alike.rename_symbolIn? ScopeTable.moduleScope name
      fun s found symbol member => alike.top symbol (by
        rw [SourceUnit.topScope, found]
        exact member)
    change (u'.scopes.symbolIn? ScopeTable.moduleScope name).bind
        (fun ref => rest.foldlM (Resolve.memberOf? u') ref) =
      Option.map (SymbolRef.rename ρ) ((u.scopes.symbolIn? ScopeTable.moduleScope name).bind
        fun ref => rest.foldlM (Resolve.memberOf? u) ref)
    rw [first]
    cases u.scopes.symbolIn? ScopeTable.moduleScope name with
    | none => rfl
    | some ref => exact walk rest ref

end SourceUnit.Alike

end Catalog
