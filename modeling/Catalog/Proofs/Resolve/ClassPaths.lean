import Catalog.Proofs.Resolve.Transparency
import Catalog.Proofs.Scope.Balance
import Catalog.Proofs.Scope.Names

/-!
# Names of symbols in classes

The qualified name of a symbol is made from the inside out, of the names of the scopes around it.
It is taken apart from the outside in: first the longest module that it begins with, then one class
body after another. The two ways meet where every class on the way is bound once in the scope in
which it stands, and where no module has a longer part of the name. So a symbol of this kind is
found under its own name, and no two of them share one.
-/

namespace Catalog

open Syntax

/-- The scope with the number `n` is that of the module, or that of a class to which the names of
classes lead, the outermost first. Each class stands in the scope before it, where nothing but its
definition binds its name. -/
inductive ScopeTable.ClassPath (t : ScopeTable) : Nat → List String → Prop
  | top : ClassPath t moduleScope []
  | inner {n k : Nat} {names : List String} {s : Scope} {b : Binding} (around : ClassPath t n names)
      (found : t.get? k = some s) (stands : s.outer.head? = some n)
      (once : (t.symbol? { scope := n, name := s.name }).map Symbol.bindings = some [b])
      (form : b.form = .classDef) (own : b.owner.id = s.node) : ClassPath t k (names ++ [s.name])

namespace Resolve

/-- The symbol is one of the module of the repository, or of a class in it to which names lead. Its
qualified name is not that of an import at the top of the module, and no module of the repository
has a name that begins with the module and is a part of the qualified name. -/
structure IsMember (units : List SourceUnit) (u : SourceUnit) (ref : SymbolRef)
    (classes : List String) : Prop where
  indexed : indexed? units u.moduleName = some u
  path : u.scopes.ClassPath ref.scope classes
  bound : (u.scopes.symbol? ref).isSome = true
  defined : classes = [] → ∀ b t, definite? u ref = some b → b.form ≠ .imported t
  free : ∀ front, front <+: classes ++ [ref.name] → front ≠ [] →
    indexed? units (Dotted.ofSegments (u.moduleName :: front)) = none

section

variable {u : SourceUnit} {n : Nat} {name : String} {classes : List String}

/-! ## From the inside out -/

/-- The names of the scopes around a symbol in a class are those of the classes. -/
theorem path_of_classPath (read : u.IsRead) (path : u.scopes.ClassPath n classes) :
    (u.scopes.path n).drop 1 = classes := by
  induction path with
  | top => exact SourceUnit.path_moduleScope read
  | inner around found stands once form own ih =>
    obtain ⟨hs, chain⟩ := SourceUnit.exists_around read found
    obtain ⟨extended, started⟩ := ScopeTable.path_of_around found chain stands
    rw [extended, List.drop_append_of_le_length (List.length_pos_of_ne_nil started), ih]

/-- The classes that lead to a scope have components for names. -/
theorem isComponent_of_classPath (read : u.IsRead) (path : u.scopes.ClassPath n classes) :
    ∀ s ∈ classes, ModuleName.IsComponent s := by
  induction path with
  | top => exact nofun
  | inner around found stands once form own ih =>
    obtain ⟨symbol, bound, -⟩ := Option.map_eq_some_iff.mp once
    exact List.forall_mem_append.mpr
      ⟨ih, List.forall_mem_singleton.mpr (SourceUnit.isComponent_of_symbol? read bound)⟩

theorem scopeQualname_of_classPath (read : u.IsRead) (path : u.scopes.ClassPath n classes)
    (module : u.moduleName ≠ "") (segments : ∀ s ∈ classes ++ [name], Dotted.IsSegment s) :
    scopeQualname u { scope := n, name } =
      Dotted.ofSegments (u.moduleName :: (classes ++ [name])) := by
  have named : ∀ s ∈ u.moduleName :: (classes ++ [name]), (s != "") = true :=
    List.forall_mem_cons.mpr ⟨bne_iff_ne.mpr module, fun s member =>
      bne_iff_ne.mpr (segments s member).named⟩
  rw [scopeQualname, path_of_classPath read path, List.cons_append, List.filter_eq_self.mpr named]

/-! ## From the outside in -/

theorem symbolIn?_of_symbol? {t : ScopeTable} {symbol : Symbol}
    (bound : t.symbol? { scope := n, name } = some symbol) :
    t.symbolIn? n name = some { scope := n, name } := by
  obtain ⟨s, found, has⟩ := Option.bind_eq_some_iff.mp bound
  exact ScopeTable.symbolIn?_eq_some found (Scope.binds_iff.mpr ⟨symbol, has⟩)

theorem definite?_of_once {ref : SymbolRef} {b : Binding}
    (once : (u.scopes.symbol? ref).map Symbol.bindings = some [b]) : definite? u ref = some b := by
  obtain ⟨symbol, found, bindings⟩ := Option.map_eq_some_iff.mp once
  rw [definite?, found, Option.bind_some, Symbol.definite?, bindings]

/-- A class that is bound once leads to the symbols of its body. -/
theorem memberOf?_of_once (read : u.IsRead) {k : Nat} {s : Scope} {b : Binding} {symbol : Symbol}
    (found : u.scopes.get? k = some s)
    (once : (u.scopes.symbol? { scope := n, name := s.name }).map Symbol.bindings = some [b])
    (form : b.form = .classDef) (own : b.owner.id = s.node)
    (bound : u.scopes.symbol? { scope := k, name } = some symbol) :
    memberOf? u { scope := n, name := s.name } name = some { scope := k, name } := by
  have opened : u.scopes.openedBy? b.owner.id = some k :=
    own ▸ ScopeTable.openedBy?_of_nodup (SourceUnit.nodup_nodes read) found
  have only := definite?_of_once once
  obtain ⟨outer, there, only⟩ := Option.bind_eq_some_iff.mp only
  rw [memberOf?, there]
  simp [only, form, opened, symbolIn?_of_symbol? bound]

theorem descend?_append (first : String) (rest : List String) (name : String) :
    descend? u (first :: rest ++ [name]) =
      (descend? u (first :: rest)).bind fun ref => memberOf? u ref name := by
  rw [List.cons_append, descend?, descend?]
  cases u.scopes.symbolIn? ScopeTable.moduleScope first with
  | none => rfl
  | some ref => simp [List.foldlM_append]

/-- The names of the classes and of the symbol lead to the symbol. -/
theorem descend?_of_classPath (read : u.IsRead) (path : u.scopes.ClassPath n classes)
    {symbol : Symbol} (bound : u.scopes.symbol? { scope := n, name } = some symbol) :
    descend? u (classes ++ [name]) = some { scope := n, name } := by
  induction path generalizing name symbol with
  | top => simp [descend?, symbolIn?_of_symbol? bound]
  | @inner n k classes s b around found stands once form own ih =>
    obtain ⟨outer, there, -⟩ := Option.map_eq_some_iff.mp once
    obtain ⟨first, rest, split⟩ := List.exists_cons_of_ne_nil
      (List.append_ne_nil_of_right_ne_nil classes (List.cons_ne_nil s.name []))
    have before := ih there
    rw [split] at before ⊢
    rw [descend?_append, before, Option.bind_some,
      memberOf?_of_once read found once form own bound]

/-- The first name on the way is bound at the top of the module, and not by an import. -/
theorem exists_first (path : u.scopes.ClassPath n classes) {symbol : Symbol}
    (bound : u.scopes.symbol? { scope := n, name } = some symbol)
    (defined : classes = [] → ∀ b t, symbol.definite? = some b → b.form ≠ .imported t) :
    ∃ first rest top, classes ++ [name] = first :: rest ∧ u.topSymbol? first = some top ∧
      ∀ b t, top.definite? = some b → b.form ≠ .imported t := by
  induction path generalizing name symbol with
  | top =>
    refine ⟨name, [], symbol, rfl, ?_, defined rfl⟩
    obtain ⟨s, found, has⟩ := Option.bind_eq_some_iff.mp bound
    rw [SourceUnit.topSymbol?, SourceUnit.topScope, found]
    exact has
  | @inner n k classes s b around found stands once form own ih =>
    obtain ⟨outer, there, bindings⟩ := Option.map_eq_some_iff.mp once
    obtain ⟨first, rest, top, split, topmost, stays⟩ := ih there fun _ b' t only imports => by
      rw [Symbol.definite?, bindings] at only
      cases only
      rw [form] at imports
      cases imports
    exact ⟨first, rest ++ [name], top, by rw [split, List.cons_append], topmost, stays⟩

end

namespace Modules

variable {M : Modules} {u : SourceUnit} {q : String} {rest : List String}

/-- A name that is no import is looked up in the module that it begins with. -/
theorem answer_lookupSymbol (final : M.Final q) (split : M.Splits q u rest) :
    (lookupSymbol M.units q).answer M.known = .ok ((descend? u rest).map (u, ·)) :=
  (Query.answer_bind_eq_ok _).mpr ⟨q, canonical_of_final final,
    (Query.answer_bind_eq_ok _).mpr ⟨some (u, rest), split, rfl⟩⟩

end Modules

open Modules in
/-- In a set in use, a symbol of a module or of classes in it is found under its qualified name: by
looking this name up we come to the unit and to the symbol itself. So two such symbols, of the same
or of different units, never have the same qualified name. -/
theorem lookupSymbol_scopeQualname (tree : FileTree) (sources : SourceSet)
    (reached : sources.Reached tree) :
    (∀ u ref classes, IsMember sources.units u ref classes →
      (SourceSet.run tree (lookupSymbol sources.units (scopeQualname u ref)) sources).1 =
        .ok (some (u, ref))) ∧
    ∀ u ref classes u' ref' classes', IsMember sources.units u ref classes →
      IsMember sources.units u' ref' classes' → scopeQualname u ref = scopeQualname u' ref' →
        u = u' ∧ ref = ref' := by
  have found : ∀ u ref classes, IsMember sources.units u ref classes →
      (SourceSet.run tree (lookupSymbol sources.units (scopeQualname u ref)) sources).1 =
        .ok (some (u, ref)) := by
    rintro u ⟨n, name⟩ classes ⟨indexed, path, bound, defined, free⟩
    obtain ⟨symbol, bound⟩ := Option.isSome_iff_exists.mp bound
    obtain ⟨member, -, module⟩ := mem_of_indexed? (M := ofSources tree sources) indexed
    have read := isRead_of_has reached (has_of_mem member)
    have segments : ∀ s ∈ classes ++ [name], Dotted.IsSegment s := List.forall_mem_append.mpr
      ⟨fun s member => (isComponent_of_classPath read path s member).isSegment,
        List.forall_mem_singleton.mpr (SourceUnit.isComponent_of_symbol? read bound).isSegment⟩
    have split : (ofSources tree sources).Splits (scopeQualname u { scope := n, name }) u
        (classes ++ [name]) := by
      rw [scopeQualname_of_classPath read path module segments]
      exact splits_ofSegments (fun s member => (segments s member).plain) indexed free
    obtain ⟨first, rest, top, names, topmost, stays⟩ := exists_first path bound
      fun topLevel b t only => defined topLevel b t (by rw [definite?, bound]; exact only)
    have final := final_of_top (names ▸ split) topmost stays
    have looked := answer_lookupSymbol final split
    rw [descend?_of_classPath read path bound] at looked
    rw [SourceSet.run_fst]
    exact looked
  refine ⟨found, fun u ref classes u' ref' classes' first second same => ?_⟩
  have looked := found u ref classes first
  rw [same, found u' ref' classes' second] at looked
  obtain ⟨rfl, rfl⟩ := Prod.mk.inj (Option.some.inj (Except.ok.inj looked))
  exact ⟨rfl, rfl⟩

/-- In the scope `n`, nothing but the class that opens the scope `k` binds the name, and the class
stands there. -/
def opensOnce (t : ScopeTable) (n k : Nat) (name : String) : Bool :=
  (t.get? k).any fun s =>
    s.name == name && s.outer.head? == some n &&
      (t.symbol? { scope := n, name }).any fun symbol =>
        match symbol.bindings with
        | [{ form := .classDef, owner }] => owner.id == s.node
        | _ => false

theorem classPath_of_opensOnce {t : ScopeTable} {n k : Nat} {name : String} {classes : List String}
    (around : t.ClassPath n classes) (once : opensOnce t n k name = true) :
    t.ClassPath k (classes ++ [name]) := by
  obtain ⟨s, found, holds⟩ := (Option.any_eq_true ..).mp once
  obtain ⟨holds, bound⟩ := Bool.and_eq_true_iff.mp holds
  obtain ⟨named, stands⟩ := Bool.and_eq_true_iff.mp holds
  obtain rfl := beq_iff_eq.mp named
  obtain ⟨symbol, there, own⟩ := (Option.any_eq_true ..).mp bound
  split at own
  · rename_i owner bindings
    exact .inner around found (beq_iff_eq.mp stands) (by rw [there, Option.map_some, bindings]) rfl
      (beq_iff_eq.mp own)
  · cases own

/-- A class in a class. -/
def classInClass : List (String × String) :=
  [("m.py", "class A:\n class B:\n  x = 1\n")]

theorem lookupSymbol_scopeQualname_class :
    (SourceSet.ofTexts classInClass).Reached (FileTree.ofTexts classInClass) ∧
    ∃ u, IsMember (SourceSet.ofTexts classInClass).units u { scope := 2, name := "x" } ["A", "B"] ∧
      scopeQualname u { scope := 2, name := "x" } = "m.A.B.x" ∧
      (SourceSet.run (FileTree.ofTexts classInClass)
        (lookupSymbol (SourceSet.ofTexts classInClass).units
          (scopeQualname u { scope := 2, name := "x" })) (SourceSet.ofTexts classInClass)).1 =
        .ok (some (u, { scope := 2, name := "x" })) := by
  have facts :
      (∀ f ∈ classInClass.zipIdx, (SourceUnit.parse ["."] f.2 f.1.1 f.1.2).isOk = true) ∧
      ((indexed? (SourceSet.ofTexts classInClass).units "m").any fun u =>
        opensOnce u.scopes 0 1 "A" && opensOnce u.scopes 1 2 "B" &&
        (u.scopes.symbol? { scope := 2, name := "x" }).isSome &&
        scopeQualname u { scope := 2, name := "x" } == "m.A.B.x") ∧
      ∀ front ∈ ["A", "B", "x"].inits, front ≠ [] →
        (indexed? (SourceSet.ofTexts classInClass).units
          (Dotted.ofSegments ("m" :: front))).isNone := by
    decide +kernel
  obtain ⟨parsed, home, free⟩ := facts
  have reached := SourceSet.reached_ofTexts (by decide) (by decide +kernel) parsed
  obtain ⟨u, found, holds⟩ := (Option.any_eq_true ..).mp home
  simp only [Bool.and_eq_true] at holds
  obtain ⟨⟨⟨first, second⟩, bound⟩, name⟩ := holds
  have own : u.moduleName = "m" := (named_of_indexed? found).2.1
  have member : IsMember (SourceSet.ofTexts classInClass).units u { scope := 2, name := "x" }
      ["A", "B"] :=
    { indexed := own ▸ found
      path := classPath_of_opensOnce (classPath_of_opensOnce .top first) second
      bound := bound
      defined := fun topLevel => by cases topLevel
      free := fun front longer further => by
        rw [own]
        exact Option.isNone_iff_eq_none.mp (free front ((List.mem_inits _ _).mpr longer) further) }
  exact ⟨reached, u, member, beq_iff_eq.mp name,
    (lookupSymbol_scopeQualname _ _ reached).1 u _ _ member⟩

end Resolve

end Catalog
