import Catalog.Proofs.Resolve.Naming
import Catalog.Proofs.Resolve.Redirects
import Catalog.Proofs.Scope.Names
import Catalog.Proofs.Source.Agreement
import Catalog.Resolve.Constant

/-!
# The words of the modules that are asked for

Which modules are asked for depends on what is read: a name is put together from the names of
modules, from what is imported, and from the names and attributes of expressions. If all these are
made of certain words, then only modules are asked for whose names are made of the same words.
-/

namespace Catalog

open Syntax

/-! ## Dotted names -/

namespace Dotted

/-- The segments of the dotted name are words of the given kind. -/
def MadeOf (W : String → Prop) (s : String) : Prop := ∀ t ∈ segments s, W t

variable {W : String → Prop} {s t : String}

theorem MadeOf.append_dot (first : MadeOf W s) (second : MadeOf W t) :
    MadeOf W (s ++ "." ++ t) := by
  rw [MadeOf, segments_append_dot]
  exact List.forall_mem_append.mpr ⟨first, second⟩

theorem MadeOf.ofSegments (first : MadeOf W s) {rest : List String}
    (each : ∀ t ∈ rest, MadeOf W t) : MadeOf W (ofSegments (s :: rest)) := by
  induction rest generalizing s with
  | nil => exact first
  | cons t rest ih =>
    obtain ⟨second, each⟩ := List.forall_mem_cons.mp each
    have joined : Dotted.ofSegments (s :: t :: rest) = s ++ "." ++ Dotted.ofSegments (t :: rest) :=
      Text.join_cons_cons "." s t rest
    rw [joined]
    exact first.append_dot (ih second each)

theorem MadeOf.segment (own : MadeOf W s) (member : t ∈ segments s) : MadeOf W t := by
  rw [MadeOf, segments_of_isPlain (isPlain_of_mem_segments t member)]
  exact List.forall_mem_singleton.mpr (own t member)

theorem MadeOf.head (own : MadeOf W s) : MadeOf W (head s) := by
  obtain ⟨first, rest, parts⟩ := List.exists_cons_of_ne_nil (segments_ne_nil s)
  refine own.segment ?_
  rw [Dotted.head, parts]
  exact List.mem_cons_self

/-- What is put together of the words is nothing, or made of them. -/
theorem MadeOf.ofParts {parts : List String} (each : ∀ t ∈ parts, MadeOf W t) :
    Dotted.ofSegments parts = "" ∨ MadeOf W (Dotted.ofSegments parts) := by
  cases parts with
  | nil => exact .inl rfl
  | cons first rest =>
    obtain ⟨first, each⟩ := List.forall_mem_cons.mp each
    exact .inr (first.ofSegments each)

theorem MadeOf.package {m : ModuleName.Identity} (own : m.name = "" ∨ MadeOf W m.name) :
    m.package = "" ∨ MadeOf W m.package := by
  rw [ModuleName.Identity.package]
  split
  · exact own
  · rcases own with none | own
    · rw [none]
      exact .inl rfl
    · exact MadeOf.ofParts fun t member => own.segment (List.dropLast_subset _ member)

/-- The name of a module that is imported is made of the words of the import and of the
package. -/
theorem MadeOf.absolute? {module : Option String} {level : Int} {package m : String}
    (outer : package = "" ∨ MadeOf W package) (inner : ∀ t ∈ module, MadeOf W t)
    (named : ModuleName.absolute? module level package = some m) : MadeOf W m := by
  have given {s : String} (own : s = "" ∨ MadeOf W s)
      (found : (if s.isEmpty then none else some s) = some m) : MadeOf W m := by
    split at found
    · cases found
    · rename_i some
      cases found
      exact own.resolve_left (by simpa using some)
  have below : module.getD "" = "" ∨ MadeOf W (module.getD "") := by
    cases module with
    | none => exact .inl rfl
    | some t => exact .inr (inner t rfl)
  have above : ∀ t ∈ if package.isEmpty then [] else segments package, MadeOf W t := by
    split
    · exact nofun
    · rename_i held
      exact fun t => (outer.resolve_left (by simpa using held)).segment
  rw [ModuleName.absolute?] at named
  dsimp only at named
  generalize (if package.isEmpty then [] else segments package) = base at named above
  have kept : ∀ t ∈ base.take (base.length - (level - 1).toNat), MadeOf W t :=
    fun t member => above t (List.mem_of_mem_take member)
  split at named
  · exact given below named
  · split at named
    · cases named
    · refine given (MadeOf.ofParts ?_) named
      split
      · exact kept
      · rename_i held
        have below := below.resolve_left (by simpa using held)
        exact List.forall_mem_append.mpr ⟨kept, fun t => below.segment⟩

end Dotted

/-! ## Questions -/

namespace Query

variable {α β : Type} {G : String → Prop} {U : SourceUnit → Prop} {R : α → Prop}
  {S : β → Prop}

/-- Whatever the answers are, as long as the units among them have the property `U`: the query asks
for modules of the kind `G` only, and its value has the property `R`. -/
inductive Asks (G : String → Prop) (U : SourceUnit → Prop) (R : α → Prop) : Query α → Prop
  | done {a : α} (result : R a) : Asks G U R (done a)
  | fail (cause : Fault) : Asks G U R (fail cause)
  | ask {m : String} {next : Option SourceUnit → Query α} (own : G m)
      (more : ∀ found, (∀ u ∈ found, U u) → Asks G U R (next found)) : Asks G U R (ask m next)

namespace Asks

theorem pure {a : α} (result : R a) : Asks G U R (Pure.pure a) := .done result

theorem bind {q : Query α} {f : α → Query β} (first : q.Asks G U R)
    (second : ∀ a, R a → (f a).Asks G U S) : (q >>= f).Asks G U S := by
  induction first with
  | done result => exact second _ result
  | fail cause => exact .fail cause
  | ask own _ ih => exact .ask own ih

theorem attempt {q : Query α} (asks : q.Asks G U R) :
    q.attempt.Asks G U fun outcome => ∀ a, outcome = .ok a → R a := by
  induction asks with
  | done result =>
    refine .done fun a same => ?_
    cases same
    exact result
  | fail cause => exact .done nofun
  | ask own _ ih => exact .ask own ih

theorem outside {m : String} (own : G m) :
    (Query.outside m).Asks G U fun found => ∀ u ∈ found, U u :=
  .ask own fun _ units => .done units

/-- What is asked for is of the kind. -/
theorem asked {q : Query α} {known : String → Except Fault (Option SourceUnit)}
    (asks : q.Asks G U R) (units : ∀ m u, G m → known m = .ok (some u) → U u) :
    ∀ m ∈ q.asked known, G m := by
  induction asks with
  | done | fail => rintro m ⟨⟩
  | @ask m next own _ ih =>
    rw [Query.asked]
    refine List.forall_mem_cons.mpr ⟨own, ?_⟩
    cases given : known m with
    | error cause => rintro m ⟨⟩
    | ok found =>
      refine ih found fun u one => units m u own ?_
      rw [given, Option.mem_def.mp one]

end Asks

end Query

/-! ## Units -/

/-- The names that a node imports or makes use of. -/
def Syntax.Node.accessed : Node → List String
  | name _ id _ => [id]
  | attr _ _ label => [label]
  | importFrom _ module _ _ => module.toList
  | importAlias _ label _ => [label]
  | _ => []

/-- A function or a class is defined in the scope. -/
def Scope.defines (s : Scope) : Bool :=
  s.symbols.any fun symbol => symbol.bindings.any fun b => b.form.isDeclaration

/-- What the unit imports or makes use of is made of the words, and so are the names around its
definitions. -/
structure SourceUnit.Says (W : String → Prop) (u : SourceUnit) : Prop where
  accessed : ∀ k ∈ Node.preorder u.body, ∀ w ∈ k.accessed, Dotted.MadeOf W w
  around : ∀ n s, u.scopes.get? n = some s → s.defines = true →
    ∀ name ∈ (u.scopes.path n).drop 1, Dotted.MadeOf W name

instance {W : String → Prop} [DecidablePred W] (s : String) : Decidable (Dotted.MadeOf W s) :=
  inferInstanceAs (Decidable (∀ t ∈ Dotted.segments s, W t))

instance {W : String → Prop} [DecidablePred W] (u : SourceUnit) : Decidable (u.Says W) :=
  decidable_of_iff ((∀ k ∈ Node.preorder u.body, ∀ w ∈ k.accessed, Dotted.MadeOf W w) ∧
      ∀ n < u.scopes.scopes.size, ∀ s ∈ u.scopes.get? n, s.defines = true →
        ∀ name ∈ (u.scopes.path n).drop 1, Dotted.MadeOf W name) (by
    constructor
    · rintro ⟨accessed, around⟩
      refine ⟨accessed, fun n s found => around n ?_ s found⟩
      exact (Array.getElem?_eq_some_iff.mp found).1
    · rintro ⟨accessed, around⟩
      exact ⟨accessed, fun n _ s found => around n s found⟩)

/-- The unit was read from a text, and all names that come from it are made of the words. -/
structure SourceUnit.Uses (W : String → Prop) (u : SourceUnit) : Prop extends u.Says W where
  read : u.IsRead
  module : u.moduleName = "" ∨ Dotted.MadeOf W u.moduleName

namespace SourceUnit.Uses

variable {W : String → Prop} {u : SourceUnit} (uses : u.Uses W)
include uses

theorem package : u.package = "" ∨ Dotted.MadeOf W u.package :=
  Dotted.MadeOf.package uses.module

theorem importsFrom {k : Node} {m : String} (inside : k ∈ Node.preorder u.body)
    (imports : k.ImportsFrom u.package m) : Dotted.MadeOf W m := by
  obtain ⟨named⟩ := imports
  refine .absolute? uses.package (fun t one => ?_) named
  exact uses.accessed _ inside t (Option.mem_toList.mpr one)

theorem imports {k : Node} {target : String} (inside : k ∈ Node.preorder u.body)
    (imports : k.Imports u.package target) : Dotted.MadeOf W target := by
  have part {info : Info} {label : String} {asName : Option String}
      (one : .importAlias info label asName ∈ k.children) : Dotted.MadeOf W label :=
    uses.accessed (.importAlias info label asName) (Node.mem_preorder_of_child inside one) label
      (List.mem_singleton_self label)
  cases imports with
  | module one => exact part one
  | package one => exact (part one).head
  | member named one => exact (uses.importsFrom inside (.intro named)).append_dot (part one)

theorem star : ∀ m ∈ u.topScope.stars, Dotted.MadeOf W m := by
  intro m member
  obtain ⟨k, inside, imports⟩ := exists_importsFrom uses.read member
  exact uses.importsFrom inside imports

theorem target {ref : SymbolRef} {b : Binding} {t : String}
    (only : Resolve.definite? u ref = some b) (form : b.form.target? = some t) :
    Dotted.MadeOf W t := by
  have made := (made_of_definite? uses.read only).2.1
  cases imported : b.form with
  | imported target =>
    rw [imported] at form made
    cases form
    obtain ⟨k, inside, imports⟩ := made
    exact uses.imports inside imports
  | _ =>
    rw [imported] at form
    cases form

theorem value {ref : SymbolRef} {b : Binding} {v : Node}
    (only : Resolve.definite? u ref = some b) (form : b.form = .assigned v) :
    v ∈ Node.preorder u.body := by
  have made := (made_of_definite? uses.read only).2.1
  rw [form] at made
  exact made

/-- The qualified name of a definition is made of the words. -/
theorem scopeQualname (named : ¬ W "") {ref : SymbolRef} {b : Binding}
    (own : Dotted.MadeOf W ref.name) (only : Resolve.definite? u ref = some b)
    (declares : b.form.isDeclaration = true) : Dotted.MadeOf W (Resolve.scopeQualname u ref) := by
  obtain ⟨symbol, has, only⟩ := Option.bind_eq_some_iff.mp only
  obtain ⟨s, scope, has⟩ := Option.bind_eq_some_iff.mp has
  have defines : s.defines = true := by
    rw [Scope.defines, List.any_eq_true]
    refine ⟨symbol, List.mem_of_find?_eq_some has, List.any_eq_true.mpr ⟨b, ?_, declares⟩⟩
    exact Symbol.mem_of_definite? only
  have around := uses.around ref.scope s scope defines
  have filled : ref.name ≠ "" := by
    intro none
    rw [none] at own
    exact named (own "" (by decide))
  rw [Resolve.scopeQualname]
  generalize pieces : (u.moduleName :: (u.scopes.path ref.scope).drop 1 ++ [ref.name]).filter
    (· != "") = parts
  have each : ∀ t ∈ parts, Dotted.MadeOf W t := by
    intro t member
    rw [← pieces, List.mem_filter] at member
    simp only [List.cons_append, List.mem_cons, List.mem_append, List.not_mem_nil, or_false]
      at member
    obtain ⟨rfl | member | rfl, some⟩ := member
    · exact uses.module.resolve_left (by simpa using some)
    · exact around t member
    · exact own
  have last : ref.name ∈ parts := by simp [← pieces, filled]
  obtain ⟨first, rest, rfl⟩ := List.exists_cons_of_ne_nil (List.ne_nil_of_mem last)
  obtain ⟨first, each⟩ := List.forall_mem_cons.mp each
  exact first.ofSegments each

end SourceUnit.Uses

/-- The query asks for modules whose names are made of the words only, if what it is told uses no
others. -/
abbrev Query.AsksIn {α : Type} (W : String → Prop) (R : α → Prop) (q : Query α) : Prop :=
  q.Asks (Dotted.MadeOf W) (SourceUnit.Uses W) R

/-! ## What names ask for -/

namespace Resolve

variable {W : String → Prop} {units : List SourceUnit}

/-- Of the cuts of a name both parts are made of its words. -/
theorem madeOf_of_mem_cuts {q : String} (own : Dotted.MadeOf W q) {c : String × List String}
    (member : c ∈ cuts q) : Dotted.MadeOf W c.1 ∧ ∀ t ∈ c.2, Dotted.MadeOf W t := by
  obtain ⟨k, small, rfl⟩ := List.mem_map.mp member
  refine ⟨?_, fun t member => own.segment (List.mem_of_mem_drop member)⟩
  obtain ⟨first, rest, parts⟩ := List.exists_cons_of_ne_nil (Dotted.segments_ne_nil q)
  have left : ∃ n, (Dotted.segments q).length - k = n + 1 := by
    have := List.mem_range.mp small
    exact ⟨(Dotted.segments q).length - k - 1, by omega⟩
  obtain ⟨n, left⟩ := left
  have each : ∀ t ∈ first :: rest, Dotted.MadeOf W t := by
    rw [← parts]
    exact fun t => own.segment
  obtain ⟨first, each⟩ := List.forall_mem_cons.mp each
  dsimp only
  rw [left, parts, List.take_succ_cons]
  exact first.ofSegments fun t member => each t (List.mem_of_mem_take member)

variable (inside : ∀ u ∈ units, u.Uses W)
include inside

theorem uses_of_indexed? {m : String} {u : SourceUnit} (found : indexed? units m = some u) :
    u.Uses W :=
  inside u (named_of_indexed? found).1

theorem asks_unitFor? {m : String} (own : Dotted.MadeOf W m) :
    (unitFor? units m).AsksIn W fun found => ∀ u ∈ found, u.Uses W := by
  rw [unitFor?]
  cases found : indexed? units m with
  | some u =>
    refine .pure fun v same => ?_
    cases same
    exact uses_of_indexed? inside found
  | none =>
    dsimp only
    split
    · exact .pure nofun
    · exact .outside own

omit inside

theorem asks_firstOutside? {cs : List (String × List String)}
    (own : ∀ c ∈ cs, Dotted.MadeOf W c.1 ∧ ∀ t ∈ c.2, Dotted.MadeOf W t) :
    (firstOutside? cs).AsksIn W fun found =>
      ∀ x ∈ found, x.1.Uses W ∧ ∀ t ∈ x.2, Dotted.MadeOf W t := by
  induction cs with
  | nil => exact .pure nofun
  | cons c more ih =>
    obtain ⟨first, own⟩ := List.forall_mem_cons.mp own
    refine (Query.Asks.outside first.1).bind fun found units => ?_
    cases found with
    | none => exact ih own
    | some u =>
      refine .pure fun x same => ?_
      cases same
      exact ⟨units u rfl, first.2⟩

include inside

theorem asks_split? {q : String} (own : Dotted.MadeOf W q) :
    (split? units q).AsksIn W fun found =>
      ∀ x ∈ found, x.1.Uses W ∧ ∀ t ∈ x.2, Dotted.MadeOf W t := by
  rw [split?]
  split
  · rename_i found hit
    refine .pure fun x same => ?_
    cases same
    obtain ⟨c, member, hit⟩ := List.exists_of_findSome?_eq_some hit
    obtain ⟨u, indexed, rfl⟩ := Option.map_eq_some_iff.mp hit
    exact ⟨uses_of_indexed? inside indexed, (madeOf_of_mem_cuts own member).2⟩
  · exact asks_firstOutside? fun c member => madeOf_of_mem_cuts own member

theorem asks_starTargetIn? {name : String} (own : Dotted.MadeOf W name) {modules : List String}
    (each : ∀ m ∈ modules, Dotted.MadeOf W m) :
    (starTargetIn? units name modules).AsksIn W fun found => ∀ t ∈ found, Dotted.MadeOf W t := by
  induction modules with
  | nil => exact .pure nofun
  | cons m rest ih =>
    obtain ⟨first, each⟩ := List.forall_mem_cons.mp each
    refine (asks_unitFor? inside first).bind fun found _ => ?_
    cases found with
    | none => exact ih each
    | some u =>
      dsimp only
      split
      · refine .pure fun t same => ?_
        cases same
        exact first.append_dot own
      · exact ih each

theorem asks_starTarget? {u : SourceUnit} (uses : u.Uses W) {name : String}
    (own : Dotted.MadeOf W name) :
    (starTarget? units u name).AsksIn W fun found => ∀ t ∈ found, Dotted.MadeOf W t :=
  asks_starTargetIn? inside own uses.star

theorem asks_redirect? {q : String} (own : Dotted.MadeOf W q) :
    (redirect? units q).AsksIn W fun found => ∀ t ∈ found, Dotted.MadeOf W t := by
  refine (asks_split? inside own).bind fun found known => ?_
  cases found with
  | none => exact .pure nofun
  | some x =>
    obtain ⟨u, rest⟩ := x
    obtain ⟨uses, words⟩ := known _ rfl
    cases rest with
    | nil => exact .pure nofun
    | cons name rest =>
      obtain ⟨first, words⟩ := List.forall_mem_cons.mp words
      dsimp only
      cases has : u.topSymbol? name with
      | none =>
        refine (asks_starTarget? inside uses first).bind fun found targets => .pure ?_
        intro t same
        obtain ⟨target, one, rfl⟩ := Option.map_eq_some_iff.mp same
        exact (targets target one).ofSegments words
      | some symbol =>
        refine .pure fun t same => ?_
        obtain ⟨target, one, rfl⟩ := Option.map_eq_some_iff.mp same
        obtain ⟨b, only, form⟩ := Option.bind_eq_some_iff.mp one
        have only : definite? u (atTop name) = some b := by
          rw [definite?_atTop, has]
          exact only
        exact (uses.target only form).ofSegments words

theorem asks_canonicalFrom (fuel : Nat) (seen : List String) {q : String}
    (own : Dotted.MadeOf W q) :
    (canonicalFrom units fuel seen q).AsksIn W (Dotted.MadeOf W) := by
  induction fuel generalizing seen q with
  | zero => exact .fail _
  | succ fuel ih =>
    rw [canonicalFrom]
    split
    · exact .pure own
    · refine (asks_redirect? inside own).bind fun found targets => ?_
      cases found with
      | none => exact .pure own
      | some next => exact ih (q :: seen) (targets next rfl)

theorem asks_canonical {q : String} (own : Dotted.MadeOf W q) :
    (canonical units q).AsksIn W (Dotted.MadeOf W) :=
  asks_canonicalFrom inside maxRedirects [] own

theorem asks_matchesTarget (q : Option String) {target : String}
    (own : Dotted.MadeOf W target) :
    (matchesTarget units q target).AsksIn W fun _ => True := by
  cases q with
  | none => exact .pure trivial
  | some q =>
    rw [matchesTarget]
    split
    · exact .pure trivial
    · split
      · exact .pure trivial
      · exact (asks_canonical inside own).bind fun _ _ => .pure trivial

theorem asks_lookupSymbol {q : String} (own : Dotted.MadeOf W q) :
    (lookupSymbol units q).AsksIn W fun found => ∀ x ∈ found, x.1.Uses W := by
  refine (asks_canonical inside own).bind fun r words => ?_
  refine (asks_split? inside words).bind fun found known => ?_
  cases found with
  | none => exact .pure nofun
  | some x =>
    refine .pure fun y same => ?_
    obtain ⟨ref, -, rfl⟩ := Option.map_eq_some_iff.mp same
    exact (known x rfl).1

/-! ## What expressions ask for -/

variable (named : ¬ W "")
include named

theorem asks_names {u : SourceUnit} (uses : u.Uses W) (fuel : Nat) (seen : List SymbolKey) :
    (∀ ref, Dotted.MadeOf W ref.name →
      (symbolName units fuel seen u ref).AsksIn W fun found =>
        ∀ q ∈ found, Dotted.MadeOf W q) ∧
    ∀ expr ∈ Node.preorder u.body,
      (expressionName units fuel seen u expr).AsksIn W fun found =>
        ∀ q ∈ found, Dotted.MadeOf W q := by
  induction fuel generalizing seen with
  | zero =>
    constructor
    · intro ref _
      rw [symbolName]
      exact .fail _
    · intro expr _
      rw [expressionName.eq_def]
      exact .fail _
  | succ fuel ih =>
    constructor
    · intro ref own
      rw [symbolName, ← definite?]
      cases only : definite? u ref with
      | none => exact .pure (by rintro _ ⟨⟩)
      | some b =>
        dsimp only
        cases form : b.form with
        | imported target =>
          refine (asks_canonical inside (uses.target only (by rw [form]; rfl))).bind
            fun q words => .pure ?_
          rintro _ ⟨⟩
          exact words
        | function | classDef =>
          refine .pure ?_
          rintro _ ⟨⟩
          exact uses.scopeQualname named own only (by rw [form]; rfl)
        | assigned value =>
          dsimp only
          split
          · exact .pure (by rintro _ ⟨⟩)
          · exact (ih _).2 value (uses.value only form)
        | parameter | other => exact .pure (by rintro _ ⟨⟩)
    · intro expr stands
      have words := uses.accessed expr stands
      cases expr with
      | name info id context =>
        have own := words id (List.mem_singleton_self id)
        simp only [expressionName]
        cases leads : u.symbolFor? info.id id with
        | none => exact asks_starTarget? inside uses own
        | some ref =>
          refine (ih seen).1 ref ?_
          rw [(ScopeTable.isBound_of_symbolFor? leads).1]
          exact own
      | attr info value label =>
        have own := words label (List.mem_singleton_self label)
        have part := Node.mem_preorder_of_child stands (List.mem_singleton_self value)
        simp only [expressionName]
        refine ((ih seen).2 value part).bind fun base known => ?_
        cases base with
        | none => exact .pure (by rintro _ ⟨⟩)
        | some base =>
          dsimp only
          split
          · exact .pure (by rintro _ ⟨⟩)
          · refine (asks_canonical inside ((known base rfl).append_dot own)).bind
              fun q words => .pure ?_
            rintro _ ⟨⟩
            exact words
      | _ => exact .pure (by rintro _ ⟨⟩)

theorem asks_qualifiedName {u : SourceUnit} (uses : u.Uses W) {expr : Node}
    (stands : expr ∈ Node.preorder u.body) :
    (qualifiedName units u expr).AsksIn W fun found => ∀ q ∈ found, Dotted.MadeOf W q :=
  (asks_names inside named uses maxNesting []).2 expr stands

theorem asks_values (fuel : Nat) (seen : List SymbolKey) :
    (∀ u expr, u.Uses W → expr ∈ Node.preorder u.body →
      (referenceValue units fuel seen u expr).AsksIn W fun _ => True) ∧
    (∀ q : Option String, (∀ s ∈ q, Dotted.MadeOf W s) →
      (qualifiedValue units fuel seen q).AsksIn W fun _ => True) ∧
    (∀ u ref, u.Uses W →
      (constantValue units fuel seen u ref).AsksIn W fun _ => True) ∧
    ∀ u expr, u.Uses W → expr ∈ Node.preorder u.body →
      (definitionValue units fuel seen u expr).AsksIn W fun _ => True := by
  induction fuel generalizing seen with
  | zero =>
    refine ⟨?_, ?_, ?_, ?_⟩
    · intro u expr _ _
      rw [referenceValue.eq_def]
      exact .fail _
    · intro q _
      rw [qualifiedValue.eq_def]
      exact .fail _
    · intro u ref _
      rw [constantValue]
      exact .fail _
    · intro u expr _ _
      rw [definitionValue.eq_def]
      exact .fail _
  | succ fuel ih =>
    have named? {u : SourceUnit} (uses : u.Uses W) {expr : Node}
        (stands : expr ∈ Node.preorder u.body) :
        (do let q ← expressionName units fuel [] u expr
            qualifiedValue units fuel seen q).AsksIn W fun _ => True :=
      ((asks_names inside named uses fuel []).2 expr stands).bind fun q words =>
        (ih seen).2.1 q words
    refine ⟨?_, ?_, ?_, ?_⟩
    · intro u expr uses stands
      cases expr with
      | constant info text => exact .pure trivial
      | name info id context =>
        simp only [referenceValue]
        split
        · exact named? uses stands
        · exact (ih seen).2.2.1 u _ uses
      | attr info value label =>
        simp only [referenceValue]
        exact named? uses stands
      | _ => exact .pure trivial
    · intro q words
      cases q with
      | none => exact .pure trivial
      | some q =>
        simp only [qualifiedValue]
        split
        · exact .pure trivial
        · refine (asks_lookupSymbol inside (words q rfl)).bind fun found known => ?_
          cases found with
          | none => exact .pure trivial
          | some x => exact (ih seen).2.2.1 x.1 x.2 (known x rfl)
    · intro u ref uses
      rw [constantValue, ← definite?]
      split
      · exact .pure trivial
      · cases only : definite? u ref with
        | none => exact .pure trivial
        | some b =>
          dsimp only
          cases form : b.form with
          | imported target =>
            refine (asks_canonical inside (uses.target only (by rw [form]; rfl))).bind
              fun q words => ?_
            refine (ih _).2.1 (some q) ?_
            rintro _ ⟨⟩
            exact words
          | assigned value => exact (ih _).2.2.2 u value uses (uses.value only form)
          | _ => exact .pure trivial
    · intro u expr uses stands
      cases expr with
      | binOp info isAdd left right =>
        cases isAdd with
        | false => exact (ih seen).1 u _ uses stands
        | true =>
          have first := Node.mem_preorder_of_child stands (c := left) (by simp [Node.children])
          have second := Node.mem_preorder_of_child stands (c := right) (by simp [Node.children])
          simp only [definitionValue]
          refine ((ih seen).2.2.2 u left uses first).bind fun a _ => ?_
          refine ((ih seen).2.2.2 u right uses second).bind fun b _ => ?_
          cases a <;> cases b <;> exact .pure trivial
      | _ => exact (ih seen).1 u _ uses stands

theorem asks_fieldText {u : SourceUnit} (uses : u.Uses W) {expr : Node}
    (stands : expr ∈ Node.preorder u.body) :
    (fieldText units u expr).AsksIn W fun _ => True :=
  ((asks_values inside named maxNesting []).1 u expr uses stands).bind fun _ _ => .pure trivial

end Resolve

end Catalog
