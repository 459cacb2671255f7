import Catalog.Proofs.Scope.Reading
import Catalog.Scope.Build

/-!
# What reading leaves in the table of scopes

Taking steps never loses anything: a table `Extends` another one if its scopes have at least the
bindings of the other's, and the declarations of all scopes but the module's are the same. The
steps of a tree extend the table and come back to the scope in which they began; so the state at a
binding tells what the finished table knows of its scope.
-/

namespace Catalog

open Syntax

/-! ## Bindings of a scope -/

namespace Scope

variable {s : Scope} {name other : String} {b : Binding}

theorem find?_addTo_self (symbols : List Symbol) :
    (addTo name b symbols).find? (fun symbol => symbol.name == name) =
      some { name, bindings :=
        ((symbols.find? fun symbol => symbol.name == name).elim [] Symbol.bindings) ++ [b] } := by
  induction symbols with
  | nil => simp [addTo]
  | cons symbol rest ih =>
    by_cases same : symbol.name == name
    · obtain rfl := beq_iff_eq.mp same
      simp [addTo]
    · simp [addTo, same, ih]

theorem find?_addTo_other (different : other ≠ name) (symbols : List Symbol) :
    (addTo name b symbols).find? (fun symbol => symbol.name == other) =
      symbols.find? fun symbol => symbol.name == other := by
  induction symbols with
  | nil => simp [addTo, different.symm]
  | cons symbol rest ih =>
    by_cases same : symbol.name == name
    · obtain rfl := beq_iff_eq.mp same
      simp [addTo, different.symm]
    · rw [addTo, if_neg same, List.find?_cons, List.find?_cons, ih]

theorem symbol?_bind_self (s : Scope) (name : String) (b : Binding) :
    (s.bind name b).symbol? name =
      some { name, bindings := (s.symbol? name).elim [] Symbol.bindings ++ [b] } :=
  find?_addTo_self s.symbols

theorem symbol?_bind_other (s : Scope) (b : Binding) (different : other ≠ name) :
    (s.bind name b).symbol? other = s.symbol? other :=
  find?_addTo_other different s.symbols

/-- The scope `s'` has what `s` has, and nothing else that matters to other scopes: it may have
more bindings. Only in a module declarations may be added. -/
structure Grows (s s' : Scope) : Prop where
  kind : s'.kind = s.kind
  outer : s'.outer = s.outer
  globals : s.kind ≠ .module → ∀ name, name ∈ s'.globals ↔ name ∈ s.globals
  nonlocals : s.kind ≠ .module → ∀ name, name ∈ s'.nonlocals ↔ name ∈ s.nonlocals
  bindings : ∀ name symbol, s.symbol? name = some symbol →
    ∃ symbol', s'.symbol? name = some symbol' ∧ symbol.bindings <+: symbol'.bindings

theorem Grows.refl (s : Scope) : s.Grows s :=
  ⟨rfl, rfl, fun _ _ => .rfl, fun _ _ => .rfl,
    fun _ symbol found => ⟨symbol, found, List.prefix_rfl⟩⟩

theorem Grows.trans {s' s'' : Scope} (first : s.Grows s') (second : s'.Grows s'') :
    s.Grows s'' where
  kind := second.kind.trans first.kind
  outer := second.outer.trans first.outer
  globals nested name :=
    (second.globals (first.kind ▸ nested) name).trans (first.globals nested name)
  nonlocals nested name :=
    (second.nonlocals (first.kind ▸ nested) name).trans (first.nonlocals nested name)
  bindings name symbol found := by
    obtain ⟨symbol', found', fewer⟩ := first.bindings name symbol found
    obtain ⟨symbol'', found'', more⟩ := second.bindings name symbol' found'
    exact ⟨symbol'', found'', fewer.trans more⟩

theorem grows_bind (s : Scope) (name : String) (b : Binding) : s.Grows (s.bind name b) := by
  refine ⟨rfl, rfl, fun _ _ => .rfl, fun _ _ => .rfl, fun other symbol found => ?_⟩
  by_cases same : other = name
  · subst same
    refine ⟨_, symbol?_bind_self s other b, ?_⟩
    rw [found]
    exact List.prefix_append _ _
  · exact ⟨symbol, (symbol?_bind_other s b same).trans found, List.prefix_rfl⟩

theorem binds_iff : s.binds name = true ↔ ∃ symbol, s.symbol? name = some symbol :=
  Option.isSome_iff_exists

end Scope

/-! ## Tables -/

namespace ScopeTable

variable {t t' : ScopeTable}

/-- The table `t'` has all scopes of `t`, with at least their bindings, and all places. -/
structure Extends (t t' : ScopeTable) : Prop where
  scopes : ∀ n s, t.get? n = some s → ∃ s', t'.get? n = some s' ∧ s.Grows s'
  places : t.places <:+ t'.places

theorem Extends.refl (t : ScopeTable) : t.Extends t :=
  ⟨fun _ s found => ⟨s, found, .refl s⟩, List.suffix_rfl⟩

theorem Extends.trans {t'' : ScopeTable} (first : t.Extends t') (second : t'.Extends t'') :
    t.Extends t'' where
  scopes n s found := by
    obtain ⟨s', found', grows⟩ := first.scopes n s found
    obtain ⟨s'', found'', more⟩ := second.scopes n s' found'
    exact ⟨s'', found'', grows.trans more⟩
  places := first.places.trans second.places

theorem get?_modify (t : ScopeTable) (n k : Nat) (g : Scope → Scope) :
    ({ t with scopes := t.scopes.modify n g } : ScopeTable).get? k =
      if n = k then (t.get? k).map g else t.get? k :=
  Array.getElem?_modify

theorem extends_modify {n : Nat} {g : Scope → Scope}
    (grows : ∀ s, t.get? n = some s → s.Grows (g s)) :
    t.Extends { t with scopes := t.scopes.modify n g } := by
  refine ⟨fun k s found => ?_, List.suffix_rfl⟩
  rw [get?_modify]
  split
  · rename_i same
    subst same
    exact ⟨g s, by rw [found, Option.map_some], grows s found⟩
  · exact ⟨s, found, .refl s⟩

theorem get?_push_of_lt {scope : Scope} {k : Nat} {s : Scope} (found : t.get? k = some s) :
    ({ t with scopes := t.scopes.push scope } : ScopeTable).get? k = some s := by
  have bound : k < t.scopes.size := (Array.getElem?_eq_some_iff.mp found).1
  rw [get?, Array.getElem?_push_lt bound]
  exact Array.getElem?_eq_some_iff.mp found |>.2 ▸ rfl

theorem get?_push_self (t : ScopeTable) (scope : Scope) :
    ({ t with scopes := t.scopes.push scope } : ScopeTable).get? t.scopes.size = some scope :=
  Array.getElem?_push_size

end ScopeTable

/-! ## Declared names -/

/-- The names that a step declares to be those of the module. -/
def Step.globals : Step → List String
  | declareGlobal names => names
  | _ => []

/-- The names that a step declares to be those of a function around. -/
def Step.nonlocals : Step → List String
  | declareNonlocal names => names
  | _ => []

/-- The step changes nothing but the current scope. -/
def Step.isLocal : Step → Bool
  | place _ | bind true _ _ | declareGlobal _ | declareNonlocal _ => true
  | _ => false

namespace Frame

/-- The names that are declared in the scope to be those of the module. -/
def globals (f : Frame) : List String := f.declared.flatMap Step.globals

/-- The names that are declared in the scope to be those of a function around. -/
def nonlocals (f : Frame) : List String := f.declared.flatMap Step.nonlocals

end Frame

namespace ScopeBuilder

variable {b : ScopeBuilder} {f : Frame} {s : Scope}

/-- The current scope is `s`, and it is the one that is read. -/
structure At (b : ScopeBuilder) (f : Frame) (s : Scope) : Prop where
  scope : b.table.get? b.current = some s
  kind : s.kind = f.kind
  outer : s.outer = b.outer
  around : ∀ k ∈ b.outer, k < b.current
  module : f.kind = .module → b.current = ScopeTable.moduleScope ∧ b.outer = []
  globals : f.kind ≠ .module → ∀ name, name ∈ s.globals ↔ name ∈ f.globals
  nonlocals : f.kind ≠ .module → ∀ name, name ∈ s.nonlocals ↔ name ∈ f.nonlocals

/-- The builder is ready to read in the scope. -/
def Fits (b : ScopeBuilder) (f : Frame) : Prop := ∃ s, b.At f s

theorem At.grow {t : ScopeTable} {s' : Scope} (here : b.At f s) (found : t.get? b.current = some s')
    (grows : s.Grows s') : ({ b with table := t } : ScopeBuilder).At f s' where
  scope := found
  kind := grows.kind.trans here.kind
  outer := grows.outer.trans here.outer
  around := here.around
  module := here.module
  globals nested name :=
    (grows.globals (here.kind ▸ nested) name).trans (here.globals nested name)
  nonlocals nested name :=
    (grows.nonlocals (here.kind ▸ nested) name).trans (here.nonlocals nested name)

theorem Fits.extend {t : ScopeTable} (fits : b.Fits f) (more : b.table.Extends t) :
    ({ b with table := t } : ScopeBuilder).Fits f := by
  obtain ⟨s, here⟩ := fits
  obtain ⟨s', found, grows⟩ := more.scopes b.current s here.scope
  exact ⟨s', here.grow found grows⟩

/-! ## Local steps -/

/-- What local steps leave: the other scopes are as they were, and the current one has the names
that they declare. -/
structure Opens (b : ScopeBuilder) (s : Scope) (steps : List Step) (t : ScopeTable) (s' : Scope) :
    Prop where
  run : steps.foldl take b = { b with table := t }
  others : ∀ k, k ≠ b.current → t.get? k = b.table.get? k
  current : t.get? b.current = some s'
  kind : s'.kind = s.kind
  outer : s'.outer = s.outer
  globals : s'.globals = s.globals ++ steps.flatMap Step.globals
  nonlocals : s'.nonlocals = s.nonlocals ++ steps.flatMap Step.nonlocals
  places : b.table.places <:+ t.places

theorem take_local {step : Step} (isLocal : step.isLocal = true)
    (found : b.table.get? b.current = some s) : ∃ t s', b.Opens s [step] t s' := by
  have modified (g : Scope → Scope) :
      ∀ k, k ≠ b.current → (b.modifyScope b.current g).table.get? k = b.table.get? k := by
    intro k other
    rw [modifyScope, ScopeTable.get?_modify, if_neg other.symm]
  have changed (g : Scope → Scope) :
      (b.modifyScope b.current g).table.get? b.current = some (g s) := by
    rw [modifyScope, ScopeTable.get?_modify, if_pos rfl, found, Option.map_some]
  cases step with
  | place node =>
    exact ⟨_, s, rfl, fun _ _ => rfl, found, rfl, rfl, by simp [Step.globals],
      by simp [Step.nonlocals], List.suffix_cons _ _⟩
  | bind fixed name binding =>
    cases fixed with
    | false => cases isLocal
    | true =>
      exact ⟨_, _, rfl, modified _, changed _, rfl, rfl, by simp [Step.globals, Scope.bind],
        by simp [Step.nonlocals, Scope.bind], List.suffix_rfl⟩
  | declareGlobal names =>
    exact ⟨_, _, rfl, modified _, changed _, rfl, rfl, by simp [Step.globals],
      by simp [Step.nonlocals], List.suffix_rfl⟩
  | declareNonlocal names =>
    exact ⟨_, _, rfl, modified _, changed _, rfl, rfl, by simp [Step.globals],
      by simp [Step.nonlocals], List.suffix_rfl⟩
  | _ => cases isLocal

theorem run_local {steps : List Step} (allLocal : ∀ step ∈ steps, step.isLocal = true)
    (found : b.table.get? b.current = some s) : ∃ t s', b.Opens s steps t s' := by
  induction steps generalizing b s with
  | nil =>
    exact ⟨b.table, s, rfl, fun _ _ => rfl, found, rfl, rfl, by simp, by simp, List.suffix_rfl⟩
  | cons step rest ih =>
    obtain ⟨first, allLocal⟩ := List.forall_mem_cons.mp allLocal
    obtain ⟨t, s', one⟩ := take_local first found
    obtain ⟨t', s'', more⟩ := @ih { b with table := t } s' allLocal one.current
    refine ⟨t', s'', ?_, ?_, more.current, more.kind.trans one.kind, more.outer.trans one.outer,
      ?_, ?_, one.places.trans more.places⟩
    · rw [List.foldl_cons, show b.take step = { b with table := t } from one.run]
      exact more.run
    · exact fun k other => (more.others k other).trans (one.others k other)
    · rw [more.globals, one.globals]
      simp
    · rw [more.nonlocals, one.nonlocals]
      simp

/-! ## Inner scopes -/

theorem isLocal_parameterStep (n : Node) : ∀ step ∈ n.parameterStep, step.isLocal = true := by
  unfold Node.parameterStep
  split <;> simp [Step.isLocal]

theorem isLocal_of_isDeclaration {step : Step} (declares : step.isDeclaration = true) :
    step.isLocal = true := by
  cases step with
  | declareGlobal | declareNonlocal => rfl
  | _ => cases declares

theorem parameterStep_declares_nothing (params : List Node) :
    (params.flatMap Node.parameterStep).flatMap Step.globals = [] ∧
      (params.flatMap Node.parameterStep).flatMap Step.nonlocals = [] := by
  induction params with
  | nil => exact ⟨rfl, rfl⟩
  | cons n rest ih =>
    rw [List.flatMap_cons, List.flatMap_append, List.flatMap_append, ih.1, ih.2]
    unfold Node.parameterStep
    split <;> simp [Step.globals, Step.nonlocals]

/-- Opening a scope, with its parameters and declarations, makes the builder ready to read in it.
The scopes around are as they were. -/
theorem opens_fits {inner : Frame} (fits : b.Fits f) (info : Info) (name : String)
    (body params : List Node) (nested : inner.kind ≠ .module)
    (declares : ∀ step ∈ inner.declared, step.isDeclaration = true) :
    ∃ t, (.enter inner.kind info name body :: params.flatMap Node.parameterStep ++
        inner.declared).foldl take b =
          { table := t, current := b.table.scopes.size, outer := b.current :: b.outer } ∧
      ScopeBuilder.Fits
        { table := t, current := b.table.scopes.size, outer := b.current :: b.outer } inner ∧
      b.table.Extends t := by
  obtain ⟨s, here⟩ := fits
  have bound : b.current < b.table.scopes.size := (Array.getElem?_eq_some_iff.mp here.scope).1
  have allLocal : ∀ step ∈ params.flatMap Node.parameterStep ++ inner.declared,
      step.isLocal = true := by
    refine List.forall_mem_append.mpr ⟨fun step member => ?_, fun step member => ?_⟩
    · obtain ⟨n, _, inside⟩ := List.mem_flatMap.mp member
      exact isLocal_parameterStep n step inside
    · exact isLocal_of_isDeclaration (declares step member)
  obtain ⟨t, s', opened⟩ := run_local (b := b.take (.enter inner.kind info name body)) allLocal
    (ScopeTable.get?_push_self b.table _)
  refine ⟨t, opened.run, ⟨s', ?_⟩, ?_⟩
  · obtain ⟨noGlobals, noNonlocals⟩ := parameterStep_declares_nothing params
    have globals := opened.globals
    have nonlocals := opened.nonlocals
    rw [List.flatMap_append, noGlobals] at globals
    rw [List.flatMap_append, noNonlocals] at nonlocals
    refine ⟨opened.current, opened.kind, opened.outer, ?_, fun module => absurd module nested,
      fun _ name => by rw [globals]; rfl, fun _ name => by rw [nonlocals]; rfl⟩
    exact List.forall_mem_cons.mpr ⟨bound, fun k member => (here.around k member).trans bound⟩
  · refine ⟨fun k s found => ⟨s, ?_, .refl s⟩, opened.places⟩
    have old : k < b.table.scopes.size := (Array.getElem?_eq_some_iff.mp found).1
    rw [opened.others k (Nat.ne_of_lt old)]
    exact ScopeTable.get?_push_of_lt found

/-! ## Whole trees -/

theorem foldl_leave_table (steps : List Step) (b : ScopeBuilder) :
    ((steps ++ [Step.leave]).foldl take b).table = (steps.foldl take b).table := by
  rw [List.foldl_append, List.foldl_cons, List.foldl_nil, take]
  split <;> rfl

theorem extends_bind (t : ScopeTable) (n : Nat) (name : String) (binding : Binding) :
    t.Extends { t with scopes := t.scopes.modify n fun s => s.bind name binding } :=
  ScopeTable.extends_modify fun s _ => s.grows_bind name binding

/-- A declaration that is known already changes nothing, except in a module. -/
theorem extends_declare {step : Step} (fits : b.Fits f) (declares : step.isDeclaration = true)
    (known : f.kind = .module ∨ step ∈ f.declared) :
    ∃ t, b.take step = { b with table := t } ∧ b.table.Extends t := by
  obtain ⟨s, here⟩ := fits
  have keeps {names own declared : List String}
      (own_iff : f.kind ≠ .module → ∀ name, name ∈ own ↔ name ∈ declared)
      (names_known : f.kind = .module ∨ names ⊆ declared) (nested : f.kind ≠ .module)
      (name : String) : name ∈ own ++ names ↔ name ∈ own := by
    refine ⟨fun member => ?_, List.mem_append_left names⟩
    rcases List.mem_append.mp member with old | new
    · exact old
    · exact (own_iff nested name).mpr ((names_known.resolve_left nested) new)
  cases step with
  | declareGlobal names =>
    refine ⟨_, rfl, ScopeTable.extends_modify fun s' found => ?_⟩
    obtain rfl : s = s' := Option.some.inj (here.scope.symm.trans found)
    refine ⟨rfl, rfl, fun nested => ?_, fun _ _ => .rfl,
      fun _ symbol found => ⟨symbol, found, List.prefix_rfl⟩⟩
    exact keeps here.globals (known.imp_right fun member name inside =>
      List.mem_flatMap.mpr ⟨.declareGlobal names, member, inside⟩) (here.kind ▸ nested)
  | declareNonlocal names =>
    refine ⟨_, rfl, ScopeTable.extends_modify fun s' found => ?_⟩
    obtain rfl : s = s' := Option.some.inj (here.scope.symm.trans found)
    refine ⟨rfl, rfl, fun _ _ => .rfl, fun nested => ?_,
      fun _ symbol found => ⟨symbol, found, List.prefix_rfl⟩⟩
    exact keeps here.nonlocals (known.imp_right fun member name inside =>
      List.mem_flatMap.mpr ⟨.declareNonlocal names, member, inside⟩) (here.kind ▸ nested)
  | _ => cases declares

end ScopeBuilder

namespace Reads

open ScopeBuilder

variable {all : List Node} {f : Frame} {ns : Multiset Node} {l : List Step}

/-- Reading extends the table, and ends in the scope in which it began. -/
theorem run (read : Reads all f ns l) {b : ScopeBuilder} (fits : b.Fits f) :
    ∃ t, l.foldl take b = { b with table := t } ∧ b.table.Extends t := by
  induction read generalizing b with
  | nil | skip => exact ⟨b.table, rfl, .refl b.table⟩
  | append _ _ first second =>
    obtain ⟨t, ran, more⟩ := first fits
    obtain ⟨t', ran', more'⟩ := second (fits.extend more)
    rw [List.foldl_append, ran, ran']
    exact ⟨t', rfl, more.trans more'⟩
  | place f n => exact ⟨_, rfl, fun _ s found => ⟨s, found, .refl s⟩, List.suffix_cons _ _⟩
  | bind info id | clause info id =>
    refine ⟨_, rfl, ScopeTable.Extends.trans ?_ (extends_bind _ _ id _)⟩
    exact ⟨fun _ s found => ⟨s, found, .refl s⟩, List.suffix_cons _ _⟩
  | capture label => exact ⟨_, rfl, extends_bind _ _ label _⟩
  | declare declares known => exact extends_declare fits declares known
  | star f m =>
    refine ⟨_, rfl, ScopeTable.extends_modify fun s _ => ?_⟩
    exact ⟨rfl, rfl, fun _ _ => .rfl, fun _ _ => .rfl,
      fun _ symbol found => ⟨symbol, found, List.prefix_rfl⟩⟩
  | enter info name body params nested declares _ _ ih =>
    obtain ⟨t, opened, inner_fits, more⟩ := opens_fits fits info name body params nested declares
    obtain ⟨t', ran, more'⟩ := ih inner_fits
    rw [List.foldl_append, List.foldl_append, opened, ran]
    exact ⟨t', rfl, more.trans more'⟩

/-- Where in the steps a name is bound: the builder stands in the scope of the name, and what it
knows after the binding the finished table knows too. -/
structure Occurrence (b : ScopeBuilder) (info : Info) (id : String) (l : List Step) where
  before : List Step
  after : List Step
  fixed : Bool
  binding : Binding
  frame : Frame
  split : l = before ++ .place info.id :: .bind fixed id binding :: after
  fits : (before.foldl take b).Fits frame
  clause : fixed = true → frame.kind = .comprehension ∧ frame.declared = []
  loose : fixed = false → frame.kind ≠ .comprehension
  kept : ((before ++ [Step.place info.id, Step.bind fixed id binding]).foldl take
    b).table.Extends (l.foldl take b).table

/-- An occurrence, with steps before. -/
def Occurrence.prepend {b : ScopeBuilder} {info : Info} {id : String} (pre : List Step)
    (o : Occurrence (pre.foldl take b) info id l) : Occurrence b info id (pre ++ l) where
  before := pre ++ o.before
  after := o.after
  fixed := o.fixed
  binding := o.binding
  frame := o.frame
  split := (congrArg (pre ++ ·) o.split).trans (List.append_assoc _ _ _).symm
  fits := by
    rw [List.foldl_append]
    exact o.fits
  clause := o.clause
  loose := o.loose
  kept := by
    have whole : (pre ++ l).foldl take b = l.foldl take (pre.foldl take b) := List.foldl_append
    rw [List.append_assoc, List.foldl_append, whole]
    exact o.kept

/-- An occurrence, with steps after it that lose nothing. -/
def Occurrence.append {b : ScopeBuilder} {info : Info} {id : String} (post : List Step)
    (o : Occurrence b info id l)
    (more : (l.foldl take b).table.Extends ((l ++ post).foldl take b).table) :
    Occurrence b info id (l ++ post) where
  before := o.before
  after := o.after ++ post
  fixed := o.fixed
  binding := o.binding
  frame := o.frame
  split := (congrArg (· ++ post) o.split).trans (List.append_assoc _ _ _)
  fits := o.fits
  clause := o.clause
  loose := o.loose
  kept := o.kept.trans more

/-- A name that is stored or deleted is bound where it stands, unless the assignment has no
value. -/
theorem occurrence (read : Reads all f ns l) (tame : Node.Tame all) {b : ScopeBuilder}
    (fits : b.Fits f) {info : Info} {id : String} {context : Context}
    (member : .name info id context ∈ ns) (changes : context ≠ .load)
    (assigned : ¬ Node.Bare all (.name info id context)) :
    Nonempty (Occurrence b info id l) := by
  have bound : Node.IsBound (.name info id context) := ⟨info, id, context, rfl, changes⟩
  induction read generalizing b with
  | nil | capture | declare | star => simp at member
  | @append f ns ms l r first second left right =>
    obtain ⟨t, ran, more⟩ := first.run fits
    rcases Multiset.mem_add.mp member with inside | inside
    · obtain ⟨o⟩ := left fits inside
      refine ⟨o.append r ?_⟩
      obtain ⟨t', ran', more'⟩ := second.run (fits.extend more)
      rw [List.foldl_append, ran, ran']
      exact more'
    · have fits' : (l.foldl take b).Fits f := by
        rw [ran]
        exact fits.extend more
      obtain ⟨o⟩ := right fits' inside
      exact ⟨o.prepend l⟩
  | skip f n unbound | place f n unbound =>
    obtain rfl := Multiset.mem_singleton.mp member
    exact absurd (unbound bound) assigned
  | bind info' id' context' loose =>
    cases Multiset.mem_singleton.mp member
    exact ⟨[], [], false, _, _, rfl, fits, by simp, fun _ => loose tame, .refl _⟩
  | clause info' id' context' inside free =>
    cases Multiset.mem_singleton.mp member
    exact ⟨[], [], true, _, _, rfl, fits, fun _ => ⟨inside, free⟩, by simp, .refl _⟩
  | @enter f inner ns l info' name body params nested declares parameters _ ih =>
    have inside : Node.name info id context ∈ ns := by
      refine (Multiset.mem_add.mp member).resolve_left fun parameter => ?_
      obtain ⟨_, _, _, same⟩ := parameters _ (Multiset.mem_coe.mp parameter)
      cases same
    obtain ⟨t, opened, inner_fits, _⟩ := opens_fits fits info' name body params nested declares
    rw [← opened] at inner_fits
    obtain ⟨o⟩ := ih inner_fits inside
    refine ⟨(o.prepend _).append [.leave] ?_⟩
    rw [foldl_leave_table]
    exact .refl _

end Reads

end Catalog
