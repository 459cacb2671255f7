import Catalog.Proofs.Scope.Building

/-!
# Which bindings a lookup sees

A binding is recorded while the module is still being read, in the scope that the declarations
choose then; a name is looked up in the finished table. For a name that is not declared nonlocal
both lead to the same symbol. For one that is, they may differ: the binding goes to the nearest
function around that binds the name so far, and the lookup stops at the nearest scope around that
binds it in the end.
-/

namespace Catalog

open Syntax

/-! ## Looking outwards -/

namespace ScopeTable

variable {t : ScopeTable} {name : String} {n k : Nat} {s : Scope}

/-- Looking outwards for a name passes the scope by. -/
def PassesBy (t : ScopeTable) (name : String) (n : Nat) : Prop :=
  ∃ s, t.get? n = some s ∧
    (s.kind = .classBody ∨ name ∉ s.globals ∧ (s.binds name = true → name ∈ s.nonlocals))

/-- Looking outwards for a name ends in the scope, which binds it. -/
def StopsAt (t : ScopeTable) (name : String) (n : Nat) : Prop :=
  ∃ s, t.get? n = some s ∧ s.kind ≠ .classBody ∧ name ∉ s.globals ∧ s.binds name = true ∧
    name ∉ s.nonlocals

theorem PassesBy.not_stopsAt (passes : t.PassesBy name n) : ¬ t.StopsAt name n := by
  rintro ⟨s, found, free, unshared, bound, own⟩
  obtain ⟨s', found', passes⟩ := passes
  obtain rfl : s = s' := Option.some.inj (found.symm.trans found')
  rcases passes with classBody | ⟨_, foreign⟩
  · exact free classBody
  · exact own (foreign bound)

theorem lookupOuter_of_passesBy (passes : t.PassesBy name n) (rest : List Nat) :
    t.lookupOuter name (n :: rest) = t.lookupOuter name rest := by
  obtain ⟨s, found, passes⟩ := passes
  rw [lookupOuter, found]
  simp only
  rcases passes with classBody | ⟨unshared, foreign⟩
  · rw [if_pos classBody]
  · split
    · rfl
    · rw [if_neg (by simpa using unshared), if_neg (by simpa using foreign)]

theorem lookupOuter_of_stopsAt (stops : t.StopsAt name n) (rest : List Nat) :
    t.lookupOuter name (n :: rest) = some { scope := n, name } := by
  obtain ⟨s, found, free, unshared, bound, own⟩ := stops
  rw [lookupOuter, found]
  simp only
  rw [if_neg free, if_neg (by simpa using unshared), if_pos (by simpa [bound] using own)]

/-- A scope that is neither passed by nor the end declares the name global, so that the name leads
to the module. -/
theorem scope_of_lookupOuter {rest : List Nat} (blocks : ¬ t.PassesBy name n)
    (unbound : ¬ t.StopsAt name n)
    (found : t.lookupOuter name (n :: rest) = some { scope := k, name }) : k = moduleScope := by
  rw [lookupOuter] at found
  split at found
  · cases found
  · rename_i s scope
    split at found
    · rename_i classBody
      exact absurd ⟨s, scope, .inl classBody⟩ blocks
    · rename_i free
      split at found
      · rw [symbolIn?] at found
        split at found
        · split at found
          · cases found
            rfl
          · cases found
        · cases found
      · rename_i unshared
        have unshared : name ∉ s.globals := by simpa using unshared
        split at found
        · rename_i bound
          have bound : s.binds name = true ∧ name ∉ s.nonlocals := by simpa using bound
          exact absurd ⟨s, scope, free, unshared, bound⟩ unbound
        · rename_i foreign
          have foreign : s.binds name = true → name ∈ s.nonlocals := by simpa using foreign
          exact absurd ⟨s, scope, .inr ⟨unshared, foreign⟩⟩ blocks

/-- Looking outwards leads to a scope other than the module exactly if it ends there and passes by
all scopes that are nearer. -/
theorem lookupOuter_eq_some_iff {outer : List Nat} (inner : k ≠ moduleScope) :
    t.lookupOuter name outer = some { scope := k, name } ↔
      ∃ nearer further, outer = nearer ++ k :: further ∧ t.StopsAt name k ∧
        ∀ j ∈ nearer, t.PassesBy name j := by
  induction outer with
  | nil => simp [lookupOuter]
  | cons n rest ih =>
    by_cases passes : t.PassesBy name n
    · rw [lookupOuter_of_passesBy passes, ih]
      constructor
      · rintro ⟨nearer, further, rfl, stops, passed⟩
        exact ⟨n :: nearer, further, rfl, stops, List.forall_mem_cons.mpr ⟨passes, passed⟩⟩
      · rintro ⟨_ | ⟨first, nearer⟩, further, split, stops, passed⟩
        · cases split
          exact absurd stops passes.not_stopsAt
        · cases split
          exact ⟨nearer, further, rfl, stops, (List.forall_mem_cons.mp passed).2⟩
    · have first {nearer further : List Nat} (split : n :: rest = nearer ++ k :: further)
          (passed : ∀ j ∈ nearer, t.PassesBy name j) : n = k := by
        cases nearer with
        | nil =>
          cases split
          rfl
        | cons j nearer =>
          cases split
          exact absurd (passed n List.mem_cons_self) passes
      constructor
      · intro found
        have stops : t.StopsAt name n := by
          by_contra unbound
          exact inner (scope_of_lookupOuter passes unbound found)
        rw [lookupOuter_of_stopsAt stops] at found
        cases found
        exact ⟨[], rest, rfl, stops, by simp⟩
      · rintro ⟨nearer, further, split, stops, passed⟩
        obtain rfl := first split passed
        exact lookupOuter_of_stopsAt stops rest

theorem symbolIn?_eq_some (found : t.get? n = some s) (bound : s.binds name = true) :
    t.symbolIn? n name = some { scope := n, name } := by
  rw [symbolIn?, found]
  exact if_pos bound

theorem lookup_of_global (found : t.get? n = some s) (shared : name ∈ s.globals) :
    t.lookup n name = t.symbolIn? moduleScope name := by
  rw [lookup, found]
  exact if_pos (by simpa using shared)

theorem lookup_of_own (found : t.get? n = some s) (unshared : name ∉ s.globals)
    (own : name ∉ s.nonlocals) (bound : s.binds name = true) :
    t.lookup n name = some { scope := n, name } := by
  rw [lookup, found]
  exact (if_neg (by simpa using unshared)).trans (if_pos (by simpa [bound] using own))

theorem lookup_of_nonlocal (found : t.get? n = some s) (unshared : name ∉ s.globals)
    (foreign : name ∈ s.nonlocals) : t.lookup n name = t.lookupOuter name s.outer := by
  rw [lookup, found]
  exact (if_neg (by simpa using unshared)).trans (if_neg (by simp [foreign]))

end ScopeTable

/-! ## Recording -/

namespace ScopeBuilder

variable {b : ScopeBuilder} {f : Frame} {s : Scope}

theorem withoutComprehensions_eq {t : ScopeTable} {n : Nat} (outer : List Nat)
    (found : t.get? n = some s) (loose : s.kind ≠ .comprehension) :
    withoutComprehensions t n outer = (n, outer) := by
  cases outer with
  | nil => rfl
  | cons next rest =>
    rw [withoutComprehensions, found]
    simp only
    rw [if_neg loose]

/-- Outside of comprehensions, declarations of the current scope decide where a name is bound. -/
theorem bindingScope_eq (here : b.At f s) (loose : f.kind ≠ .comprehension) (name : String) :
    b.bindingScope name =
      if name ∈ s.globals then ScopeTable.moduleScope
      else if name ∈ s.nonlocals then (functionBinding? b.table name b.outer).getD b.current
      else b.current := by
  rw [bindingScope, withoutComprehensions_eq b.outer here.scope (here.kind ▸ loose)]
  simp only [here.scope, List.contains_iff_mem]

/-- Where a name is bound does not depend on what is placed. -/
theorem bindingScope_place (b : ScopeBuilder) (node : Nat) (name : String) :
    (b.take (.place node)).bindingScope name = b.bindingScope name := by
  have same (n : Nat) (outer : List Nat) :
      withoutComprehensions (b.take (.place node)).table n outer =
        withoutComprehensions b.table n outer := by
    induction outer generalizing n with
    | nil => rfl
    | cons next rest ih =>
      rw [withoutComprehensions, withoutComprehensions, ih]
      rfl
  rw [bindingScope, same]
  rfl

/-- The kinds of scopes never change. -/
theorem kind_take {n : Nat} (found : b.table.get? n = some s) (step : Step) :
    ∃ s', (b.take step).table.get? n = some s' ∧ s'.kind = s.kind := by
  have modified (k : Nat) (g : Scope → Scope) (keeps : (g s).kind = s.kind) :
      ∃ s', (b.modifyScope k g).table.get? n = some s' ∧ s'.kind = s.kind := by
    rw [modifyScope, ScopeTable.get?_modify, found]
    split
    · exact ⟨g s, rfl, keeps⟩
    · exact ⟨s, rfl, rfl⟩
  cases step with
  | place => exact ⟨s, found, rfl⟩
  | enter => exact ⟨s, ScopeTable.get?_push_of_lt found, rfl⟩
  | leave =>
    rw [take]
    split <;> exact ⟨s, found, rfl⟩
  | bind | declareGlobal | declareNonlocal | star => exact modified _ _ rfl

theorem kind_run {n : Nat} (found : b.table.get? n = some s) (steps : List Step) :
    ∃ s', (steps.foldl take b).table.get? n = some s' ∧ s'.kind = s.kind := by
  induction steps generalizing b s with
  | nil => exact ⟨s, found, rfl⟩
  | cons step rest ih =>
    obtain ⟨s', found', same⟩ := kind_take found step
    obtain ⟨s'', found'', same'⟩ := ih found'
    exact ⟨s'', found'', same'.trans same⟩

theorem get?_of_functionBinding? {t : ScopeTable} {name : String} {scopes : List Nat} {k : Nat}
    (found : functionBinding? t name scopes = some k) :
    ∃ s, t.get? k = some s ∧ s.kind = .function := by
  have holds := List.find?_some found
  split at holds
  · rename_i s scope
    exact ⟨s, scope, by simpa using (Bool.and_eq_true_iff.mp holds).1⟩
  · cases holds

end ScopeBuilder

namespace Reads.Occurrence

open ScopeBuilder

variable {b : ScopeBuilder} {info : Info} {id : String} {l : List Step}

/-- The builder where the name is bound. -/
def reader (o : Occurrence b info id l) : ScopeBuilder := o.before.foldl take b

/-- The scope in which the binding is recorded. -/
def scope (o : Occurrence b info id l) : Nat :=
  if o.fixed then o.reader.current else o.reader.bindingScope id

/-- The number of bindings of the same symbol before this one. -/
def index (o : Occurrence b info id l) : Nat :=
  ((o.reader.table.symbol? { scope := o.scope, name := id }).elim [] Symbol.bindings).length

/-- The binding that is recorded is one of the symbol to which the name leads in the table. -/
def SeenIn (o : Occurrence b info id l) (t : ScopeTable) : Prop :=
  ∃ symbol, t.symbolFor? info.id id = some { scope := o.scope, name := id } ∧
    t.symbol? { scope := o.scope, name := id } = some symbol ∧
    symbol.bindings[o.index]? = some o.binding

variable (o : Occurrence b info id l)

theorem reader_fits : o.reader.Fits o.frame := o.fits

theorem extends_bound :
    ({ scopes := o.reader.table.scopes.modify o.scope fun s => s.bind id o.binding
       places := (info.id, o.reader.current) :: o.reader.table.places } : ScopeTable).Extends
      (l.foldl take b).table := by
  have kept := o.kept
  rw [List.foldl_append] at kept
  have same : o.scope = if o.fixed then o.reader.current
      else (o.reader.take (.place info.id)).bindingScope id := by
    rw [bindingScope_place]
    rfl
  rw [same]
  exact kept

theorem extends_reader : o.reader.table.Extends (l.foldl take b).table := by
  refine ScopeTable.Extends.trans ?_ o.extends_bound
  refine ⟨(extends_bind _ o.scope id o.binding).scopes, List.suffix_cons _ _⟩

/-- The recorded binding is in the finished table. -/
theorem recorded {s : Scope} (found : o.reader.table.get? o.scope = some s) :
    ∃ s' symbol, (l.foldl take b).table.get? o.scope = some s' ∧ s'.symbol? id = some symbol ∧
      symbol.bindings[o.index]? = some o.binding := by
  have bound : ({ scopes := o.reader.table.scopes.modify o.scope fun s => s.bind id o.binding
                  places := (info.id, o.reader.current) :: o.reader.table.places } :
      ScopeTable).get? o.scope = some (s.bind id o.binding) := by
    have modified := o.reader.table.get?_modify o.scope o.scope fun s => s.bind id o.binding
    rw [if_pos rfl, found, Option.map_some] at modified
    exact modified
  obtain ⟨s', found', grows⟩ := o.extends_bound.scopes _ _ bound
  obtain ⟨symbol, has, more⟩ := grows.bindings id _ (s.symbol?_bind_self id o.binding)
  refine ⟨s', symbol, found', has, ?_⟩
  have position : o.index = ((s.symbol? id).elim [] Symbol.bindings).length := by
    rw [index, ScopeTable.symbol?, found]
    rfl
  obtain ⟨rest, split⟩ := more
  rw [← split, position]
  simp

/-! ## Where a name leads -/

theorem fixed_free (fixed : o.fixed = true) {s : Scope} (here : o.reader.At o.frame s) :
    id ∉ s.globals ∧ id ∉ s.nonlocals := by
  obtain ⟨inside, free⟩ := o.clause fixed
  have nested : o.frame.kind ≠ .module := by simp [inside]
  rw [here.globals nested, here.nonlocals nested, Frame.globals, Frame.nonlocals, free]
  exact ⟨List.not_mem_nil, List.not_mem_nil⟩

/-- In the module itself every name is bound in the module. -/
theorem scope_of_module {s : Scope} (here : o.reader.At o.frame s)
    (module : o.frame.kind = .module) : o.scope = o.reader.current := by
  obtain ⟨top, alone⟩ := here.module module
  rw [scope]
  split
  · rfl
  · rw [bindingScope_eq here (by simp [module]), alone, top]
    split
    · rfl
    · split <;> rfl

theorem scope_of_free {s : Scope} (here : o.reader.At o.frame s) (unshared : id ∉ s.globals)
    (own : id ∉ s.nonlocals) : o.scope = o.reader.current := by
  rw [scope]
  split
  · rfl
  · rename_i loose
    rw [bindingScope_eq here (o.loose (by simpa using loose)), if_neg unshared, if_neg own]

theorem scope_of_global {s : Scope} (here : o.reader.At o.frame s) (shared : id ∈ s.globals) :
    o.scope = ScopeTable.moduleScope := by
  rw [scope]
  split
  · rename_i fixed
    exact absurd shared (o.fixed_free fixed here).1
  · rename_i loose
    rw [bindingScope_eq here (o.loose (by simpa using loose)), if_pos shared]

theorem scope_of_nonlocal {s : Scope} (here : o.reader.At o.frame s) (unshared : id ∉ s.globals)
    (foreign : id ∈ s.nonlocals) :
    o.scope = (functionBinding? o.reader.table id o.reader.outer).getD o.reader.current := by
  rw [scope]
  split
  · rename_i fixed
    exact absurd foreign (o.fixed_free fixed here).2
  · rename_i loose
    rw [bindingScope_eq here (o.loose (by simpa using loose)), if_neg unshared, if_pos foreign]

/-- The nearest function around that binds the name so far is where looking outwards ends in the
table: the function itself does not declare the name, and of the nearer scopes, but for class
bodies, none declares it global, and none binds it without declaring it nonlocal. -/
def Reaches (o : Occurrence b info id l) (t : ScopeTable) : Prop :=
  ∃ k nearer further, functionBinding? o.reader.table id o.reader.outer = some k ∧
    o.reader.outer = nearer ++ k :: further ∧ t.StopsAt id k ∧ ∀ j ∈ nearer, t.PassesBy id j

variable {o}

/-- The module's own scope exists from the beginning. -/
theorem get?_scope (module : ∃ s, b.table.get? ScopeTable.moduleScope = some s) :
    ∃ s, o.reader.table.get? o.scope = some s := by
  obtain ⟨top, module⟩ := module
  obtain ⟨s, here⟩ := o.reader_fits
  by_cases shared : id ∈ s.globals
  · obtain ⟨s', found, _⟩ := kind_run module o.before
    rw [o.scope_of_global here shared]
    exact ⟨s', found⟩
  · by_cases foreign : id ∈ s.nonlocals
    · rw [o.scope_of_nonlocal here shared foreign]
      cases nearest : functionBinding? o.reader.table id o.reader.outer with
      | none => exact ⟨s, here.scope⟩
      | some k =>
        obtain ⟨s', found, _⟩ := get?_of_functionBinding? nearest
        exact ⟨s', found⟩
    · rw [o.scope_of_free here shared foreign]
      exact ⟨s, here.scope⟩

/-- A name that is declared nonlocal leads to its binding exactly if both ways outwards end in the
same function. -/
theorem lookupOuter_iff_reaches
    (module : ∃ s, b.table.get? ScopeTable.moduleScope = some s ∧ s.kind = .module) {s : Scope}
    (here : o.reader.At o.frame s) (unshared : id ∉ s.globals) (foreign : id ∈ s.nonlocals)
    (t : ScopeTable) :
    t.lookupOuter id o.reader.outer = some { scope := o.scope, name := id } ↔ o.Reaches t := by
  rw [o.scope_of_nonlocal here unshared foreign, Reaches]
  cases nearest : functionBinding? o.reader.table id o.reader.outer with
  | none =>
    refine ⟨fun found => ?_, by simp⟩
    -- the scope itself is not among those around it
    have inner : o.reader.current ≠ ScopeTable.moduleScope := fun top => by
      cases around : o.reader.outer with
      | nil =>
        rw [around] at found
        cases found
      | cons k rest =>
        have below := here.around k (by simp [around])
        rw [top] at below
        exact absurd below (Nat.not_lt_zero k)
    obtain ⟨nearer, further, split, _⟩ := (ScopeTable.lookupOuter_eq_some_iff inner).mp found
    have below := here.around o.reader.current (by simp [split])
    exact absurd below (Nat.lt_irrefl _)
  | some k =>
    have inner : k ≠ ScopeTable.moduleScope := by
      rintro rfl
      obtain ⟨top, found, isModule⟩ := module
      obtain ⟨s', found', same⟩ := kind_run found o.before
      obtain ⟨s'', found'', isFunction⟩ := get?_of_functionBinding? nearest
      obtain rfl : s' = s'' := Option.some.inj (found'.symm.trans found'')
      rw [same, isModule] at isFunction
      cases isFunction
    rw [Option.getD_some, ScopeTable.lookupOuter_eq_some_iff inner]
    constructor
    · rintro ⟨nearer, further, split, ends⟩
      exact ⟨k, nearer, further, rfl, split, ends⟩
    · rintro ⟨_, nearer, further, same, split, ends⟩
      cases same
      exact ⟨nearer, further, split, ends⟩

theorem seenIn_iff_lookup (module : ∃ s, b.table.get? ScopeTable.moduleScope = some s)
    (placed : (l.foldl take b).table.scopeAt? info.id = some o.reader.current) :
    o.SeenIn (l.foldl take b).table ↔
      (l.foldl take b).table.lookup o.reader.current id =
        some { scope := o.scope, name := id } := by
  rw [SeenIn, ScopeTable.symbolFor?, placed, Option.bind_some]
  constructor
  · rintro ⟨symbol, found, _⟩
    exact found
  · intro found
    obtain ⟨s, scope⟩ := o.get?_scope module
    obtain ⟨s', symbol, found', has, position⟩ := o.recorded scope
    refine ⟨symbol, found, ?_, position⟩
    rw [ScopeTable.symbol?, found']
    exact has

/-- A recorded binding is seen exactly if the name is declared global or not declared nonlocal in
its scope, or both ways outwards end in the same function. -/
theorem seenIn_iff (module : ∃ s, b.table.get? ScopeTable.moduleScope = some s ∧ s.kind = .module)
    (placed : (l.foldl take b).table.scopeAt? info.id = some o.reader.current) :
    ∃ s, (l.foldl take b).table.get? o.reader.current = some s ∧
      (o.SeenIn (l.foldl take b).table ↔
        id ∈ s.globals ∨ id ∉ s.nonlocals ∨ o.Reaches (l.foldl take b).table) := by
  have exists_module := module.imp fun _ => And.left
  obtain ⟨s, here⟩ := o.reader_fits
  obtain ⟨s', found, grows⟩ := o.extends_reader.scopes _ s here.scope
  refine ⟨s', found, ?_⟩
  obtain ⟨recorder, scope⟩ := o.get?_scope exists_module
  obtain ⟨home, symbol, homeFound, has, _⟩ := o.recorded scope
  have bound : home.binds id = true := Scope.binds_iff.mpr ⟨symbol, has⟩
  -- in a scope other than the module, declarations are complete when the name is bound
  have kind : s.kind = o.frame.kind := here.kind
  rw [seenIn_iff_lookup exists_module placed]
  by_cases shared : id ∈ s'.globals
  · have top : o.scope = ScopeTable.moduleScope := by
      by_cases module : o.frame.kind = .module
      · rw [o.scope_of_module here module, (here.module module).1]
      · exact o.scope_of_global here ((grows.globals (kind ▸ module) id).mp shared)
    rw [ScopeTable.lookup_of_global found shared]
    rw [top] at homeFound ⊢
    simp [shared, ScopeTable.symbolIn?_eq_some homeFound bound]
  · by_cases foreign : id ∈ s'.nonlocals
    · rw [ScopeTable.lookup_of_nonlocal found shared foreign, grows.outer, here.outer]
      simp only [shared, foreign, not_true, false_or]
      by_cases module' : o.frame.kind = .module
      · rw [Reaches, (here.module module').2]
        simp [ScopeTable.lookupOuter]
      · refine lookupOuter_iff_reaches module here ?_ ?_ _
        · exact fun inside => shared ((grows.globals (kind ▸ module') id).mpr inside)
        · exact (grows.nonlocals (kind ▸ module') id).mp foreign
    · have own : o.scope = o.reader.current := by
        by_cases module : o.frame.kind = .module
        · exact o.scope_of_module here module
        · refine o.scope_of_free here ?_ ?_
          · exact fun inside => shared ((grows.globals (kind ▸ module) id).mpr inside)
          · exact fun inside => foreign ((grows.nonlocals (kind ▸ module) id).mpr inside)
      rw [own, found] at homeFound
      cases homeFound
      rw [own, ScopeTable.lookup_of_own found shared foreign bound]
      simp [foreign]

end Reads.Occurrence

end Catalog
