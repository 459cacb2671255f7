import Catalog.Proofs.Resolve.Transparency
import Catalog.Proofs.Scope.Definitions
import Catalog.Proofs.Scope.Nesting
import Catalog.Scan.Constructor

/-!
# The definition that a registration leads to

A module may define the name of its constructor more than once. When the call in a registration
runs, the last of these definitions is in force. The symbol of the name has all of them, in their
order, and not the place of the call: the one that is traced is the first. So tracing finds the
definition in force exactly if there is only one.
-/

namespace Catalog

open Syntax

/-! ## Nodes at the top of a module -/

namespace ScopeBuilder

theorem mem_places_run {p : Nat × Nat} {b : ScopeBuilder} (placed : p ∈ b.table.places)
    (steps : List Step) : p ∈ (steps.foldl take b).table.places := by
  induction steps generalizing b with
  | nil => exact placed
  | cons step rest ih =>
    refine ih ?_
    cases step with
    | place => exact List.mem_cons_of_mem _ placed
    | leave =>
      rw [take]
      split <;> exact placed
    | _ => exact placed

end ScopeBuilder

namespace SourceUnit

variable {u : SourceUnit}

/-- What is placed when all scopes but that of the module are closed stands in the module. -/
theorem scopeAt?_of_balanced (read : u.IsRead) {k : Nat} {l r : List Step} (closed : Balanced l)
    (split : Node.stepsList u.package none u.body = l ++ .place k :: r) :
    u.scopes.scopeAt? k = some ScopeTable.moduleScope := by
  obtain ⟨origin, path, identity, source, m, parsed, rfl⟩ := read
  have steps : Reads (Node.preorder m.body) { kind := .module } (Node.nodes m.body)
      (Node.stepsList identity.package none m.body) :=
    Node.reads_module (Module.shaped_of_parse parsed)
  have different := steps.nodup_places identity.name (Module.nodup_ids_of_parse parsed)
  have top := (ScopeBuilder.start_atTop identity.name m.body).run closed
  refine lookup_eq_of_mem different (p := (k, ScopeTable.moduleScope)) ?_
  have whole : Node.stepsList identity.package none m.body = l ++ .place k :: r := split
  rw [whole, List.foldl_append, List.foldl_cons, ← top.current]
  exact ScopeBuilder.mem_places_run List.mem_cons_self r

/-- A name that stands in the module leads to the symbol of the module, if to any. -/
theorem eq_of_lookup_moduleScope (read : u.IsRead) {name : String} {ref : SymbolRef}
    (found : u.scopes.lookup ScopeTable.moduleScope name = some ref) :
    ref = { scope := ScopeTable.moduleScope, name } := by
  obtain ⟨s, top, -, alone⟩ := moduleScope_of_isRead read
  rw [ScopeTable.lookup, top] at found
  dsimp only at found
  split at found
  · rw [ScopeTable.symbolIn?, top] at found
    dsimp only at found
    split at found
    · exact (Option.some.inj found).symm
    · cases found
  · split at found
    · exact (Option.some.inj found).symm
    · rw [alone] at found
      cases found

end SourceUnit

namespace Constructor

variable {u : SourceUnit} {r : Registration} {info : Info} {name : String}

/-- The statement is the call of the registration, and what is registered is a call of the name,
which stands at the given node. -/
def RegistersCall (info : Info) (name : String) (statement : Node) (r : Registration) : Prop :=
  ∃ stmt call own func args keywords more others,
    r.argument = .call own (.name info name .load) args keywords ∧
      r.call = .call call func (r.argument :: more) others ∧
      statement = .plain stmt .exprStmt [r.call]

theorem RegistersCall.name?_eq {statement : Node}
    (registers : RegistersCall info name statement r) : name? u r.argument = some (info, name) := by
  obtain ⟨_, _, _, _, _, _, _, _, argument, -⟩ := registers
  rw [argument]
  rfl

/-- The call of a name that a statement registers, with the node of the name. -/
def registered? : Node → Option (Info × String × Registration)
  | .plain _ .exprStmt
      [.call call func (.call own (.name info name .load) args keywords :: more) others] =>
    let argument : Node := .call own (.name info name .load) args keywords
    some (info, name,
      { entry := "", scope := 0, call := .call call func (argument :: more) others, argument })
  | _ => none

theorem registersCall_of_registered? {statement : Node}
    (found : registered? statement = some (info, name, r)) :
    RegistersCall info name statement r := by
  unfold registered? at found
  split at found
  · cases found
    exact ⟨_, _, _, _, _, _, _, _, rfl, rfl, rfl⟩
  · cases found

theorem RegistersCall.not_defines {statement : Node}
    (registers : RegistersCall info name statement r) (other : String) :
    Node.defines other statement = false := by
  obtain ⟨_, _, _, _, _, _, _, _, _, _, rfl⟩ := registers
  rfl

/-- The name that is called stands in the module. -/
theorem RegistersCall.scopeAt?_eq (read : u.IsRead) {before after : List Node} {statement : Node}
    (body : u.body = before ++ statement :: after)
    (registers : RegistersCall info name statement r) :
    u.scopes.scopeAt? info.id = some ScopeTable.moduleScope := by
  obtain ⟨stmt, call, own, func, args, keywords, more, others, argument, called, rfl⟩ := registers
  have earlier : Balanced (Node.stepsList u.package none before) :=
    Node.balanced_stepsList before none
  have inner : Balanced (func.steps u.package none) := func.balanced none
  have closed : Balanced (Node.stepsList u.package none before ++
      .place stmt.id :: .place call.id :: (func.steps u.package none ++ [.place own.id])) :=
    earlier.append (.cons rfl (.cons rfl (inner.append (.flat rfl))))
  refine SourceUnit.scopeAt?_of_balanced read closed
    (r := Node.stepsList u.package none args ++ Node.stepsList u.package none keywords ++
      Node.stepsList u.package none more ++ Node.stepsList u.package none others ++
      Node.stepsList u.package none after) ?_
  rw [body, called, argument, Node.stepsList_append]
  simp [Node.steps, Node.stepsList]

/-- A definition that is traced is the first binding of its symbol, and all others are definitions
too. -/
theorem bindings_of_declaration {untraced : String} {d : Node}
    (traced : declaration u info name untraced = .ok d) :
    ∃ ref, u.symbolFor? info.id name = some ref ∧
      (∀ b ∈ u.scopes.bindingsOf ref, b.form.isDeclaration = true) ∧
      ((u.scopes.bindingsOf ref).map Binding.owner).head? = some d := by
  unfold declaration at traced
  split at traced
  · cases traced
  · rename_i symbol found
    obtain ⟨ref, place, bound⟩ := Option.bind_eq_some_iff.mp found
    have bindings : u.scopes.bindingsOf ref = symbol.bindings := by
      rw [ScopeTable.bindingsOf, bound]
      rfl
    dsimp only at traced
    split at traced
    · cases traced
    · split at traced
      · cases traced
      · rename_i others
        refine ⟨ref, place, fun b member => ?_, ?_⟩
        · have none : symbol.bindings.filter (fun b => !b.form.isDeclaration) = [] := by
            simpa using others
          simpa using List.filter_eq_nil_iff.mp none b (bindings ▸ member)
        · rw [bindings]
          split at traced
          · cases traced
          · rename_i b rest split
            cases traced
            rw [split]
            rfl

/-- If a name has definitions among the first statements as its only bindings, then these are its
bindings. -/
theorem owners_eq_filter (read : u.IsRead) {before rest : List Node}
    (body : u.body = before ++ rest) (different : (u.body.map Node.id).Nodup)
    (all : ∀ b ∈ u.scopes.bindingsOf { scope := ScopeTable.moduleScope, name },
      b.form.isDeclaration = true)
    (earlier : ∀ b ∈ u.scopes.bindingsOf { scope := ScopeTable.moduleScope, name },
      b.form.isDeclaration = true → b.owner ∈ before) :
    (u.scopes.bindingsOf { scope := ScopeTable.moduleScope, name }).map Binding.owner =
      before.filter (Node.defines name) := by
  have kept := SourceUnit.filter_bindingsOf read name
  rw [List.filter_eq_self.mpr fun b member => ?_] at kept
  · have owners : (u.scopes.bindingsOf { scope := ScopeTable.moduleScope, name }).map
        Binding.owner = u.body.filter (Node.defines name) := by
      rw [kept, List.map_map]
      exact List.map_id _
    have later : rest.filter (Node.defines name) = [] := by
      refine List.filter_eq_nil_iff.mpr fun n member defines => ?_
      have own : n ∈ (u.scopes.bindingsOf { scope := ScopeTable.moduleScope, name }).map
          Binding.owner := by
        rw [owners, body]
        exact List.mem_filter.mpr ⟨List.mem_append_right before member, defines⟩
      obtain ⟨b, inside, rfl⟩ := List.mem_map.mp own
      rw [body, List.map_append] at different
      exact (List.nodup_append.mp different).2.2 _
        (List.mem_map_of_mem (earlier b inside (all b inside))) _ (List.mem_map_of_mem member) rfl
    rw [owners, body, List.filter_append, later, List.append_nil]
  · rw [SourceUnit.definesAtTop, all b member, Bool.true_and, List.contains_iff_mem, body]
    exact List.mem_map_of_mem (List.mem_append_left rest (earlier b member (all b member)))

/-- In a list without repetitions the first item is the last one exactly if there is no other. -/
theorem getLast?_eq_head_iff {α : Type} {l : List α} {a : α} (different : l.Nodup)
    (first : l.head? = some a) : l.getLast? = some a ↔ l.length = 1 := by
  obtain ⟨rest, rfl⟩ := List.head?_eq_some_iff.mp first
  cases rest with
  | nil => simp
  | cons b rest =>
    rw [List.getLast?_cons_cons]
    constructor
    · intro last
      exact absurd (List.mem_of_getLast? last) (List.nodup_cons.mp different).1
    · intro single
      simp at single

/-- A module registers a call of a name, and all definitions that bind the name stand among the
statements before. Then the definition that is traced is the first of them. It is the last, the one
that is in force when the call runs, exactly if it is the only one. -/
theorem traced_eq_head (read : u.IsRead) {before after : List Node} {statement d : Node}
    (body : u.body = before ++ statement :: after)
    (registers : RegistersCall info name statement r)
    (earlier : ∀ b ∈ u.scopes.bindingsOf { scope := ScopeTable.moduleScope, name },
      b.form.isDeclaration = true → b.owner ∈ before)
    (traced : trace u r = .ok d) :
    (before.filter (Node.defines name)).head? = some d ∧
      ((before.filter (Node.defines name)).getLast? = some d ↔
        (before.filter (Node.defines name)).length = 1) := by
  rw [trace, registers.name?_eq] at traced
  obtain ⟨ref, place, all, first⟩ := bindings_of_declaration traced
  rw [SourceUnit.symbolFor?, ScopeTable.symbolFor?, registers.scopeAt?_eq read body,
    Option.bind_some] at place
  obtain rfl := SourceUnit.eq_of_lookup_moduleScope read place
  obtain ⟨different, -⟩ := Node.nodup_ids (SourceUnit.nodup_ids_of_isRead read)
  have owners := owners_eq_filter read body different all earlier
  rw [owners] at first
  have nodup : (before.filter (Node.defines name)).Nodup := by
    rw [body, List.map_append] at different
    exact (List.Nodup.of_map _ (List.nodup_append.mp different).1).filter _
  exact ⟨first, getLast?_eq_head_iff nodup first⟩

/-- A module that defines its constructor twice. -/
def redefined : String := "def f():\n return 1\ndef f():\n return 2\nregister(f())\n"

/-- The unit of the module that defines its constructor twice. -/
def redefinedUnit (m : Module) : SourceUnit :=
  .ofModule (.repository 0) "m.py" { name := "m", isPackage := false } m

theorem traced_eq_head_redefined :
    ∃ m before statement r info d, Module.parse redefined = .ok m ∧
      (redefinedUnit m).body = before ++ [statement] ∧ RegistersCall info "f" statement r ∧
      (∀ b ∈ (redefinedUnit m).scopes.bindingsOf
          { scope := ScopeTable.moduleScope, name := "f" },
        b.form.isDeclaration = true → b.owner ∈ before) ∧
      trace (redefinedUnit m) r = .ok d ∧
      (before.filter (Node.defines "f")).length = 2 ∧
      (before.filter (Node.defines "f")).head? = some d ∧
        ((before.filter (Node.defines "f")).getLast? = some d ↔
          (before.filter (Node.defines "f")).length = 1) := by
  have reads : (Module.parse redefined).toOption.any (fun m =>
      ((redefinedUnit m).scopes.bindingsOf
        { scope := ScopeTable.moduleScope, name := "f" }).all (redefinedUnit m).definesAtTop &&
      (m.body.dropLast.filter (Node.defines "f")).length == 2 &&
      m.body.getLast?.any fun statement => (registered? statement).any fun found =>
        found.2.1 == "f" && (trace (redefinedUnit m) found.2.2).isOk) = true := by
    decide +kernel
  cases parsed : Module.parse redefined with
  | error e =>
    rw [parsed] at reads
    cases reads
  | ok m =>
    rw [parsed] at reads
    obtain ⟨shape, registered⟩ := Bool.and_eq_true_iff.mp reads
    obtain ⟨own, twice⟩ := Bool.and_eq_true_iff.mp shape
    obtain ⟨statement, last, registered⟩ := (Option.any_eq_true _ _).mp registered
    obtain ⟨⟨info, name, r⟩, found, registered⟩ := (Option.any_eq_true _ _).mp registered
    obtain ⟨same, traced⟩ := Bool.and_eq_true_iff.mp registered
    obtain rfl : name = "f" := eq_of_beq same
    have read : (redefinedUnit m).IsRead := ⟨_, _, _, _, m, parsed, rfl⟩
    have registers : RegistersCall info "f" statement r := registersCall_of_registered? found
    have split : (redefinedUnit m).body = m.body.dropLast ++ [statement] :=
      (List.dropLast_append_getLast? statement last).symm
    have earlier : ∀ b ∈ (redefinedUnit m).scopes.bindingsOf
          { scope := ScopeTable.moduleScope, name := "f" },
        b.form.isDeclaration = true → b.owner ∈ m.body.dropLast := by
      have bindings := SourceUnit.filter_bindingsOf read "f"
      rw [List.filter_eq_self.mpr (List.all_eq_true.mp own), split, List.filter_append,
        List.filter_cons_of_neg (by simp [registers.not_defines]), List.filter_nil,
        List.append_nil] at bindings
      intro b member _
      rw [bindings] at member
      obtain ⟨n, inside, rfl⟩ := List.mem_map.mp member
      exact (List.mem_filter.mp inside).1
    cases ends : trace (redefinedUnit m) r with
    | error e =>
      rw [ends] at traced
      cases traced
    | ok d =>
      exact ⟨m, m.body.dropLast, statement, r, info, d, rfl, split, registers, earlier, ends,
        eq_of_beq twice, traced_eq_head read split registers earlier ends⟩

end Constructor

end Catalog
