import Catalog.Proofs.Resolve.Simulation
import Catalog.Scan.Basic

/-!
# Scans of units that are alike

Corresponding units are searched in step: they have the same entries, what is registered in one of
them is registered in the other under its name there, it leads to the same declaration, and the
fields of the metadata have the same texts. So both scans give the same record, or fail alike. If
the units are written alike and stand at the same path they also leave the same warnings.
-/

namespace Catalog

open Syntax Resolve

/-- The first value that is found in a renamed list. -/
theorem Query.Agree.firstSome {α β γ δ : Type}
    {known known' : String → Except Fault (Option SourceUnit)} {g : α → γ} {h : β → δ}
    {find : α → Query (Option β)} {find' : γ → Query (Option δ)}
    (each : ∀ a, Query.Agree known known' (fun x y => y = x.map h) (find a) (find' (g a)))
    (l : List α) :
    Query.Agree known known' (fun x y => y = x.map h) (Query.firstSome find l)
      (Query.firstSome find' (l.map g)) := by
  induction l with
  | nil => exact .pure rfl
  | cons a rest ih =>
    refine (each a).bind ?_
    rintro x _ rfl
    cases x with
    | none => exact ih
    | some b => exact .pure rfl

/-- Both give values that are related, or both give a warning; if they are `verbatim` it is the
same. -/
inductive SameResult {α β : Type} (verbatim : Prop) (R : α → β → Prop) :
    Except String α → Except String β → Prop
  | value {a : α} {b : β} (related : R a b) : SameResult verbatim R (.ok a) (.ok b)
  | warning {w w' : String} (same : verbatim → w' = w) :
      SameResult verbatim R (.error w) (.error w')

/-! ## Constructors -/

section

variable {ρ : String → String} {u u' : SourceUnit}

/-- The entry with the variables of its statements renamed. -/
def LoadEntry.rename (ρ : String → String) (e : LoadEntry) : LoadEntry :=
  { e with body := e.body.map (Node.rename ρ) }

/-- The registration with its nodes renamed. -/
def Registration.rename (ρ : String → String) (r : Registration) : Registration :=
  { r with call := r.call.rename ρ, argument := r.argument.rename ρ }

theorem LoadEntry.all_rename (alike : u.Alike ρ u') (initFunctions : List String) :
    LoadEntry.all u' initFunctions = (LoadEntry.all u initFunctions).map (LoadEntry.rename ρ) := by
  have each (n : Node) : ofStatement? u' initFunctions (n.rename ρ) =
      (ofStatement? u initFunctions n).map (LoadEntry.rename ρ) := by
    cases n with
    | functionDef info async label args body decorators returns =>
      simp only [Node.rename, ofStatement?, alike.scopes, ScopeTable.openedBy?_rename,
        Node.renameList_eq_map]
      split
      · cases u.scopes.openedBy? info.id <;> rfl
      · rfl
    | _ => rfl
  rw [all, all, alike.body, List.map_cons, List.filterMap_map, List.map_filterMap]
  exact congrArg₂ _ rfl (List.filterMap_congr fun n _ => each n)

namespace Constructor

theorem calledName?_rename (n : Node) :
    calledName? (n.rename ρ) = (calledName? n).map fun (info, id) => (info, ρ id) := by
  cases n with
  | call info func args keywords => cases func <;> rfl
  | _ => rfl

theorem assignment?_rename (n : Node) :
    assignment? (n.rename ρ) =
      (assignment? n).map fun (info, id, value) => (info, ρ id, value.rename ρ) := by
  cases n with
  | assign info targets value =>
    rcases targets with _ | ⟨target, _ | ⟨next, rest⟩⟩
    · rfl
    · cases target <;> rfl
    · cases target <;> rfl
  | annAssign info target hint value => cases target <;> cases value <;> rfl
  | _ => rfl

theorem assignedCall?_rename (alike : u.Alike ρ u') (ref : SymbolRef) (n : Node) :
    assignedCall? u' (ref.rename ρ) (n.rename ρ) =
      (assignedCall? u ref n).map fun (info, id) => (info, ρ id) := by
  rw [assignedCall?, assignment?_rename, assignedCall?]
  cases assignment? n with
  | none => rfl
  | some found =>
    obtain ⟨info, id, value⟩ := found
    have same : (u'.symbolFor? info.id (ρ id) == some (ref.rename ρ)) =
        (u.symbolFor? info.id id == some ref) := by
      rw [alike.symbolFor?, ← Option.map_some, beq_eq_beq,
        (Option.map_injective (SymbolRef.rename_injective alike.apart)).eq_iff]
    simp only [Option.map_some, same, calledName?_rename]
    split <;> rfl

theorem name?_rename (alike : u.Alike ρ u') (n : Node) :
    name? u' (n.rename ρ) = (name? u n).map fun (info, id) => (info, ρ id) := by
  cases n with
  | call info func args keywords => exact calledName?_rename (.call info func args keywords)
  | name info id context =>
    have view (v : SourceUnit) (id : String) : assignedName? v info id =
        (v.symbolFor? info.id id).bind fun ref => (v.scopes.get? ref.scope).bind fun scope =>
          (Node.preorder scope.body).findSome? (assignedCall? v ref) := rfl
    rw [Node.rename, name?, name?, view, view, alike.symbolFor?]
    cases u.symbolFor? info.id id with
    | none => rfl
    | some ref =>
      have scope : u'.scopes.get? (ref.rename ρ).scope =
          (u.scopes.get? ref.scope).map (Scope.rename ρ) := by
        rw [alike.scopes, ScopeTable.get?_rename]
        rfl
      simp only [Option.map_some, Option.bind_some, scope]
      cases u.scopes.get? ref.scope with
      | none => rfl
      | some s =>
        simp only [Option.map_some, Option.bind_some]
        have body : (s.rename ρ).body = s.body.map (Node.rename ρ) := rfl
        rw [body, Node.preorder_rename, List.findSome?_map]
        generalize Node.preorder s.body = walk
        induction walk with
        | nil => rfl
        | cons n rest ih =>
          rw [List.findSome?_cons, List.findSome?_cons, Function.comp, assignedCall?_rename alike]
          cases assignedCall? u ref n with
          | none => exact ih
          | some found => rfl
  | _ => rfl

variable {verbatim : Prop} (alike : u.Alike ρ u')
  (written : verbatim → u'.path = u.path ∧ ∀ v, ρ v = v)
include alike written

theorem sameDeclaration (info : Info) (id : String) {untraced untraced' : String}
    (same : verbatim → untraced' = untraced) :
    SameResult verbatim (fun d d' => d' = d.rename ρ) (declaration u info id untraced)
      (declaration u' info (ρ id) untraced') := by
  have place_eq (exactly : verbatim) : place u' info (ρ id) = place u info id := by
    simp only [place, SourceUnit.location, (written exactly).1, (written exactly).2]
  have found : (u'.symbolFor? info.id (ρ id)).bind u'.scopes.symbol? =
      ((u.symbolFor? info.id id).bind u.scopes.symbol?).map (Symbol.rename ρ) := by
    rw [alike.symbolFor?]
    cases u.symbolFor? info.id id with
    | none => rfl
    | some ref => exact alike.symbol? ref
  rw [declaration, declaration, found]
  cases (u.symbolFor? info.id id).bind u.scopes.symbol? with
  | none =>
    refine .warning fun exactly => ?_
    rw [place_eq exactly, (written exactly).1]
  | some symbol =>
    have others : (symbol.rename ρ).bindings.filter (fun b => !b.form.isDeclaration) =
        (symbol.bindings.filter fun b => !b.form.isDeclaration).map (Binding.rename ρ) := by
      simp [Symbol.rename, List.filter_map, Function.comp_def]
    have imported (bs : List Binding) : ((bs.map (Binding.rename ρ)).any
        fun b => b.form.target?.isSome) = bs.any fun b => b.form.target?.isSome := by
      simp [List.any_map, Function.comp_def]
    simp only [Option.map_some, others, imported, List.isEmpty_map]
    split
    · refine .warning fun exactly => ?_
      rw [place_eq exactly]
    · split
      · refine .warning fun exactly => ?_
        rw [place_eq exactly]
      · obtain ⟨name, _ | ⟨b, rest⟩⟩ := symbol
        · exact .warning same
        · exact .value rfl

theorem sameDeclaration_trace (r : Registration) :
    SameResult verbatim (fun d d' => d' = d.rename ρ) (trace u r) (trace u' (r.rename ρ)) := by
  have argument : name? u' (r.rename ρ).argument =
      (name? u r.argument).map fun (info, id) => (info, ρ id) := name?_rename alike r.argument
  have call (exactly : verbatim) :
      u'.location (r.rename ρ).call.line = u.location r.call.line := by
    simp only [SourceUnit.location, (written exactly).1, Registration.rename, Node.line_rename]
  rw [trace, trace, argument]
  cases name? u r.argument with
  | none =>
    refine .warning fun exactly => ?_
    rw [call exactly]
  | some found =>
    refine sameDeclaration alike written found.1 found.2 fun exactly => ?_
    rw [call exactly]

omit alike written

theorem declaredBody_rename (n : Node) :
    declaredBody (n.rename ρ) = (declaredBody n).map (Node.rename ρ) := by
  cases n <;> simp [Node.rename, declaredBody]

theorem declaredName_rename (n : Node) : declaredName (n.rename ρ) = declaredName n := by
  cases n <;> rfl

end Constructor

theorem Registration.callee?_rename (n : Node) :
    callee? (n.rename ρ) = (callee? n).map fun (func, argument) =>
      (func.rename ρ, argument.rename ρ) := by
  cases n with
  | call info func args keywords =>
    rcases args with _ | ⟨argument, rest⟩
    · rfl
    · cases argument with
      | plain info kind parts => cases kind <;> rfl
      | _ => rfl
  | _ => rfl

end

/-! ## Searching a unit -/

namespace Resolve.Correspondence

variable {M M' : Modules} {C : Correspondence M M'} {u u' : SourceUnit}
  (related : C.rel u u') (o : ScanOptions)
include related

theorem first? (body : List Node) :
    Query.Agree M.known M'.known
      (fun x y => y = x.map fun (call, argument) =>
        (call.rename (C.spelling u.origin), argument.rename (C.spelling u.origin)))
      (Registration.first? M.units o u body)
      (Registration.first? M'.units o u' (body.map (Node.rename (C.spelling u.origin)))) := by
  rw [Registration.first?, Registration.first?, Node.executed_rename]
  refine .firstSome (fun n => ?_) _
  rw [Registration.argument?, Registration.argument?, Registration.callee?_rename]
  cases Registration.callee? n with
  | none => exact .pure rfl
  | some found =>
    obtain ⟨func, argument⟩ := found
    refine (qualifiedName related func).bind ?_
    rintro q _ rfl
    refine (C.matchesTarget q o.registerTarget).bind ?_
    rintro hit _ rfl
    cases hit <;> exact .pure rfl

theorem ofArguments? (arguments : List Node) :
    Same M M' (Metadata.ofArguments? M.units u arguments)
      (Metadata.ofArguments? M'.units u' (arguments.map (Node.rename (C.spelling u.origin)))) := by
  have fold (r : Record) : Same M M' (arguments.foldlM (Metadata.addArgument M.units u) r)
      ((arguments.map (Node.rename (C.spelling u.origin))).foldlM
        (Metadata.addArgument M'.units u') r) := by
    induction arguments generalizing r with
    | nil => exact .pure rfl
    | cons n rest ih =>
      rw [List.map_cons, List.foldlM_cons, List.foldlM_cons]
      refine Query.Agree.bind (R := (· = ·)) ?_ ?_
      · cases n with
        | keyword info label value =>
          cases label with
          | none => exact .pure rfl
          | some name =>
            simp only [Node.rename, Metadata.addArgument]
            split
            · refine (fieldText related value).bind ?_
              rintro text _ rfl
              exact .pure rfl
            · exact .pure rfl
        | _ => exact .pure rfl
      · rintro r _ rfl
        exact ih r
  refine (fold { id := "" }).bind ?_
  rintro r _ rfl
  exact .pure rfl

theorem find? (target : String) (body : List Node) :
    Same M M' (Metadata.find? M.units target u body)
      (Metadata.find? M'.units target u' (body.map (Node.rename (C.spelling u.origin)))) := by
  rw [Metadata.find?, Metadata.find?, Node.preorder_rename]
  have found : Query.Agree M.known M'.known (fun x y => y = x.map fun r : Record => r)
      (Query.firstSome (Metadata.ofNode? M.units target u) (Node.preorder body))
      (Query.firstSome (Metadata.ofNode? M'.units target u')
        ((Node.preorder body).map (Node.rename (C.spelling u.origin)))) := by
    refine .firstSome (fun n => ?_) _
    cases n with
    | call info func args keywords =>
      simp only [Node.rename, Metadata.ofNode?, Node.renameList_eq_map]
      refine (qualifiedName related func).bind ?_
      rintro q _ rfl
      refine (C.matchesTarget q target).bind ?_
      rintro hit _ rfl
      cases hit with
      | false => exact .pure rfl
      | true =>
        refine (ofArguments? related keywords).mono ?_
        rintro r _ rfl
        exact Option.map_id'.symm
    | _ => exact .pure rfl
  refine found.mono ?_
  rintro r _ rfl
  exact Option.map_id'.symm

variable {verbatim : Prop}
  (written : verbatim → u'.path = u.path ∧ ∀ v, C.spelling u.origin v = v)
include written

theorem ofEntries (entries : List LoadEntry) :
    Tracing.Agree M.known M'.known verbatim
      (fun x y => y = x.map (Registration.rename (C.spelling u.origin)))
      (Registration.ofEntries M.units o u entries)
      (Registration.ofEntries M'.units o u'
        (entries.map (LoadEntry.rename (C.spelling u.origin)))) := by
  induction entries with
  | nil => exact .pure rfl
  | cons e rest ih =>
    rw [List.map_cons, Registration.ofEntries, Registration.ofEntries]
    refine (Tracing.Agree.query (first? related o e.body)).bind ?_
    rintro x _ rfl
    cases x with
    | none =>
      by_cases function : e.name != LoadEntry.moduleEntry
      · have function' : (e.rename (C.spelling u.origin)).name != LoadEntry.moduleEntry := function
        simp only [Option.map_none, function, function', if_true]
        refine (Tracing.Agree.warn fun exactly => ?_).bind fun _ _ _ => ih
        simp only [Registration.missingWarning, SourceUnit.location, (written exactly).1]
        rfl
      · have function' : ¬ (e.rename (C.spelling u.origin)).name != LoadEntry.moduleEntry :=
          function
        simp only [Option.map_none, function, function']
        exact ih
    | some found =>
      refine ih.bind ?_
      rintro others _ rfl
      exact .pure rfl

theorem recordOf (r : Registration) :
    Query.Agree M.known M'.known (SameResult verbatim (· = ·)) (Scan.recordOf M.units o u r)
      (Scan.recordOf M'.units o u' (r.rename (C.spelling u.origin))) := by
  have traced := Constructor.sameDeclaration_trace (C.alike related) written r
  rw [Scan.recordOf, Scan.recordOf]
  generalize Constructor.trace u r = outcome at traced
  generalize Constructor.trace u' (r.rename (C.spelling u.origin)) = outcome' at traced
  cases traced with
  | warning same => exact .pure (.warning same)
  | @value declaration _ same =>
    cases same
    dsimp only
    rw [Constructor.declaredBody_rename]
    refine (find? related o.metadataTarget (Constructor.declaredBody declaration)).bind ?_
    rintro record _ rfl
    cases record with
    | some record => exact .pure (.value rfl)
    | none =>
      refine .pure (.warning fun exactly => ?_)
      simp only [Scan.emptyWarning, SourceUnit.location, (written exactly).1, Node.line_rename,
        Constructor.declaredName_rename]

theorem firstRecord (sites : List Registration) :
    Tracing.Agree M.known M'.known verbatim (· = ·) (Scan.firstRecord M.units o u sites)
      (Scan.firstRecord M'.units o u'
        (sites.map (Registration.rename (C.spelling u.origin)))) := by
  induction sites with
  | nil => exact .pure rfl
  | cons r rest ih =>
    rw [List.map_cons, Scan.firstRecord, Scan.firstRecord]
    refine (Tracing.Agree.query (recordOf related o written r)).bind fun x y same => ?_
    cases same with
    | value same =>
      cases same
      exact .pure rfl
    | warning same => exact (Tracing.Agree.warn same).bind fun _ _ _ => ih

/-- Corresponding units give the same record. -/
theorem unitRecord :
    Tracing.Agree M.known M'.known verbatim (· = ·) (Scan.unitRecord M.units o u)
      (Scan.unitRecord M'.units o u') := by
  have entries := LoadEntry.all_rename (C.alike related) o.initFunctions
  rw [Scan.unitRecord, Scan.unitRecord, Registration.all, Registration.all, entries]
  refine (ofEntries related o written _).bind ?_
  rintro sites _ rfl
  exact firstRecord related o written sites

end Resolve.Correspondence

end Catalog
