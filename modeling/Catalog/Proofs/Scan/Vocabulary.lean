import Catalog.Proofs.Resolve.Vocabulary
import Catalog.Proofs.Scan.Sites

/-!
# The words of the modules that a scan asks for

A scan asks for modules when it looks for the names of functions that are called, and for the texts
of fields. All of these are nodes of the unit that is scanned. So a scan of units that use certain
words only asks for modules whose names are made of them.
-/

namespace Catalog

open Syntax Resolve

/-! ## Tracing -/

namespace Tracing

variable {α β : Type} {W : String → Prop} {R : α → Prop} {S : β → Prop}

/-- The tracing asks for modules whose names are made of the words only. -/
def AsksIn (W : String → Prop) (R : α → Prop) (t : Tracing α) : Prop :=
  ∀ warnings : List String,
    (t.run.run warnings).AsksIn W fun outcome => ∀ a, outcome.1 = .ok a → R a

namespace AsksIn

theorem pure {a : α} (result : R a) : AsksIn W R (Pure.pure a) := by
  refine fun _ => Query.Asks.pure ?_
  rintro _ ⟨⟩
  exact result

theorem bind {t : Tracing α} {f : α → Tracing β} (first : t.AsksIn W R)
    (second : ∀ a, R a → (f a).AsksIn W S) : (t >>= f).AsksIn W S := by
  intro warnings
  simp only [ExceptT.run_bind, StateT.run_bind]
  refine (first warnings).bind ?_
  rintro ⟨cause | a, left⟩ result
  · exact Query.Asks.pure nofun
  · exact second a (result a rfl) left

theorem warn (w : String) : (Tracing.warn w).AsksIn W fun _ => True :=
  fun _ => Query.Asks.pure fun _ _ => trivial

theorem query {q : Query α} (asks : q.AsksIn W R) : (Tracing.query q).AsksIn W R :=
  fun _ => asks.attempt.bind fun _ result => Query.Asks.pure result

end AsksIn

end Tracing

theorem Query.Asks.firstSome {α β : Type} {W : String → Prop} {find : α → Query (Option β)}
    {l : List α} (each : ∀ a ∈ l, (find a).AsksIn W fun _ => True) :
    (Query.firstSome find l).AsksIn W fun _ => True := by
  induction l with
  | nil => exact .pure trivial
  | cons a rest ih =>
    obtain ⟨first, each⟩ := List.forall_mem_cons.mp each
    refine first.bind fun found _ => ?_
    cases found with
    | none => exact ih each
    | some b => exact .pure trivial

/-! ## Nodes of a unit -/

namespace Syntax.Node

variable {all : List Node}

theorem mem_preorder_of_executedParts {n : Node} (inside : n ∈ preorder all) :
    ∀ c ∈ n.executedParts, c ∈ preorder all := by
  have defaults {args : Node} (known : args ∈ preorder all) :
      ∀ c ∈ args.argumentDefaults, c ∈ preorder all := by
    cases args with
    | arguments info posonly args vararg kwonly kwDefaults kwarg defaults =>
      intro c member
      refine mem_preorder_of_child known ?_
      simp only [argumentDefaults, children, List.mem_append] at member ⊢
      grind
    | _ => rintro c ⟨⟩
  cases n with
  | functionDef info async label args body decorators returns =>
    refine List.forall_mem_append.mpr ⟨fun c member => ?_, ?_⟩
    · exact mem_preorder_of_child inside (by simp [children, member])
    · exact defaults (mem_preorder_of_child inside (by simp [children]))
  | lambda info args body =>
    exact defaults (mem_preorder_of_child inside (by simp [children]))
  | _ => exact fun c member => mem_preorder_of_child inside member

/-- What runs in the trees are nodes of them. -/
theorem mem_preorder_of_executed (ns : List Node) (inside : ∀ n ∈ ns, n ∈ preorder all) :
    ∀ k ∈ executed ns, k ∈ preorder all := by
  match ns with
  | [] => simp [executed]
  | n :: rest =>
    obtain ⟨first, others⟩ := List.forall_mem_cons.mp inside
    rw [executed]
    refine List.forall_mem_cons.mpr ⟨first, ?_⟩
    exact mem_preorder_of_executed (n.executedParts ++ rest)
      (List.forall_mem_append.mpr ⟨mem_preorder_of_executedParts first, others⟩)
termination_by totalSize ns
decreasing_by
  have := totalSize_executedParts n
  simp
  omega

theorem mem_preorder_of_mem {n : Node} (member : n ∈ all) : n ∈ preorder all :=
  preorder_subset member (mem_preorder_self n)

theorem mem_preorder_trans {ns : List Node} (inside : ∀ n ∈ ns, n ∈ preorder all) :
    ∀ k ∈ preorder ns, k ∈ preorder all := by
  intro k member
  obtain ⟨n, one, below⟩ := mem_preorder_iff.mp member
  exact preorder_subset_of_mem (inside n one) below

theorem mem_preorder_of_declaredBody {n : Node} (inside : n ∈ preorder all) :
    ∀ c ∈ Constructor.declaredBody n, c ∈ preorder all := by
  cases n with
  | functionDef | classDef =>
    intro c member
    refine mem_preorder_of_child inside ?_
    simp only [Constructor.declaredBody] at member
    simp [children, member]
  | _ => rintro c ⟨⟩

end Syntax.Node

theorem LoadEntry.mem_preorder_of_all (u : SourceUnit) (initFunctions : List String) :
    ∀ e ∈ LoadEntry.all u initFunctions, ∀ n ∈ e.body, n ∈ Node.preorder u.body := by
  refine List.forall_mem_cons.mpr ⟨fun n => Node.mem_preorder_of_mem, fun e member => ?_⟩
  obtain ⟨statement, inside, found⟩ := List.mem_filterMap.mp member
  unfold ofStatement? at found
  split at found
  · split at found
    · obtain ⟨scope, -, rfl⟩ := Option.map_eq_some_iff.mp found
      exact fun n part => Node.mem_preorder_of_child (Node.mem_preorder_of_mem inside)
        (by simp [Node.children, part])
    · cases found
  · cases found

/-! ## Searching a unit -/

namespace Scan

variable {W : String → Prop} {units : List SourceUnit} (inside : ∀ u ∈ units, u.Uses W)
  (named : ¬ W "") {u : SourceUnit} (uses : u.Uses W) {o : ScanOptions}
include inside named uses

theorem asks_first? (target : Dotted.MadeOf W o.registerTarget) {body : List Node}
    (stands : ∀ n ∈ body, n ∈ Node.preorder u.body) :
    (Registration.first? units o u body).AsksIn W fun _ => True := by
  refine .firstSome fun n member => ?_
  have stands := Node.mem_preorder_of_executed body stands n member
  rw [Registration.argument?]
  cases n with
  | call info func args keywords =>
    split
    · exact .pure trivial
    · rename_i func' argument called
      have func : func' = func := by
        revert called
        rcases args with _ | ⟨first, rest⟩
        · rintro ⟨⟩
        · simp only [Registration.callee?]
          split
          · rintro ⟨⟩
          · rintro ⟨⟩
            rfl
      rw [func]
      refine (asks_qualifiedName inside named uses
        (Node.mem_preorder_of_child stands (by simp [Node.children]))).bind fun q _ => ?_
      refine (asks_matchesTarget inside q target).bind fun hit _ => ?_
      cases hit <;> exact .pure trivial
  | _ => exact .pure trivial

theorem asks_ofArguments? {arguments : List Node}
    (stands : ∀ n ∈ arguments, n ∈ Node.preorder u.body) :
    (Metadata.ofArguments? units u arguments).AsksIn W fun _ => True := by
  have fold (r : Record) :
      (arguments.foldlM (Metadata.addArgument units u) r).AsksIn W fun _ => True := by
    induction arguments generalizing r with
    | nil => exact .pure trivial
    | cons n rest ih =>
      obtain ⟨first, stands⟩ := List.forall_mem_cons.mp stands
      rw [List.foldlM_cons]
      have own : (Metadata.addArgument units u r n).AsksIn W fun _ => True := by
        cases n with
        | keyword info label value =>
          cases label with
          | none => exact .pure trivial
          | some name =>
            simp only [Metadata.addArgument]
            split
            · exact (asks_fieldText inside named uses
                (Node.mem_preorder_of_child first (by simp [Node.children]))).bind
                fun _ _ => .pure trivial
            · exact .pure trivial
        | _ => exact .pure trivial
      exact own.bind fun r _ => ih stands r
  exact (fold { id := "" }).bind fun _ _ => .pure trivial

theorem asks_find? {target : String} (own : Dotted.MadeOf W target) {body : List Node}
    (stands : ∀ n ∈ body, n ∈ Node.preorder u.body) :
    (Metadata.find? units target u body).AsksIn W fun _ => True := by
  refine .firstSome fun n member => ?_
  have stands := Node.mem_preorder_trans stands n member
  cases n with
  | call info func args keywords =>
    refine (asks_qualifiedName inside named uses
      (Node.mem_preorder_of_child stands (by simp [Node.children]))).bind fun q _ => ?_
    refine (asks_matchesTarget inside q own).bind fun hit _ => ?_
    cases hit with
    | false => exact .pure trivial
    | true =>
      refine asks_ofArguments? inside named uses fun k member => ?_
      exact Node.mem_preorder_of_child stands (by simp [Node.children, member])
  | _ => exact .pure trivial

theorem asks_ofEntries (target : Dotted.MadeOf W o.registerTarget) {entries : List LoadEntry}
    (stands : ∀ e ∈ entries, ∀ n ∈ e.body, n ∈ Node.preorder u.body) :
    (Registration.ofEntries units o u entries).AsksIn W fun _ => True := by
  induction entries with
  | nil => exact .pure trivial
  | cons e rest ih =>
    obtain ⟨first, stands⟩ := List.forall_mem_cons.mp stands
    rw [Registration.ofEntries]
    refine (Tracing.AsksIn.query (asks_first? inside named uses target first)).bind
      fun found _ => ?_
    cases found with
    | none =>
      by_cases function : e.name != LoadEntry.moduleEntry
      · simp only [function, if_true]
        exact (Tracing.AsksIn.warn _).bind fun _ _ => ih stands
      · simp only [function]
        exact ih stands
    | some found => exact (ih stands).bind fun _ _ => .pure trivial

theorem asks_recordOf (target : Dotted.MadeOf W o.metadataTarget) (r : Registration) :
    (recordOf units o u r).AsksIn W fun _ => True := by
  rw [recordOf]
  cases traced : Constructor.trace u r with
  | error warning => exact .pure trivial
  | ok declaration =>
    have known := (Constructor.isDefinition_of_trace uses.read traced).1
    refine (asks_find? inside named uses target
      (Node.mem_preorder_of_declaredBody known)).bind fun record _ => ?_
    cases record <;> exact .pure trivial

theorem asks_firstRecord (target : Dotted.MadeOf W o.metadataTarget)
    (sites : List Registration) : (firstRecord units o u sites).AsksIn W fun _ => True := by
  induction sites with
  | nil => exact .pure trivial
  | cons r rest ih =>
    rw [firstRecord]
    refine (Tracing.AsksIn.query (asks_recordOf inside named uses target r)).bind fun found _ => ?_
    cases found with
    | ok record => exact .pure trivial
    | error warning => exact (Tracing.AsksIn.warn warning).bind fun _ _ => ih

/-- A scan of a unit asks only for modules whose names are made of the words that are used. -/
theorem asked_unitRecord (register : Dotted.MadeOf W o.registerTarget)
    (metadata : Dotted.MadeOf W o.metadataTarget)
    {known : String → Except Fault (Option SourceUnit)}
    (answers : ∀ m v, Dotted.MadeOf W m → known m = .ok (some v) → v.Uses W) :
    ∀ m ∈ (unitRecord units o u).collect.asked known, Dotted.MadeOf W m := by
  have entries := LoadEntry.mem_preorder_of_all u o.initFunctions
  have asks : (unitRecord units o u).AsksIn W fun _ => True :=
    (asks_ofEntries inside named uses register entries).bind fun sites _ =>
      asks_firstRecord inside named uses metadata sites
  exact (asks []).asked answers

end Scan

end Catalog
