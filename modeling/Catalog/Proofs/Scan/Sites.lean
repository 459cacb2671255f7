import Catalog.Proofs.Scan.Tracing
import Catalog.Proofs.Scope.Owners
import Catalog.Scan.Basic

/-!
# Registrations, constructors and records as they stand in the source

The searches of a scan are loops that stop at the first hit. Here each of them is described by what
it finds: a node of the visited list, with everything before it passed over. A node is passed over
only if it is known not to be a hit; a fault on the way is neither.
-/

namespace Catalog

open Syntax

/-! ## First hits -/

namespace Query

variable {α β : Type} {known : String → Except Fault (Option SourceUnit)}
variable {find : α → Query (Option β)}

theorem firstSome_cons_eq_ok {a : α} {rest : List α} {result : Option β} :
    (firstSome find (a :: rest)).answer known = .ok result ↔
      (∃ b, (find a).answer known = .ok (some b) ∧ result = some b) ∨
      (find a).answer known = .ok none ∧ (firstSome find rest).answer known = .ok result := by
  rw [firstSome, answer_bind_eq_ok]
  constructor
  · rintro ⟨_ | b, hit, more⟩
    · exact .inr ⟨hit, more⟩
    · cases more
      exact .inl ⟨b, hit, rfl⟩
  · rintro (⟨b, hit, rfl⟩ | ⟨miss, more⟩)
    · exact ⟨some b, hit, rfl⟩
    · exact ⟨none, miss, more⟩

theorem firstSome_eq_none_iff {items : List α} :
    (firstSome find items).answer known = .ok none ↔
      ∀ a ∈ items, (find a).answer known = .ok none := by
  induction items with
  | nil => simp [firstSome]
  | cons a rest ih => simp [firstSome_cons_eq_ok, ih]

theorem firstSome_eq_some_iff {items : List α} {b : β} :
    (firstSome find items).answer known = .ok (some b) ↔
      ∃ before a after, items = before ++ a :: after ∧
        (find a).answer known = .ok (some b) ∧
        ∀ x ∈ before, (find x).answer known = .ok none := by
  induction items with
  | nil => simp [firstSome]
  | cons a rest ih =>
    rw [firstSome_cons_eq_ok, ih]
    constructor
    · rintro (⟨_, hit, same⟩ | ⟨miss, before, x, after, rfl, hit, passed⟩)
      · cases same
        exact ⟨[], a, rest, rfl, hit, by simp⟩
      · exact ⟨a :: before, x, after, rfl, hit, by simpa using ⟨miss, passed⟩⟩
    · rintro ⟨_ | ⟨first, before⟩, x, after, split, hit, passed⟩
      · cases split
        exact .inl ⟨b, hit, rfl⟩
      · cases split
        have passed := List.forall_mem_cons.mp passed
        exact .inr ⟨passed.1, before, x, after, rfl, hit, passed.2⟩

end Query

/-! ## Constructors -/

namespace Constructor

variable {u : SourceUnit}

/-- A name leads to a declaration only if nothing but declarations binds it. -/
theorem exists_binding_of_declaration {info : Info} {id untraced : String} {D : Node}
    (found : declaration u info id untraced = .ok D) :
    ∃ ref symbol b, u.symbolFor? info.id id = some ref ∧ u.scopes.symbol? ref = some symbol ∧
      b ∈ symbol.bindings ∧ b.form.isDeclaration = true ∧ b.owner = D := by
  unfold declaration at found
  split at found
  · cases found
  · rename_i symbol leads
    obtain ⟨ref, place, has⟩ := Option.bind_eq_some_iff.mp leads
    dsimp only at found
    split at found
    · cases found
    · split at found
      · cases found
      · rename_i only
        split at found
        · cases found
        · rename_i b rest bindings
          cases found
          refine ⟨ref, symbol, b, place, has, by simp [bindings], ?_, rfl⟩
          simp only [Bool.not_eq_true, Bool.not_eq_false', List.isEmpty_iff,
            List.filter_eq_nil_iff, bindings] at only
          simpa using only b List.mem_cons_self

/-- What a registration is traced to is a function or a class of the unit. -/
theorem isDefinition_of_trace (read : u.IsRead) {site : Registration} {D : Node}
    (traced : trace u site = .ok D) : D ∈ Node.preorder u.body ∧ D.isDefinition = true := by
  unfold trace at traced
  dsimp only at traced
  split at traced
  · cases traced
  · obtain ⟨ref, symbol, b, _, has, member, declares, rfl⟩ := exists_binding_of_declaration traced
    exact u.owner_of_isRead read has member declares

end Constructor

/-- What a scan of a unit depends on besides the unit: the answers about modules outside of the
repository, the units of the repository, and the options. -/
structure Setting where
  known : String → Except Fault (Option SourceUnit)
  units : List SourceUnit
  options : ScanOptions

namespace Setting

variable (c : Setting) (u : SourceUnit)

/-- The setting of a scan of a source set. -/
def ofSources (tree : FileTree) (o : ScanOptions) (sources : SourceSet) : Setting :=
  { known := sources.answers tree, units := sources.units, options := o }

/-- Whether an expression denotes what the qualified name `target` stands for. -/
def denotes (func : Node) (target : String) : Except Fault Bool :=
  (do Resolve.matchesTarget c.units (← Resolve.qualifiedName c.units u func) target :
    Query Bool).answer c.known

/-! ## Registrations -/

/-- An argument that is a single value. -/
def IsSingle (argument : Node) : Prop :=
  ∀ info parts, argument ≠ .plain info .starred parts

/-- The node is a call of the registry's function with a single value as its first argument. -/
def Registers (n argument : Node) : Prop :=
  ∃ info func more keywords, n = .call info func (argument :: more) keywords ∧
    IsSingle argument ∧ c.denotes u func c.options.registerTarget = .ok true

/-- The node is known to register nothing. -/
def RegistersNothing (n : Node) : Prop :=
  ∀ info func argument more keywords, n = .call info func (argument :: more) keywords →
    IsSingle argument → c.denotes u func c.options.registerTarget = .ok false

/-- The first registration that runs when the body runs. -/
def FirstRegistration (body : List Node) (call argument : Node) : Prop :=
  ∃ before after, Node.executed body = before ++ call :: after ∧
    c.Registers u call argument ∧ ∀ n ∈ before, c.RegistersNothing u n

/-- Nothing is registered when the body runs. -/
def NoRegistration (body : List Node) : Prop :=
  ∀ n ∈ Node.executed body, c.RegistersNothing u n

variable {c u}

theorem callee?_eq_some_iff {n func argument : Node} :
    Registration.callee? n = some (func, argument) ↔
      ∃ info more keywords, n = .call info func (argument :: more) keywords ∧
        IsSingle argument := by
  constructor
  · intro found
    unfold Registration.callee? at found
    split at found
    · split at found
      · cases found
      · rename_i single
        cases found
        exact ⟨_, _, _, rfl, single⟩
    · cases found
  · rintro ⟨info, more, keywords, rfl, single⟩
    unfold Registration.callee?
    split
    · rename_i same
      cases same
      split
      · exact absurd rfl (single _ _)
      · rfl
    · rename_i other
      exact (other _ _ _ _ _ rfl).elim

/-- Asking whether a function denotes a target, and going on with the answer. -/
theorem answer_denotes_eq_ok {β : Type} {func : Node} {target : String} {next : Bool → Query β}
    {b : β} :
    (do next (← Resolve.matchesTarget c.units (← Resolve.qualifiedName c.units u func) target) :
      Query β).answer c.known = .ok b ↔
      ∃ yes, c.denotes u func target = .ok yes ∧ (next yes).answer c.known = .ok b := by
  rw [denotes, ← Query.answer_bind_eq_ok, bind_assoc]

theorem argument?_eq_ok_iff {n func argument : Node} {result : Option (Node × Node)}
    (callee : Registration.callee? n = some (func, argument)) :
    (Registration.argument? c.units c.options u n).answer c.known = .ok result ↔
      ∃ yes, c.denotes u func c.options.registerTarget = .ok yes ∧
        result = if yes then some (n, argument) else none := by
  rw [Registration.argument?, callee]
  refine answer_denotes_eq_ok.trans ⟨?_, ?_⟩
  · rintro ⟨yes, known, given⟩
    refine ⟨yes, known, ?_⟩
    cases yes <;> cases given <;> rfl
  · rintro ⟨yes, known, rfl⟩
    refine ⟨yes, known, ?_⟩
    cases yes <;> rfl

theorem argument?_of_none {n : Node} (callee : Registration.callee? n = none) :
    Registration.argument? c.units c.options u n = pure none := by
  rw [Registration.argument?, callee]

theorem argument?_eq_some_iff {n call argument : Node} :
    (Registration.argument? c.units c.options u n).answer c.known = .ok (some (call, argument)) ↔
      call = n ∧ c.Registers u n argument := by
  cases callee : Registration.callee? n with
  | none =>
    rw [argument?_of_none callee]
    constructor
    · intro given
      cases given
    · rintro ⟨-, info, func, more, keywords, call, single, -⟩
      rw [callee?_eq_some_iff.mpr ⟨info, more, keywords, call, single⟩] at callee
      cases callee
  | some found =>
    obtain ⟨func, first⟩ := found
    rw [argument?_eq_ok_iff callee]
    constructor
    · rintro ⟨yes, known, given⟩
      cases yes with
      | false => cases given
      | true =>
        cases given
        obtain ⟨info, more, keywords, call, single⟩ := callee?_eq_some_iff.mp callee
        exact ⟨rfl, info, func, more, keywords, call, single, known⟩
    · rintro ⟨rfl, info, func', more, keywords, call, single, known⟩
      rw [callee?_eq_some_iff.mpr ⟨info, more, keywords, call, single⟩] at callee
      cases callee
      exact ⟨true, known, rfl⟩

theorem argument?_eq_none_iff {n : Node} :
    (Registration.argument? c.units c.options u n).answer c.known = .ok none ↔
      c.RegistersNothing u n := by
  cases callee : Registration.callee? n with
  | none =>
    rw [argument?_of_none callee]
    refine ⟨fun _ info func argument more keywords call single => ?_, fun _ => rfl⟩
    rw [callee?_eq_some_iff.mpr ⟨info, more, keywords, call, single⟩] at callee
    cases callee
  | some found =>
    obtain ⟨func, first⟩ := found
    rw [argument?_eq_ok_iff callee]
    constructor
    · rintro ⟨yes, known, given⟩ info func' argument more keywords call single
      rw [callee?_eq_some_iff.mpr ⟨info, more, keywords, call, single⟩] at callee
      cases callee
      cases yes with
      | false => exact known
      | true => cases given
    · intro nothing
      obtain ⟨info, more, keywords, call, single⟩ := callee?_eq_some_iff.mp callee
      exact ⟨false, nothing info func first more keywords call single, rfl⟩

theorem first?_eq_some_iff {body : List Node} {call argument : Node} :
    (Registration.first? c.units c.options u body).answer c.known = .ok (some (call, argument)) ↔
      c.FirstRegistration u body call argument := by
  simp only [Registration.first?, Query.firstSome_eq_some_iff, argument?_eq_some_iff,
    argument?_eq_none_iff]
  constructor
  · rintro ⟨before, n, after, split, ⟨rfl, hit⟩, passed⟩
    exact ⟨before, after, split, hit, passed⟩
  · rintro ⟨before, after, split, hit, passed⟩
    exact ⟨before, call, after, split, ⟨rfl, hit⟩, passed⟩

theorem first?_eq_none_iff {body : List Node} :
    (Registration.first? c.units c.options u body).answer c.known = .ok none ↔
      c.NoRegistration u body := by
  simp only [Registration.first?, Query.firstSome_eq_none_iff, argument?_eq_none_iff,
    NoRegistration]

/-! ## Records -/

variable (c u)

/-- The record that the named arguments of a call spell out. -/
def Spells (keywords : List Node) (r : Record) : Prop :=
  (keywords.foldlM (Metadata.addArgument c.units u) { id := "" }).answer c.known = .ok r

/-- The node is a call of the metadata class whose arguments give a record with an id. -/
def HoldsRecord (n : Node) (r : Record) : Prop :=
  ∃ info func args keywords, n = .call info func args keywords ∧
    c.denotes u func c.options.metadataTarget = .ok true ∧ c.Spells u keywords r ∧ r.id ≠ ""

/-- The node is known to be no call of the metadata class that gives a record with an id. -/
def HoldsNoRecord (n : Node) : Prop :=
  ∀ info func args keywords, n = .call info func args keywords →
    c.denotes u func c.options.metadataTarget = .ok false ∨
    c.denotes u func c.options.metadataTarget = .ok true ∧ ∃ r, c.Spells u keywords r ∧ r.id = ""

/-- The first record that stands in the body or inside of it. -/
def FirstRecord (body : List Node) (r : Record) : Prop :=
  ∃ before n after, Node.preorder body = before ++ n :: after ∧
    c.HoldsRecord u n r ∧ ∀ n ∈ before, c.HoldsNoRecord u n

/-- No record stands in the body. -/
def NoRecord (body : List Node) : Prop :=
  ∀ n ∈ Node.preorder body, c.HoldsNoRecord u n

variable {c u}

theorem ofArguments?_eq_ok_iff {keywords : List Node} {result : Option Record} :
    (Metadata.ofArguments? c.units u keywords).answer c.known = .ok result ↔
      ∃ r, c.Spells u keywords r ∧ result = if r.id = "" then none else some r := by
  rw [Metadata.ofArguments?, Query.answer_bind_eq_ok]
  simp only [Spells, Query.answer_pure, Except.ok.injEq, String.isEmpty_iff]
  constructor
  · rintro ⟨r, spelt, rfl⟩
    exact ⟨r, spelt, rfl⟩
  · rintro ⟨r, spelt, rfl⟩
    exact ⟨r, spelt, rfl⟩

theorem ofNode?_call_eq_ok_iff {info : Info} {func : Node} {args keywords : List Node}
    {result : Option Record} :
    (Metadata.ofNode? c.units c.options.metadataTarget u (.call info func args keywords)).answer
        c.known = .ok result ↔
      c.denotes u func c.options.metadataTarget = .ok false ∧ result = none ∨
      c.denotes u func c.options.metadataTarget = .ok true ∧
        ∃ r, c.Spells u keywords r ∧ result = if r.id = "" then none else some r := by
  rw [Metadata.ofNode?, ← ofArguments?_eq_ok_iff]
  refine answer_denotes_eq_ok.trans ⟨?_, ?_⟩
  · rintro ⟨yes, known, given⟩
    cases yes with
    | false =>
      cases given
      exact .inl ⟨known, rfl⟩
    | true => exact .inr ⟨known, given⟩
  · rintro (⟨known, rfl⟩ | ⟨known, given⟩)
    · exact ⟨false, known, rfl⟩
    · exact ⟨true, known, given⟩

theorem ofNode?_eq_some_iff {n : Node} {r : Record} :
    (Metadata.ofNode? c.units c.options.metadataTarget u n).answer c.known = .ok (some r) ↔
      c.HoldsRecord u n r := by
  constructor
  · intro given
    cases n with
    | call info func args keywords =>
      rcases ofNode?_call_eq_ok_iff.mp given with ⟨_, none⟩ | ⟨known, r', spelt, same⟩
      · cases none
      · split at same
        · cases same
        · rename_i named
          cases same
          exact ⟨info, func, args, keywords, rfl, known, spelt, named⟩
    | _ => cases given
  · rintro ⟨info, func, args, keywords, rfl, known, spelt, named⟩
    exact ofNode?_call_eq_ok_iff.mpr (.inr ⟨known, r, spelt, by rw [if_neg named]⟩)

theorem ofNode?_eq_none_iff {n : Node} :
    (Metadata.ofNode? c.units c.options.metadataTarget u n).answer c.known = .ok none ↔
      c.HoldsNoRecord u n := by
  constructor
  · rintro given info func args keywords rfl
    rcases ofNode?_call_eq_ok_iff.mp given with ⟨known, _⟩ | ⟨known, r, spelt, none⟩
    · exact .inl known
    · split at none
      · rename_i nameless
        exact .inr ⟨known, r, spelt, nameless⟩
      · cases none
  · intro nothing
    cases n with
    | call info func args keywords =>
      rcases nothing info func args keywords rfl with known | ⟨known, r, spelt, nameless⟩
      · exact ofNode?_call_eq_ok_iff.mpr (.inl ⟨known, rfl⟩)
      · exact ofNode?_call_eq_ok_iff.mpr (.inr ⟨known, r, spelt, by rw [if_pos nameless]⟩)
    | _ => rfl

theorem find?_eq_some_iff {body : List Node} {r : Record} :
    (Metadata.find? c.units c.options.metadataTarget u body).answer c.known = .ok (some r) ↔
      c.FirstRecord u body r := by
  simp only [Metadata.find?, Query.firstSome_eq_some_iff, ofNode?_eq_some_iff,
    ofNode?_eq_none_iff, FirstRecord]

theorem find?_eq_none_iff {body : List Node} :
    (Metadata.find? c.units c.options.metadataTarget u body).answer c.known = .ok none ↔
      c.NoRecord u body := by
  simp only [Metadata.find?, Query.firstSome_eq_none_iff, ofNode?_eq_none_iff, NoRecord]

end Setting

end Catalog
