import Catalog.Proofs.Resolve.Naming
import Catalog.Proofs.Resolve.Redirects
import Catalog.Resolve.Constant

/-!
# The values of constants

A constant has a value if there is a finite derivation of it. The rules of such derivations know
nothing of depth or of what was met before: a symbol has the value of what it is assigned, or of
the symbol that its import finds; an expression is a text, the sum of two texts, or has the value
of the symbol it refers to.

What a value depends on is a relation between symbols and expressions. Whatever has a value depends
on nothing without end. So a symbol whose dependencies run into a circle has none.
-/

namespace Catalog.Resolve

open Syntax

/-- What may have a value: a symbol of a unit, and an expression in the definition of one. -/
inductive Term where
  | symbol (u : SourceUnit) (ref : SymbolRef)
  | expr (u : SourceUnit) (node : Node)

namespace Term

/-- The unit in which the term stands. -/
def unit : Term → SourceUnit
  | symbol u _ => u
  | expr u _ => u

/-- What is noted when the term is met; expressions are not noted. -/
def key? : Term → Option SymbolKey
  | symbol u ref => some { origin := u.origin, symbol := ref }
  | expr _ _ => none

/-- The term was not met before. -/
def IsNew (seen : List SymbolKey) (s : Term) : Prop :=
  ∀ key ∈ s.key?, key ∉ seen

/-- What was met before the parts of a term: the term, and all that was met before it. -/
def meet (seen : List SymbolKey) (s : Term) : List SymbolKey :=
  s.key?.toList ++ seen

theorem isNew_nil (s : Term) : s.IsNew [] :=
  fun _ _ => List.not_mem_nil

theorem isNew_meet {seen : List SymbolKey} {s t : Term} (new : t.IsNew seen)
    (apart : ∀ key ∈ t.key?, key ∉ s.key?) : t.IsNew (s.meet seen) := by
  intro key noted
  rw [meet, List.mem_append, not_or]
  exact ⟨fun own => apart key noted (Option.mem_toList.mp own), new key noted⟩

end Term

/-- The expression stands for a qualified name: an attribute, or a name that leads to no symbol. -/
inductive IsQualified (u : SourceUnit) : Node → Prop
  | attr (info : Info) (value : Node) (label : String) : IsQualified u (.attr info value label)
  | free {info : Info} {id : String} (context : Context)
      (unbound : u.symbolFor? info.id id = none) : IsQualified u (.name info id context)

/-- The term is a literal or a sum: its value is its own, and it refers to nothing. -/
inductive IsOwn : Term → Prop
  | literal (u : SourceUnit) (info : Info) (text : Option String) :
      IsOwn (.expr u (.constant info text))
  | sum (u : SourceUnit) (info : Info) (left right : Node) :
      IsOwn (.expr u (.binOp info true left right))

namespace Modules

variable (M : Modules)

/-- The qualified name is that of the symbol. -/
def Finds (q : String) (owner : SourceUnit) (ref : SymbolRef) : Prop :=
  (lookupSymbol M.units q).answer M.known = .ok (some (owner, ref))

/-- The expression has the qualified name. -/
def Names (u : SourceUnit) (e : Node) (q : String) : Prop :=
  (qualifiedName M.units u e).answer M.known = .ok (some q)

/-! ## Rules -/

/-- The first term has the value of the second. -/
inductive Refers : Term → Term → Prop
  | assigned {u : SourceUnit} {ref : SymbolRef} {b : Binding} {value : Node}
      (only : definite? u ref = some b) (form : b.form = .assigned value) :
      Refers (.symbol u ref) (.expr u value)
  | imported {u owner : SourceUnit} {ref found : SymbolRef} {b : Binding} {target : String}
      (only : definite? u ref = some b) (form : b.form = .imported target)
      (finds : M.Finds target owner found) : Refers (.symbol u ref) (.symbol owner found)
  | bound {u : SourceUnit} {info : Info} {id : String} (context : Context) {ref : SymbolRef}
      (place : u.symbolFor? info.id id = some ref) :
      Refers (.expr u (.name info id context)) (.symbol u ref)
  | qualified {u owner : SourceUnit} {e : Node} {q : String} {found : SymbolRef}
      (stands : IsQualified u e) (names : M.Names u e q) (finds : M.Finds q owner found) :
      Refers (.expr u e) (.symbol owner found)

/-- The term has the value, by a finite derivation. -/
inductive Evaluates : Term → String → Prop
  | text (u : SourceUnit) (info : Info) (text : String) :
      Evaluates (.expr u (.constant info (some text))) text
  | sum {u : SourceUnit} (info : Info) {left right : Node} {a b : String}
      (first : Evaluates (.expr u left) a) (second : Evaluates (.expr u right) b) :
      Evaluates (.expr u (.binOp info true left right)) (a ++ b)
  | refers {s t : Term} {value : String} (refers : M.Refers s t) (there : Evaluates t value) :
      Evaluates s value

/-- The value of the first term depends on that of the second. -/
inductive Needs : Term → Term → Prop
  | left (u : SourceUnit) (info : Info) (left right : Node) :
      Needs (.expr u (.binOp info true left right)) (.expr u left)
  | right (u : SourceUnit) (info : Info) (left right : Node) :
      Needs (.expr u (.binOp info true left right)) (.expr u right)
  | refers {s t : Term} (refers : M.Refers s t) : Needs s t

/-- The value of the term depends on one that depends on itself. -/
def Circular (s : Term) : Prop :=
  ∃ t, Relation.ReflTransGen M.Needs s t ∧ Relation.TransGen M.Needs t t

/-- What the term refers to cannot be found out, for the given cause. -/
inductive Faults : Term → Fault → Prop
  | imported {u : SourceUnit} {ref : SymbolRef} {b : Binding} {target : String} {cause : Fault}
      (only : definite? u ref = some b) (form : b.form = .imported target)
      (failed : (lookupSymbol M.units target).answer M.known = .error cause) :
      Faults (.symbol u ref) cause
  | unnamed {u : SourceUnit} {e : Node} {cause : Fault} (stands : IsQualified u e)
      (failed : (qualifiedName M.units u e).answer M.known = .error cause) :
      Faults (.expr u e) cause
  | unfound {u : SourceUnit} {e : Node} {q : String} {cause : Fault} (stands : IsQualified u e)
      (names : M.Names u e q) (named : q ≠ "")
      (failed : (lookupSymbol M.units q).answer M.known = .error cause) : Faults (.expr u e) cause

variable {M}

/-! ## What follows from the rules -/

theorem Finds.unique {q : String} {owner owner' : SourceUnit} {ref ref' : SymbolRef}
    (first : M.Finds q owner ref) (second : M.Finds q owner' ref') :
    owner = owner' ∧ ref = ref' := by
  cases Except.ok.inj (first.symm.trans second)
  exact ⟨rfl, rfl⟩

theorem Finds.has {q : String} {owner : SourceUnit} {ref : SymbolRef}
    (finds : M.Finds q owner ref) : M.Has owner := by
  obtain ⟨r, -, split⟩ := (Query.answer_bind_eq_ok _).mp finds
  obtain ⟨_ | ⟨u, rest⟩, split, given⟩ := (Query.answer_bind_eq_ok _).mp split
  · cases given
  · obtain ⟨_, _, same⟩ := Option.map_eq_some_iff.mp (Except.ok.inj given)
    cases same
    exact Splits.has split

theorem Names.unique {u : SourceUnit} {e : Node} {q q' : String} (first : M.Names u e q)
    (second : M.Names u e q') : q = q' := by
  cases Except.ok.inj (first.symm.trans second)
  rfl

theorem not_refers_of_isOwn {s t : Term} (own : IsOwn s) : ¬ M.Refers s t := by
  intro refers
  cases own <;>
    cases refers with
    | qualified stands => cases stands

theorem not_faults_of_isOwn {s : Term} (own : IsOwn s) (cause : Fault) : ¬ M.Faults s cause := by
  intro faults
  cases own <;>
    cases faults with
    | unnamed stands | unfound stands => cases stands

theorem Refers.unique {s t t' : Term} (first : M.Refers s t) (second : M.Refers s t') : t = t' := by
  cases first with
  | assigned only form =>
    cases second with
    | assigned only' form' =>
      cases form_unique only form only' form'
      rfl
    | imported only' form' =>
      cases form_unique only form only' form'
  | imported only form finds =>
    cases second with
    | assigned only' form' =>
      cases form_unique only form only' form'
    | imported only' form' finds' =>
      cases form_unique only form only' form'
      obtain ⟨rfl, rfl⟩ := finds.unique finds'
      rfl
  | bound context place =>
    cases second with
    | bound _ place' =>
      cases place.symm.trans place'
      rfl
    | qualified stands =>
      cases stands with
      | free _ unbound => cases place.symm.trans unbound
  | qualified stands names finds =>
    cases second with
    | bound _ place =>
      cases stands with
      | free _ unbound => cases place.symm.trans unbound
    | qualified _ names' finds' =>
      cases names.unique names'
      obtain ⟨rfl, rfl⟩ := finds.unique finds'
      rfl

theorem Refers.not_faults {s t : Term} {cause : Fault} (refers : M.Refers s t) :
    ¬ M.Faults s cause := by
  intro faults
  cases refers with
  | assigned only form =>
    cases faults with
    | imported only' form' =>
      cases form_unique only form only' form'
  | imported only form finds =>
    cases faults with
    | imported only' form' failed =>
      cases form_unique only form only' form'
      cases finds.symm.trans failed
  | bound context place =>
    cases faults with
    | unnamed stands | unfound stands =>
      cases stands with
      | free _ unbound => cases place.symm.trans unbound
  | qualified stands names finds =>
    cases faults with
    | unnamed _ failed => cases names.symm.trans failed
    | unfound _ names' _ failed =>
      cases names.unique names'
      cases finds.symm.trans failed

theorem Needs.has {s t : Term} (needs : M.Needs s t) (has : M.Has s.unit) : M.Has t.unit := by
  cases needs with
  | left | right => exact has
  | refers refers =>
    cases refers with
    | assigned | bound => exact has
    | imported _ _ finds | qualified _ _ finds => exact finds.has

/-- What a term with a value refers to is all that it depends on. -/
theorem Refers.eq_of_needs {s t t' : Term} (refers : M.Refers s t) (needs : M.Needs s t') :
    t' = t := by
  cases needs with
  | left | right => exact absurd refers (not_refers_of_isOwn (.sum ..))
  | refers other => exact other.unique refers

/-- Nothing with a value depends on anything without end. -/
theorem Evaluates.acc {s : Term} {value : String} (evaluates : M.Evaluates s value) :
    Acc (fun t s => M.Needs s t) s := by
  induction evaluates with
  | text u info text =>
    refine ⟨_, fun t needs => ?_⟩
    cases needs with
    | refers refers => exact absurd refers (not_refers_of_isOwn (.literal ..))
  | sum info _ _ first second =>
    refine ⟨_, fun t needs => ?_⟩
    cases needs with
    | left => exact first
    | right => exact second
    | refers refers => exact absurd refers (not_refers_of_isOwn (.sum ..))
  | refers refers _ ih =>
    refine ⟨_, fun t needs => ?_⟩
    rw [refers.eq_of_needs needs]
    exact ih

theorem not_needs_self {s : Term} (ends : Acc (fun t s => M.Needs s t) s) :
    ¬ Relation.TransGen M.Needs s s := by
  have whole := ends.transGen
  clear ends
  induction whole with
  | intro s _ ih =>
    intro circle
    exact ih s (Relation.transGen_swap.mp circle) circle

/-- A term on a circle, or with one among its dependencies, has no value. -/
theorem Circular.not_evaluates {s : Term} (circular : M.Circular s) (value : String) :
    ¬ M.Evaluates s value := by
  obtain ⟨t, needs, circle⟩ := circular
  intro evaluates
  have ends := evaluates.acc
  clear evaluates
  induction needs using Relation.ReflTransGen.head_induction_on with
  | refl => exact not_needs_self ends circle
  | head first _ ih => exact ih (ends.inv first)

end Modules

end Catalog.Resolve
