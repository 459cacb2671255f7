import Catalog.Proofs.Scope.Reading

/-!
# Properties that steps have by their parts

The steps of a node are put together from single steps and those of its parts, in order, but some
parts are passed over: of parameters only the hints and defaults are read, of keywords and clauses
only what they hold. A property that is kept when lists of steps are joined is had by all of these
lists, if the parts have it.
-/

namespace Catalog

open Syntax

/-- A property of lists of steps that lists put together from such lists have. -/
structure Step.Additive (P : List Step → Prop) : Prop where
  nil : P []
  append : ∀ {l r}, P l → P r → P (l ++ r)

namespace Step.Additive

variable {P Q : List Step → Prop}

theorem each (R : Step → Prop) : Additive fun l => ∀ step ∈ l, R step :=
  ⟨List.forall_mem_nil R, fun first second => List.forall_mem_append.mpr ⟨first, second⟩⟩

theorem and (first : Additive P) (second : Additive Q) : Additive fun l => P l ∧ Q l :=
  ⟨⟨first.nil, second.nil⟩, fun l r => ⟨first.append l.1 r.1, second.append l.2 r.2⟩⟩

variable (additive : Additive P) {package : String} {n : Node} {ns : List Node}
include additive

theorem stepsList {how : Option Binding} (each : ∀ n ∈ ns, P (n.steps package how)) :
    P (Node.stepsList package how ns) := by
  induction ns with
  | nil => exact additive.nil
  | cons n rest ih =>
    obtain ⟨first, each⟩ := List.forall_mem_cons.mp each
    exact additive.append first (ih each)

theorem stepsOption {o : Option Node} (each : ∀ n ∈ o.toList, P (n.steps package none)) :
    P (Node.stepsOption package o) := by
  cases o with
  | none => exact additive.nil
  | some n => exact each n (List.mem_singleton_self n)

theorem keywordSteps (each : ∀ n ∈ ns, ∀ c ∈ n.children, P (c.steps package none)) :
    P (Node.keywordSteps package ns) := by
  induction ns with
  | nil => exact additive.nil
  | cons n rest ih =>
    obtain ⟨first, each⟩ := List.forall_mem_cons.mp each
    refine additive.append ?_ (ih each)
    cases n with
    | keyword info label value => exact first value (by simp [Node.children])
    | _ => exact additive.nil

theorem defaultSteps (each : ∀ c ∈ n.children, P (c.steps package none)) :
    P (Node.defaultSteps package n) := by
  cases n with
  | arguments info posonly args vararg kwonly kwDefaults kwarg defaults =>
    exact additive.append
      (additive.stepsList fun c member => each c (by simp [Node.children, member]))
      (additive.stepsList fun c member => each c (by simp [Node.children, member]))
  | _ => exact additive.nil

theorem hintList (each : ∀ n ∈ ns, ∀ c ∈ n.children, P (c.steps package none)) :
    P (Node.hintList package ns) := by
  induction ns with
  | nil => exact additive.nil
  | cons n rest ih =>
    obtain ⟨first, each⟩ := List.forall_mem_cons.mp each
    refine additive.append ?_ (ih each)
    cases n with
    | arg info label hint => exact additive.stepsOption first
    | _ => exact additive.nil

theorem hintSteps (each : ∀ a ∈ n.children, ∀ c ∈ a.children, P (c.steps package none)) :
    P (Node.hintSteps package n) := by
  cases n with
  | arguments info posonly args vararg kwonly kwDefaults kwarg defaults =>
    rw [Node.hintSteps, Node.hintOption_eq, Node.hintOption_eq, ← Node.hintList_append,
      ← Node.hintList_append, ← Node.hintList_append, ← Node.hintList_append]
    refine additive.hintList fun a member => each a ?_
    simp only [Node.children, List.mem_append] at member ⊢
    grind
  | _ => exact additive.nil

theorem firstIterSteps (each : ∀ n ∈ ns, ∀ c ∈ n.children, P (c.steps package none)) :
    P (Node.firstIterSteps package ns) := by
  cases ns with
  | nil => exact additive.nil
  | cons n rest =>
    have parts := each n List.mem_cons_self
    cases n with
    | generator info target iter ifs => exact parts iter (by simp [Node.children])
    | _ => exact additive.nil

theorem clauseSteps (first : Bool)
    (each : ∀ n ∈ ns, ∀ c ∈ n.children, P (c.steps package none))
    (targets : ∀ info target iter ifs, .generator info target iter ifs ∈ ns →
      P (Node.clauseTargetSteps (.generator info target iter ifs) target)) :
    P (Node.clauseSteps package first ns) := by
  induction ns generalizing first with
  | nil => exact additive.nil
  | cons n rest ih =>
    obtain ⟨parts, each⟩ := List.forall_mem_cons.mp each
    refine additive.append ?_ (ih false each fun info target iter ifs member =>
      targets info target iter ifs (List.mem_cons_of_mem n member))
    cases n with
    | generator info target iter ifs =>
      refine additive.append (additive.append ?_ (targets info target iter ifs (by simp))) ?_
      · cases first with
        | true => exact additive.nil
        | false => exact parts iter (by simp [Node.children])
      · exact additive.stepsList fun c member => parts c (by simp [Node.children, member])
    | _ => exact additive.nil

end Step.Additive

end Catalog
