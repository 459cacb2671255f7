import Catalog.Proofs.Scope.Laying
import Mathlib.Data.Multiset.Bind

/-!
# The scope in which each step is taken

Steps that open and close scopes keep a stack of the nodes whose scopes are open. `located` pairs
each step with the node on top of it. From a list of steps that lays out nodes we can then read off
where each of them is placed, which scopes open where, and which bindings are made, without looking
at the table of scopes.
-/

namespace Catalog

open Syntax

/-- The nodes whose scopes are open after a step, the innermost first. -/
def Step.around (stack : List Nat) : Step → List Nat
  | enter _ info _ _ => info.id :: stack
  | leave =>
    match stack with
    | _ :: n :: rest => n :: rest
    | stack => stack
  | _ => stack

/-- The steps, each with the node in whose scope it is taken. -/
def located (stack : List Nat) : List Step → List (Nat × Step)
  | [] => []
  | step :: rest => (stack.headD Module.id, step) :: located (step.around stack) rest

/-- The nodes whose scopes are open after the steps. -/
def aroundAll (stack : List Nat) (steps : List Step) : List Nat :=
  steps.foldl Step.around stack

theorem located_append (stack : List Nat) (l r : List Step) :
    located stack (l ++ r) = located stack l ++ located (aroundAll stack l) r := by
  induction l generalizing stack with
  | nil => rfl
  | cons step rest ih =>
    rw [List.cons_append, located, ih, located, List.cons_append]
    rfl

theorem aroundAll_append (stack : List Nat) (l r : List Step) :
    aroundAll stack (l ++ r) = aroundAll (aroundAll stack l) r :=
  List.foldl_append

/-! ## What happens where -/

/-- The node that is placed, with the node in whose scope that happens. -/
def placedAt : Nat × Step → List (Nat × Nat)
  | (home, .place node) => [(node, home)]
  | _ => []

/-- The scope that opens: its kind and its node, with the node in whose scope that happens. -/
def openedAt : Nat × Step → List (ScopeKind × Nat × Nat)
  | (home, .enter kind info _ _) => [(kind, info.id, home)]
  | _ => []

/-- The name that is bound, with the node in whose scope that happens. -/
def boundAt : Nat × Step → List (Nat × String × Binding)
  | (home, .bind _ name b) => [(home, name, b)]
  | _ => []

/-- A scope that a node opens, with the node in whose scope it stands. -/
def openings (p : Node × Nat) : Multiset (ScopeKind × Nat × Nat) :=
  p.1.scopeKind?.toList.map fun kind => (kind, p.1.id, p.2)

/-- All that happens at steps, taken in the given scopes. -/
def happens {α : Type} (f : Nat × Step → List α) (stack : List Nat) (l : List Step) :
    Multiset α :=
  ↑((located stack l).flatMap f)

section

variable {α : Type} (f : Nat × Step → List α) (stack : List Nat)

@[simp] theorem happens_nil : happens f stack [] = 0 := rfl

theorem happens_cons (step : Step) (rest : List Step) :
    happens f stack (step :: rest) =
      f (stack.headD Module.id, step) + happens f (step.around stack) rest := by
  rw [happens, located, List.flatMap_cons, ← Multiset.coe_add, happens]

theorem happens_append (l r : List Step) :
    happens f stack (l ++ r) = happens f stack l + happens f (aroundAll stack l) r := by
  rw [happens, located_append, List.flatMap_append, ← Multiset.coe_add, happens, happens]

end

/-! ## Steps that lay out nodes -/

namespace Captures

variable {n : Node} {names : List String} {l : List Step}

theorem aroundAll_eq (captures : Captures n names l) (stack : List Nat) :
    aroundAll stack l = stack := by
  induction captures with
  | nil => rfl
  | bind _ _ _ ih | star _ _ ih => exact ih

/-- Nothing but bindings happens where names are captured. -/
theorem happens_eq_zero {α : Type} {f : Nat × Step → List α}
    (binds : ∀ home fixed name b, f (home, .bind fixed name b) = [])
    (stars : ∀ home module, f (home, .star module) = []) (captures : Captures n names l)
    (stack : List Nat) : happens f stack l = 0 := by
  induction captures with
  | nil => rfl
  | bind name form _ ih =>
    rw [happens_cons, binds]
    exact (zero_add _).trans ih
  | star module _ ih =>
    rw [happens_cons, stars]
    exact (zero_add _).trans ih

end Captures

namespace Lays

variable {home : Nat} {ps : Multiset (Node × Nat)} {os : Multiset (Node × String)} {l : List Step}

/-- Steps that lay out nodes close the scopes that they open. -/
theorem aroundAll_eq (lays : Lays home ps os l) (rest : List Nat) :
    aroundAll (home :: rest) l = home :: rest := by
  induction lays generalizing rest with
  | nil | skip | bind => rfl
  | append _ _ first second => rw [aroundAll_append, first, second]
  | @declare home step declares =>
    cases step with
    | declareGlobal | declareNonlocal => rfl
    | _ => cases declares
  | @node home n ps qs os os' names before caught after closed _ captures _ first second =>
    rw [aroundAll_append, aroundAll_append]
    change aroundAll (aroundAll (aroundAll (home :: rest) before) caught) after = _
    rw [first, captures.aroundAll_eq, second]
  | @enter home n kind ps qs os os' names before caught inner opens name body _ captures _ first
      second =>
    have opened : aroundAll (home :: rest) (.place n.id :: before ++ caught) = home :: rest := by
      rw [aroundAll_append]
      change aroundAll (aroundAll (home :: rest) before) caught = _
      rw [first, captures.aroundAll_eq]
    rw [List.append_assoc, aroundAll_append, opened]
    change aroundAll (aroundAll (n.id :: home :: rest) (inner ++ [.leave])) [] = _
    rw [aroundAll_append, second]
    rfl

variable {α : Type} {f : Nat × Step → List α} {n : Node} {before caught after inner : List Step}
  {names : List String}

theorem happens_node (first : Lays home ps os before) (captures : Captures n names caught)
    (rest : List Nat) (after : List Step) :
    happens f (home :: rest) (.place n.id :: before ++ caught ++ after) =
      f (home, .place n.id) + happens f (home :: rest) before +
        happens f (home :: rest) caught + happens f (home :: rest) after := by
  rw [List.append_assoc, List.cons_append, happens_cons]
  change _ + happens f (home :: rest) (before ++ (caught ++ after)) = _
  rw [happens_append, first.aroundAll_eq, happens_append, captures.aroundAll_eq]
  simp only [← add_assoc]
  rfl

theorem happens_scope (kind : ScopeKind) (name : String) (body : List Node)
    (second : Lays n.id ps os inner) (rest : List Nat) :
    happens f (home :: rest) (.enter kind n.info name body :: inner ++ [.leave]) =
      f (home, .enter kind n.info name body) + happens f (n.id :: home :: rest) inner +
        f (n.id, .leave) := by
  rw [List.cons_append, happens_cons]
  change _ + happens f (n.id :: home :: rest) (inner ++ [.leave]) = _
  rw [happens_append, second.aroundAll_eq, happens_cons, happens_nil, add_zero, add_assoc]
  rfl

/-- Each node that is not passed over is placed in its scope. -/
theorem placed (lays : Lays home ps os l) (rest : List Nat) :
    ∀ p ∈ ps, p.1.isPassedOver = false →
      (p.1.id, p.2) ∈ happens placedAt (home :: rest) l := by
  induction lays generalizing rest with
  | nil | declare => simp
  | append first _ ih ih' =>
    intro p member own
    rw [happens_append, first.aroundAll_eq, Multiset.mem_add]
    exact (Multiset.mem_add.mp member).imp (fun known => ih rest p known own)
      fun known => ih' rest p known own
  | skip home passed =>
    intro p member own
    rw [Multiset.mem_singleton.mp member, passed] at own
    cases own
  | bind home fixed name _ _ =>
    intro p member _
    rw [Multiset.mem_singleton.mp member]
    simp [happens, located, placedAt]
  | @node home n ps qs os os' names before caught after closed first captures _ ih ih' =>
    intro p member own
    rw [first.happens_node captures]
    simp only [Multiset.mem_add, Multiset.mem_singleton] at member ⊢
    rcases member with (rfl | known) | known
    · exact .inl (.inl (.inl (by simp [placedAt])))
    · exact .inl (.inl (.inr (ih rest p known own)))
    · exact .inr (ih' rest p known own)
  | @enter home n kind ps qs os os' names before caught inner opens name body first captures second
      ih ih' =>
    intro p member own
    rw [List.append_assoc, first.happens_node captures, second.happens_scope]
    simp only [Multiset.mem_add, Multiset.mem_singleton] at member ⊢
    rcases member with (rfl | known) | known
    · exact .inl (.inl (.inl (by simp [placedAt])))
    · exact .inl (.inl (.inr (ih rest p known own)))
    · exact .inr (.inl (.inr (ih' (home :: rest) p known own)))

/-- The scopes that open are those of the nodes that open one, each where its node stands. -/
theorem opened (lays : Lays home ps os l) (rest : List Nat) :
    happens openedAt (home :: rest) l = ps.bind openings := by
  have closed_openings {n : Node} (closed : n.scopeKind? = none) (home : Nat) :
      openings (n, home) = 0 := by
    rw [openings, closed]
    rfl
  induction lays generalizing rest with
  | nil => rfl
  | append first _ ih ih' =>
    rw [happens_append, first.aroundAll_eq, ih, ih', Multiset.add_bind]
  | @skip home n passed =>
    rw [Multiset.singleton_bind, closed_openings]
    · rfl
    · cases n with
      | arguments | generator | importAlias | keyword => rfl
      | _ => cases passed
  | @declare home step declares =>
    cases step with
    | declareGlobal | declareNonlocal => rfl
    | _ => cases declares
  | bind home fixed name _ closed =>
    rw [Multiset.singleton_bind, closed_openings closed]
    rfl
  | node closed first captures _ ih ih' =>
    rw [first.happens_node captures, ih, ih', Multiset.add_bind, Multiset.add_bind,
      Multiset.singleton_bind, closed_openings closed,
      captures.happens_eq_zero (fun _ _ _ _ => rfl) (fun _ _ => rfl)]
    simp [openedAt]
  | @enter home n kind ps qs os os' names before caught inner opens name body first captures second
      ih ih' =>
    rw [List.append_assoc, first.happens_node captures, second.happens_scope, ih, ih',
      Multiset.add_bind, Multiset.add_bind, Multiset.singleton_bind,
      captures.happens_eq_zero (fun _ _ _ _ => rfl) (fun _ _ => rfl), openings, opens]
    simp only [openedAt, Option.toList_some, List.map_singleton, Multiset.coe_nil, zero_add,
      add_zero, Node.id]
    abel

/-- A binding that is made for a node, in the scope of the node with the number `home`. -/
structure Made where
  node : Node
  name : String
  home : Nat
  binding : Binding

/-- The bindings are those that the steps make, for these places in the trees, and each is made for
one of the nodes that are laid out. -/
structure Makes (made : Multiset Made) (stack : List Nat) (ps : Multiset (Node × Nat))
    (os : Multiset (Node × String)) (l : List Step) : Prop where
  places : made.map (fun x => (x.node, x.name)) = os
  steps : happens boundAt stack l = made.map fun x => (x.home, x.name, x.binding)
  each : ∀ x ∈ made, x.node.BoundBy x.binding ∧ (x.node, x.home) ∈ ps

/-- The bindings that a node makes itself. -/
theorem makes_captures (captures : Captures n names caught) (stack : List Nat) (home : Nat)
    (top : stack.headD Module.id = home) :
    ∃ made : Multiset Made, made.map (fun x => (x.node, x.name)) = (names.map (n, ·) : List _) ∧
      happens boundAt stack caught = made.map (fun x => (x.home, x.name, x.binding)) ∧
      ∀ x ∈ made, x.node.BoundBy x.binding ∧ x.node = n ∧ x.home = home := by
  induction captures with
  | nil => exact ⟨0, rfl, rfl, by simp⟩
  | bind name form _ ih =>
    obtain ⟨made, places, steps, each⟩ := ih
    refine ⟨{ node := n, name, home, binding := { form, owner := n } } ::ₘ made, ?_, ?_, ?_⟩
    · rw [Multiset.map_cons, places]
      rfl
    · rw [happens_cons, Multiset.map_cons, top]
      exact congrArg (_ ::ₘ ·) steps
    · intro x member
      rcases Multiset.mem_cons.mp member with rfl | member
      · exact ⟨.inl rfl, rfl, rfl⟩
      · exact each x member
  | star module _ ih =>
    obtain ⟨made, places, steps, each⟩ := ih
    exact ⟨made, places, (happens_cons ..).trans ((zero_add _).trans steps), each⟩

theorem bound_of_mem_parts {own made made' : Multiset Made} {ps qs : Multiset (Node × Nat)}
    {home : Nat} (eachOwn : ∀ x ∈ own, x.node.BoundBy x.binding ∧ x.node = n ∧ x.home = home)
    (each : ∀ x ∈ made, x.node.BoundBy x.binding ∧ (x.node, x.home) ∈ ps)
    (each' : ∀ x ∈ made', x.node.BoundBy x.binding ∧ (x.node, x.home) ∈ qs) :
    ∀ x ∈ own + made + made',
      x.node.BoundBy x.binding ∧ (x.node, x.home) ∈ {(n, home)} + ps + qs := by
  intro x member
  simp only [Multiset.mem_add] at member ⊢
  rcases member with (member | member) | member
  · obtain ⟨bound, rfl, rfl⟩ := eachOwn x member
    exact ⟨bound, .inl (.inl (Multiset.mem_singleton_self _))⟩
  · exact (each x member).imp_right fun known => .inl (.inr known)
  · exact (each' x member).imp_right .inr

/-- Each place where a name is bound has one binding of its own. -/
theorem exists_made (lays : Lays home ps os l) (rest : List Nat) :
    ∃ made, Makes made (home :: rest) ps os l := by
  induction lays generalizing rest with
  | nil | skip => exact ⟨0, rfl, rfl, by simp⟩
  | @declare home step declares =>
    refine ⟨0, rfl, ?_, by simp⟩
    cases step with
    | declareGlobal | declareNonlocal => rfl
    | _ => cases declares
  | bind home fixed name own closed =>
    refine ⟨{⟨_, name, home, _⟩}, rfl, rfl, ?_⟩
    intro x member
    rw [Multiset.mem_singleton.mp member]
    exact ⟨own, Multiset.mem_singleton_self _⟩
  | append first _ ih ih' =>
    obtain ⟨made, places, steps, each⟩ := ih rest
    obtain ⟨made', places', steps', each'⟩ := ih' rest
    refine ⟨made + made', ?_, ?_, fun x member => ?_⟩
    · rw [Multiset.map_add, places, places']
    · rw [happens_append, first.aroundAll_eq, steps, steps', Multiset.map_add]
    · rw [Multiset.mem_add]
      rcases Multiset.mem_add.mp member with member | member
      · exact (each x member).imp_right .inl
      · exact (each' x member).imp_right .inr
  | @node home n ps qs os os' names before caught after closed first captures _ ih ih' =>
    obtain ⟨made, places, steps, each⟩ := ih rest
    obtain ⟨made', places', steps', each'⟩ := ih' rest
    obtain ⟨own, ownPlaces, ownSteps, eachOwn⟩ := makes_captures captures (home :: rest) home rfl
    refine ⟨own + made + made', ?_, ?_, bound_of_mem_parts eachOwn each each'⟩
    · rw [Multiset.map_add, Multiset.map_add, places, places', ownPlaces]
    · rw [first.happens_node captures, steps, steps', ownSteps, Multiset.map_add, Multiset.map_add]
      simp only [boundAt, Multiset.coe_nil]
      abel
  | @enter home n kind ps qs os os' names before caught inner opens name body first captures second
      ih ih' =>
    obtain ⟨made, places, steps, each⟩ := ih rest
    obtain ⟨made', places', steps', each'⟩ := ih' (home :: rest)
    obtain ⟨own, ownPlaces, ownSteps, eachOwn⟩ := makes_captures captures (home :: rest) home rfl
    refine ⟨own + made + made', ?_, ?_, bound_of_mem_parts eachOwn each each'⟩
    · rw [Multiset.map_add, Multiset.map_add, places, places', ownPlaces]
    · rw [List.append_assoc, first.happens_node captures, second.happens_scope, steps, steps',
        ownSteps, Multiset.map_add, Multiset.map_add]
      simp only [boundAt, Multiset.coe_nil]
      abel

end Lays

end Catalog
