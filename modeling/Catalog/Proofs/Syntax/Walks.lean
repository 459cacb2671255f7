import Catalog.Proofs.Syntax.Nodes
import Mathlib.Data.List.Forall2
import Mathlib.Data.List.Nodup

/-!
# The order of the walks

A walk works off a list from its front, and puts the parts of the node that it visited in front of
the rest. So it goes through one tree after the other, and through each tree in recursive preorder:
the node, and then what is below it, part by part.

What a walk visits are nodes where they stand, as equal nodes may stand at several places. A place
is the number of a tree and the numbers of the parts on the way down, and each part is something to
its node: a decorator, a default, the body. The walk over all parts goes through every place once.
The walk over what runs goes once through each place with no part on the way that waits for a call.
That is shown for all walks that go from each node on along branches, no two of which have a place
in common. From a function such a branch leads past the node of its parameters to a default.
-/

namespace Catalog.Syntax.Node

/-! ## Recursive preorder -/

theorem size_le_totalSize {n : Node} {ns : List Node} (member : n ∈ ns) :
    n.size ≤ totalSize ns := by
  obtain ⟨before, after, rfl⟩ := List.append_of_mem member
  rw [totalSize_append, totalSize_cons]
  omega

/-- The recursive preorder of a tree, for walks that go on with some of the parts of each node: the
node, and then what is below it, part by part. -/
def traverse (parts : Node → List Node) (smaller : ∀ n, totalSize (parts n) < n.size) (n : Node) :
    List Node :=
  n :: (parts n).attach.flatMap fun ⟨c, _⟩ => traverse parts smaller c
termination_by n.size
decreasing_by exact Nat.lt_of_le_of_lt (size_le_totalSize ‹_›) (smaller n)

section Traverse

variable {parts : Node → List Node} {smaller : ∀ n, totalSize (parts n) < n.size}

theorem traverse_eq (n : Node) :
    traverse parts smaller n = n :: (parts n).flatMap (traverse parts smaller) := by
  rw [traverse, List.flatMap_subtype (g := traverse parts smaller) fun _ _ => rfl,
    List.unattach_attach]

theorem traverse_congr {parts' : Node → List Node} (same : parts = parts')
    (smaller' : ∀ n, totalSize (parts' n) < n.size) :
    traverse parts smaller = traverse parts' smaller' := by
  subst same
  rfl

/-- A walk that works off a stack from its top, and puts the parts of a node on the stack when the
node was visited, goes through the trees of the stack in preorder. -/
theorem eq_flatMap_traverse {walk : List Node → List Node} (nil : walk [] = [])
    (cons : ∀ n rest, walk (n :: rest) = n :: walk (parts n ++ rest)) (stack : List Node) :
    walk stack = stack.flatMap (traverse parts smaller) := by
  match stack with
  | [] => exact nil
  | n :: rest =>
    rw [cons, eq_flatMap_traverse nil cons (parts n ++ rest), List.flatMap_append,
      List.flatMap_cons, traverse_eq, List.cons_append]
termination_by totalSize stack
decreasing_by
  have := smaller n
  rw [totalSize_append, totalSize_cons]
  omega

end Traverse

theorem totalSize_children (n : Node) : totalSize n.children < n.size := by
  rw [size_eq_totalSize]
  omega

theorem preorder_eq (nodes : List Node) :
    preorder nodes = nodes.flatMap (traverse children totalSize_children) :=
  eq_flatMap_traverse (by rw [preorder]) (fun n rest => by rw [preorder]) nodes

theorem executed_eq (nodes : List Node) :
    executed nodes = nodes.flatMap (traverse executedParts totalSize_executedParts) :=
  eq_flatMap_traverse (by rw [executed]) (fun n rest => by rw [executed]) nodes

/-! ## Places -/

/-- What a part is to the node that it is a part of. The arguments, the body, the decorators and the
return annotation are those of a function or a lambda; parameters and defaults are parts of the
arguments. -/
inductive Role where
  | arguments | body | decorator | returns | parameter | positionalDefault | keywordDefault | other
  deriving DecidableEq, Repr

/-- The parts of a node in their order, each with what it is. -/
def labelled : Node → List (Role × Node)
  | functionDef _ _ _ args body decorators returns =>
    (.arguments, args) :: body.map (.body, ·) ++ decorators.map (.decorator, ·) ++
      returns.toList.map (.returns, ·)
  | lambda _ args body => [(.arguments, args), (.body, body)]
  | arguments _ posonly args vararg kwonly kwDefaults kwarg defaults =>
    (posonly ++ args ++ vararg.toList ++ kwonly).map (.parameter, ·) ++
      kwDefaults.map (.keywordDefault, ·) ++ kwarg.toList.map (.parameter, ·) ++
      defaults.map (.positionalDefault, ·)
  | n => n.children.map (.other, ·)

theorem map_snd_labelled (n : Node) : n.labelled.map Prod.snd = n.children := by
  cases n <;> simp [labelled, children, Function.comp_def]

/-- Where a node stands: the number of the tree, and on the way down the numbers of the parts. -/
abbrev Place := List Nat

/-- The node to which a way leads, and what the parts on the way are. -/
def follow? : Node → Place → Option (List Role × Node)
  | n, [] => some ([], n)
  | n, i :: rest =>
    n.labelled[i]?.bind fun (role, c) => (follow? c rest).map fun (roles, k) => (role :: roles, k)

/-- The node at a place of some trees, and what the parts on the way to it are. -/
def locate? (nodes : List Node) : Place → Option (List Role × Node)
  | [] => none
  | i :: rest => nodes[i]?.bind (follow? · rest)

/-- The part is the default of a parameter. -/
def Role.isDefault : Role → Bool
  | .positionalDefault | .keywordDefault => true
  | _ => false

/-- A part, with those on the way down from it, waits until its function is called: the body and the
return annotation do, and the arguments unless the way goes on to a default. -/
def Role.waits : Role → List Role → Bool
  | .body, _ | .returns, _ => true
  | .arguments, [] => true
  | .arguments, next :: _ => !next.isDefault
  | _, _ => false

/-- No part on the way waits for a call. -/
def runs : List Role → Bool
  | [] => true
  | role :: rest => !role.waits rest && runs rest

variable {n k c : Node} {i : Nat} {way rest : Place} {roles : List Role} {role : Role}

@[simp] theorem follow?_nil : follow? n [] = some (roles, k) ↔ roles = [] ∧ k = n := by
  simp [follow?, eq_comm]

theorem follow?_cons :
    follow? n (i :: rest) = some (roles, k) ↔
      ∃ role c more, n.labelled[i]? = some (role, c) ∧ follow? c rest = some (more, k) ∧
        roles = role :: more := by
  simp only [follow?, Option.bind_eq_some_iff, Option.map_eq_some_iff, Prod.exists, Prod.mk.injEq]
  constructor
  · rintro ⟨role, c, part, more, k', below, rfl, rfl⟩
    exact ⟨role, c, more, part, below, rfl⟩
  · rintro ⟨role, c, more, part, below, rfl⟩
    exact ⟨role, c, part, more, k, below, rfl, rfl⟩

/-- A way down from a node, and the node to which it leads. -/
abbrev Branch := Place × Node

/-- No two of the branches have a place in common. -/
structure Apart (branches : List Branch) : Prop where
  distinct : (branches.map Prod.fst).Nodup
  parted : ∀ a ∈ branches, ∀ b ∈ branches, ∀ p q : Place, a.1 ++ p = b.1 ++ q → a.1 = b.1

/-- The places are those of the nodes that a walk keeps, each once, in the order in which the walk
visits the nodes. -/
structure Covers (find : Place → Option (List Role × Node)) (keeps : List Role → Bool)
    (visited : List Node) (places : List Place) : Prop where
  each : List.Forall₂ (fun place k => ∃ roles, find place = some (roles, k)) places visited
  once : places.Nodup
  precisely : ∀ place, place ∈ places ↔ ∃ roles k, find place = some (roles, k) ∧ keeps roles = true

/-- What is kept below is what is kept from the ends of the branches on. -/
structure Branches (find : Place → Option (List Role × Node)) (keeps : List Role → Bool)
    (branches : List Branch) : Prop where
  apart : Apart branches
  down : ∀ b ∈ branches, ∀ way roles k, follow? b.2 way = some (roles, k) →
    ∃ above, find (b.1 ++ way) = some (above ++ roles, k) ∧ keeps (above ++ roles) = keeps roles
  split : ∀ place roles k, place ≠ [] → find place = some (roles, k) → keeps roles = true →
    ∃ b ∈ branches, ∃ way below, place = b.1 ++ way ∧ follow? b.2 way = some (below, k) ∧
      keeps below = true
  ne_nil : ∀ b ∈ branches, b.1 ≠ []

/-- The places of branches, given those from the end of each branch on. -/
def spread (placesFrom : Node → List Place) (branches : List Branch) : List Place :=
  branches.flatMap fun b => (placesFrom b.2).map (b.1 ++ ·)

section Spread

variable {find : Place → Option (List Role × Node)} {keeps : List Role → Bool}
  {branches : List Branch} {visit : Node → List Node} {placesFrom : Node → List Place}

theorem nodup_spread (apart : Apart branches)
    (known : ∀ b ∈ branches, (placesFrom b.2).Nodup) : (spread placesFrom branches).Nodup := by
  rw [spread, List.nodup_flatMap]
  refine ⟨fun b member => (known b member).map (List.append_right_injective b.1), ?_⟩
  refine (List.Pairwise.and_mem.mp (List.pairwise_map.mp apart.distinct)).imp ?_
  rintro a b ⟨first, second, other⟩ place inA inB
  obtain ⟨p, -, rfl⟩ := List.mem_map.mp inA
  obtain ⟨q, -, same⟩ := List.mem_map.mp inB
  exact other (apart.parted a first b second p q same.symm)

theorem Branches.each (off : Branches find keeps branches)
    (known : ∀ b ∈ branches, Covers (follow? b.2) keeps (visit b.2) (placesFrom b.2)) :
    List.Forall₂ (fun place k => ∃ roles, find place = some (roles, k))
      (spread placesFrom branches) ((branches.map Prod.snd).flatMap visit) := by
  have down := off.down
  clear off
  induction branches with
  | nil => exact .nil
  | cons b rest ih =>
    obtain ⟨first, known⟩ := List.forall_mem_cons.mp known
    obtain ⟨here, down⟩ := List.forall_mem_cons.mp down
    rw [spread, List.flatMap_cons, List.map_cons, List.flatMap_cons]
    refine List.rel_append ?_ (ih known down)
    rw [List.forall₂_map_left_iff]
    refine first.each.imp fun way k led => ?_
    obtain ⟨roles, led⟩ := led
    obtain ⟨above, led, -⟩ := here way roles k led
    exact ⟨above ++ roles, led⟩

theorem Branches.mem_spread_iff (off : Branches find keeps branches)
    (known : ∀ b ∈ branches, Covers (follow? b.2) keeps (visit b.2) (placesFrom b.2))
    (place : Place) :
    place ∈ spread placesFrom branches ↔
      place ≠ [] ∧ ∃ roles k, find place = some (roles, k) ∧ keeps roles = true := by
  rw [spread, List.mem_flatMap]
  constructor
  · rintro ⟨b, member, inside⟩
    obtain ⟨way, among, rfl⟩ := List.mem_map.mp inside
    obtain ⟨roles, k, led, kept⟩ := ((known b member).precisely way).mp among
    obtain ⟨above, led, same⟩ := off.down b member way roles k led
    exact ⟨List.append_ne_nil_of_left_ne_nil (off.ne_nil b member) way, above ++ roles, k, led,
      same.trans kept⟩
  · rintro ⟨below, roles, k, led, kept⟩
    obtain ⟨b, member, way, more, rfl, led, kept⟩ := off.split place roles k below led kept
    have among := ((known b member).precisely way).mpr ⟨more, k, led, kept⟩
    exact ⟨b, member, List.mem_map_of_mem among⟩

end Spread

/-- A walk that goes from each node on to the ends of its branches. -/
structure Course (branches : Node → List Branch) (keeps : List Role → Bool) : Prop where
  smaller : ∀ n, totalSize ((branches n).map Prod.snd) < n.size
  start : keeps [] = true
  off : ∀ n, Branches (follow? n) keeps (branches n)

section Course

variable {branches : Node → List Branch} {keeps : List Role → Bool}

/-- The places of a walk from a node on. -/
def placesFrom (branches : Node → List Branch)
    (smaller : ∀ n, totalSize ((branches n).map Prod.snd) < n.size) (n : Node) : List Place :=
  [] :: (branches n).attach.flatMap fun ⟨b, _⟩ => (placesFrom branches smaller b.2).map (b.1 ++ ·)
termination_by n.size
decreasing_by
  exact Nat.lt_of_le_of_lt (size_le_totalSize (List.mem_map_of_mem (f := Prod.snd) ‹_›)) (smaller n)

theorem placesFrom_eq (smaller : ∀ n, totalSize ((branches n).map Prod.snd) < n.size) (n : Node) :
    placesFrom branches smaller n = [] :: spread (placesFrom branches smaller) (branches n) := by
  rw [placesFrom, spread, List.flatMap_subtype
    (g := fun b : Branch => (placesFrom branches smaller b.2).map (b.1 ++ ·)) fun _ _ => rfl,
    List.unattach_attach]

theorem Course.covers (course : Course branches keeps) (n : Node) :
    Covers (follow? n) keeps (traverse (fun n => (branches n).map Prod.snd) course.smaller n)
      (placesFrom branches course.smaller n) := by
  have known : ∀ b ∈ branches n, Covers (follow? b.2) keeps
      (traverse (fun n => (branches n).map Prod.snd) course.smaller b.2)
      (placesFrom branches course.smaller b.2) := fun b member =>
    have := Nat.lt_of_le_of_lt (size_le_totalSize (List.mem_map_of_mem (f := Prod.snd) member))
      (course.smaller n)
    course.covers b.2
  have off := course.off n
  have mem := off.mem_spread_iff known
  rw [traverse_eq, placesFrom_eq]
  refine ⟨.cons ⟨[], by simp⟩ (off.each known), ?_, fun place => ?_⟩
  · refine List.nodup_cons.mpr ⟨fun inside => ((mem []).mp inside).1 rfl, ?_⟩
    exact nodup_spread off.apart fun b member => (known b member).once
  · rw [List.mem_cons, mem]
    by_cases here : place = []
    · subst here
      simp [course.start]
    · simp [here]
termination_by n.size

/-- The trees of a list as branches: the way to a tree is its number. -/
def rooted (nodes : List Node) : List Branch :=
  nodes.zipIdx.map fun (n, i) => ([i], n)

theorem mem_rooted {nodes : List Node} {b : Branch} :
    b ∈ rooted nodes ↔ ∃ i, b.1 = [i] ∧ nodes[i]? = some b.2 := by
  obtain ⟨way, n⟩ := b
  simp only [rooted, List.mem_map, Prod.exists, List.mem_zipIdx_iff_getElem?, Prod.mk.injEq]
  constructor
  · rintro ⟨k, i, stands, rfl, rfl⟩
    exact ⟨i, rfl, stands⟩
  · rintro ⟨i, rfl, stands⟩
    exact ⟨n, i, stands, rfl, rfl⟩

theorem apart_of_single {branches : List Branch} (distinct : (branches.map Prod.fst).Nodup)
    (single : ∀ b ∈ branches, ∃ i, b.1 = [i]) : Apart branches := by
  refine ⟨distinct, fun a first b second p q same => ?_⟩
  obtain ⟨i, here⟩ := single a first
  obtain ⟨j, there⟩ := single b second
  rw [here, there] at same ⊢
  cases same
  rfl

theorem nodup_singletons {l : List Nat} (distinct : l.Nodup) : (l.map fun i => [i]).Nodup :=
  distinct.map fun _ _ same => List.singleton_injective same

theorem branches_rooted (nodes : List Node) : Branches (locate? nodes) keeps (rooted nodes) where
  apart := by
    refine apart_of_single ?_ fun b member => (mem_rooted.mp member).imp fun _ found => found.1
    have ways : (rooted nodes).map Prod.fst = (nodes.zipIdx.map Prod.snd).map fun i => [i] := by
      rw [rooted, List.map_map, List.map_map]
      rfl
    rw [ways, List.zipIdx_map_snd]
    exact nodup_singletons List.nodup_range'
  down := by
    intro b member way roles k led
    obtain ⟨i, here, stands⟩ := mem_rooted.mp member
    refine ⟨[], ?_, rfl⟩
    rw [here, List.singleton_append, locate?, stands]
    exact led
  split := by
    intro place roles k below led kept
    cases place with
    | nil => exact absurd rfl below
    | cons i way =>
      obtain ⟨n, stands, led⟩ := Option.bind_eq_some_iff.mp led
      exact ⟨([i], n), mem_rooted.mpr ⟨i, rfl, stands⟩, way, roles, rfl, led, kept⟩
  ne_nil := by
    intro b member
    obtain ⟨i, here, -⟩ := mem_rooted.mp member
    rw [here]
    exact List.cons_ne_nil i []

theorem Course.covers_list (course : Course branches keeps) (nodes : List Node) :
    Covers (locate? nodes) keeps
      (nodes.flatMap (traverse (fun n => (branches n).map Prod.snd) course.smaller))
      (spread (placesFrom branches course.smaller) (rooted nodes)) := by
  have known : ∀ b ∈ rooted nodes, Covers (follow? b.2) keeps
      (traverse (fun n => (branches n).map Prod.snd) course.smaller b.2)
      (placesFrom branches course.smaller b.2) := fun b _ => course.covers b.2
  have off : Branches (locate? nodes) keeps (rooted nodes) := branches_rooted nodes
  have trees : (rooted nodes).map Prod.snd = nodes := by
    simp [rooted, Function.comp_def]
  refine ⟨?_, nodup_spread off.apart fun b member => (known b member).once, fun place => ?_⟩
  · have each := off.each known
    rwa [trees] at each
  · rw [off.mem_spread_iff known, and_iff_right_iff_imp]
    rintro ⟨roles, k, led, -⟩ rfl
    cases led

end Course

/-! ## The parts of a node as branches -/

/-- The parts of a node that are of the wanted kinds. -/
def pick (wanted : Role → Bool) (n : Node) : List Branch :=
  n.labelled.zipIdx.filterMap fun ((role, c), i) => if wanted role then some ([i], c) else none

variable {wanted : Role → Bool}

theorem mem_pick {b : Branch} :
    b ∈ pick wanted n ↔ ∃ i role, b.1 = [i] ∧ n.labelled[i]? = some (role, b.2) ∧
      wanted role = true := by
  obtain ⟨way, c⟩ := b
  simp only [pick, List.mem_filterMap, Prod.exists, List.mem_zipIdx_iff_getElem?,
    Option.ite_none_right_eq_some, Option.some.injEq, Prod.mk.injEq]
  constructor
  · rintro ⟨role, k, i, stands, isWanted, rfl, rfl⟩
    exact ⟨i, role, rfl, stands, isWanted⟩
  · rintro ⟨i, role, rfl, stands, isWanted⟩
    exact ⟨role, c, i, stands, isWanted, rfl, rfl⟩

theorem nodup_pick (wanted : Role → Bool) (n : Node) : ((pick wanted n).map Prod.fst).Nodup := by
  have numbers : (n.labelled.zipIdx.map Prod.snd).Nodup := by
    rw [List.zipIdx_map_snd]
    exact List.nodup_range'
  refine List.pairwise_map.mpr ((List.pairwise_map.mp numbers).filterMap _ ?_)
  rintro ⟨⟨role, c⟩, i⟩ ⟨⟨role', c'⟩, j⟩ other b picked b' picked' same
  simp only [Option.ite_none_right_eq_some, Option.some.injEq] at picked picked'
  obtain ⟨-, rfl⟩ := picked
  obtain ⟨-, rfl⟩ := picked'
  exact other (List.singleton_injective same)

theorem map_snd_pick (wanted : Role → Bool) (n : Node) :
    (pick wanted n).map Prod.snd = (n.labelled.filter fun part => wanted part.1).map Prod.snd := by
  have picked (parts : List (Role × Node)) (start : Nat) :
      ((parts.zipIdx start).filterMap fun ((role, c), i) =>
        if wanted role then some (([i] : Place), c) else none).map Prod.snd =
        (parts.filter fun part => wanted part.1).map Prod.snd := by
    induction parts generalizing start with
    | nil => rfl
    | cons part rest ih =>
      rw [List.zipIdx_cons, List.filterMap_cons, List.filter_cons]
      by_cases isWanted : wanted part.1 = true
      · simp [isWanted, ih]
      · simp [isWanted, ih]
  exact picked n.labelled 0

/-! ## The two walks -/

/-- Every part of a node. -/
def wholeBranches : Node → List Branch := pick fun _ => true

theorem map_snd_wholeBranches (n : Node) : (wholeBranches n).map Prod.snd = n.children := by
  rw [wholeBranches, map_snd_pick, List.filter_true, map_snd_labelled]

theorem branches_whole (n : Node) :
    Branches (follow? n) (fun _ => true) (wholeBranches n) where
  apart := apart_of_single (nodup_pick _ n) fun b member => by
    obtain ⟨i, -, here, -⟩ := mem_pick.mp member
    exact ⟨i, here⟩
  down := by
    intro b member way roles k led
    obtain ⟨i, role, here, part, -⟩ := mem_pick.mp member
    rw [here]
    exact ⟨[role], follow?_cons.mpr ⟨role, b.2, roles, part, led, rfl⟩, rfl⟩
  split := by
    intro place roles k below led _
    cases place with
    | nil => exact absurd rfl below
    | cons i way =>
      obtain ⟨role, c, more, part, onward, rfl⟩ := follow?_cons.mp led
      exact ⟨([i], c), mem_pick.mpr ⟨i, role, rfl, part, rfl⟩, way, more, rfl, onward, rfl⟩
  ne_nil := by
    intro b member
    obtain ⟨i, -, here, -⟩ := mem_pick.mp member
    rw [here]
    exact List.cons_ne_nil i []

theorem course_whole : Course wholeBranches fun _ => true where
  smaller n := by
    rw [map_snd_wholeBranches]
    exact totalSize_children n
  start := rfl
  off := branches_whole

/-- A part that runs with its node, whatever is below it. -/
def Role.isFree : Role → Bool
  | .parameter | .positionalDefault | .keywordDefault | .other => true
  | _ => false

/-- The defaults of parameters, seen from the function. -/
def defaultBranches (n : Node) : List Branch :=
  (pick (· = .arguments) n).flatMap fun (way, args) =>
    (pick (· = .positionalDefault) args ++ pick (· = .keywordDefault) args).map
      fun (more, d) => (way ++ more, d)

/-- The parts that run with a node: the decorators of a function and the defaults of its parameters,
and every part of a node that is no function. -/
def runningBranches (n : Node) : List Branch :=
  pick (· = .decorator) n ++ pick Role.isFree n ++ defaultBranches n

theorem map_snd_defaults (args : Node) :
    (pick (· = .positionalDefault) args ++ pick (· = .keywordDefault) args).map Prod.snd =
      args.argumentDefaults := by
  rw [List.map_append, map_snd_pick, map_snd_pick]
  cases args <;>
    simp [labelled, argumentDefaults, List.filter_map, Function.comp_def]

theorem map_snd_defaultBranches (n : Node) :
    (defaultBranches n).map Prod.snd =
      ((n.labelled.filter fun part => part.1 = .arguments).map Prod.snd).flatMap
        argumentDefaults := by
  rw [← map_snd_pick (· = .arguments), defaultBranches, List.map_flatMap, List.flatMap_map]
  refine List.flatMap_congr fun b _ => ?_
  rw [List.map_map]
  exact map_snd_defaults b.2

theorem map_snd_runningBranches (n : Node) :
    (runningBranches n).map Prod.snd = n.executedParts := by
  rw [runningBranches, List.map_append, List.map_append, map_snd_pick, map_snd_pick,
    map_snd_defaultBranches]
  cases n <;>
    simp [labelled, executedParts, children, Role.isFree, List.filter_map, Function.comp_def]

/-- A way from a node to a part that runs with it. -/
inductive Running (n : Node) : Branch → Prop
  | direct {i : Nat} {role : Role} {c : Node} (part : n.labelled[i]? = some (role, c))
      (free : role = .decorator ∨ role.isFree = true) : Running n ([i], c)
  | default {i j : Nat} {role : Role} {args d : Node}
      (holder : n.labelled[i]? = some (.arguments, args))
      (part : args.labelled[j]? = some (role, d)) (isDefault : role.isDefault = true) :
      Running n ([i, j], d)

theorem mem_defaultBranches {b : Branch} :
    b ∈ defaultBranches n ↔ ∃ i args j role, b.1 = [i, j] ∧
      n.labelled[i]? = some (.arguments, args) ∧ args.labelled[j]? = some (role, b.2) ∧
      role.isDefault = true := by
  obtain ⟨way, d⟩ := b
  rw [defaultBranches, List.mem_flatMap]
  constructor
  · rintro ⟨⟨way, args⟩, holder, member⟩
    obtain ⟨⟨more, d⟩, part, same⟩ := List.mem_map.mp member
    cases same
    obtain ⟨i, role, rfl, holder, isArguments⟩ := mem_pick.mp holder
    obtain rfl : role = .arguments := by simpa using isArguments
    rcases List.mem_append.mp part with part | part
    all_goals
      obtain ⟨j, role, rfl, part, isDefault⟩ := mem_pick.mp part
      obtain rfl := of_decide_eq_true isDefault
      exact ⟨i, args, j, _, rfl, holder, part, rfl⟩
  · rintro ⟨i, args, j, role, rfl, holder, part, isDefault⟩
    refine ⟨([i], args), mem_pick.mpr ⟨i, .arguments, rfl, holder, rfl⟩, ?_⟩
    refine List.mem_map.mpr ⟨([j], d), List.mem_append.mpr ?_, rfl⟩
    cases role with
    | positionalDefault => exact .inl (mem_pick.mpr ⟨j, _, rfl, part, rfl⟩)
    | keywordDefault => exact .inr (mem_pick.mpr ⟨j, _, rfl, part, rfl⟩)
    | _ => cases isDefault

theorem mem_runningBranches {b : Branch} : b ∈ runningBranches n ↔ Running n b := by
  rw [runningBranches, List.mem_append, List.mem_append]
  constructor
  · rintro ((member | member) | member)
    · obtain ⟨way, c⟩ := b
      obtain ⟨i, role, rfl, part, isDecorator⟩ := mem_pick.mp member
      exact .direct part (.inl (of_decide_eq_true isDecorator))
    · obtain ⟨way, c⟩ := b
      obtain ⟨i, role, rfl, part, isFree⟩ := mem_pick.mp member
      exact .direct part (.inr isFree)
    · obtain ⟨way, d⟩ := b
      obtain ⟨i, args, j, role, rfl, holder, part, isDefault⟩ := mem_defaultBranches.mp member
      exact .default holder part isDefault
  · intro running
    cases running with
    | direct part free =>
      rcases free with rfl | isFree
      · exact .inl (.inl (mem_pick.mpr ⟨_, _, rfl, part, rfl⟩))
      · exact .inl (.inr (mem_pick.mpr ⟨_, _, rfl, part, isFree⟩))
    | default holder part isDefault =>
      exact .inr (mem_defaultBranches.mpr ⟨_, _, _, _, rfl, holder, part, isDefault⟩)

theorem nodup_pick_append {wanted other : Role → Bool}
    (exclusive : ∀ role, wanted role = true → other role = true → False) (n : Node) :
    ((pick wanted n ++ pick other n).map Prod.fst).Nodup := by
  rw [List.map_append, List.nodup_append]
  refine ⟨nodup_pick wanted n, nodup_pick other n, ?_⟩
  rintro way first _ second rfl
  obtain ⟨a, picked, rfl⟩ := List.mem_map.mp first
  obtain ⟨b, picked', same⟩ := List.mem_map.mp second
  obtain ⟨i, role, here, part, isWanted⟩ := mem_pick.mp picked
  obtain ⟨j, role', there, part', isOther⟩ := mem_pick.mp picked'
  rw [here, there] at same
  obtain rfl := List.singleton_injective same
  rw [part, Option.some.injEq] at part'
  obtain rfl := congrArg Prod.fst part'
  exact exclusive role isWanted isOther

theorem nodup_defaultBranches (n : Node) : ((defaultBranches n).map Prod.fst).Nodup := by
  have ways : (defaultBranches n).map Prod.fst =
      spread (fun args => (pick (· = .positionalDefault) args ++
        pick (· = .keywordDefault) args).map Prod.fst) (pick (· = .arguments) n) := by
    rw [defaultBranches, List.map_flatMap, spread]
    refine List.flatMap_congr fun b _ => ?_
    rw [List.map_map, List.map_map]
    rfl
  rw [ways]
  refine nodup_spread (apart_of_single (nodup_pick _ n) fun b member => ?_) fun b _ => ?_
  · obtain ⟨i, -, here, -⟩ := mem_pick.mp member
    exact ⟨i, here⟩
  · exact nodup_pick_append (by simp +contextual) b.2

theorem apart_running (n : Node) : Apart (runningBranches n) where
  distinct := by
    have exclusive : ∀ role : Role, decide (role = .decorator) = true → role.isFree = true →
        False := by
      intro role isDecorator isFree
      obtain rfl := of_decide_eq_true isDecorator
      cases isFree
    have direct := nodup_pick_append exclusive n
    rw [runningBranches, List.map_append, List.nodup_append]
    refine ⟨direct, nodup_defaultBranches n, ?_⟩
    rintro way first _ second rfl
    obtain ⟨a, member, rfl⟩ := List.mem_map.mp first
    obtain ⟨b, member', same⟩ := List.mem_map.mp second
    obtain ⟨i, args, j, -, there, -⟩ := mem_defaultBranches.mp member'
    have single : ∃ i, a.1 = [i] := by
      rcases List.mem_append.mp member with picked | picked
      all_goals
        obtain ⟨i, -, here, -⟩ := mem_pick.mp picked
        exact ⟨i, here⟩
    obtain ⟨i', here⟩ := single
    rw [here, there] at same
    cases same
  parted := by
    intro a first b second p q same
    cases mem_runningBranches.mp first with
    | direct part free =>
      cases mem_runningBranches.mp second with
      | direct part' free' =>
        cases same
        rfl
      | default holder part' isDefault =>
        cases same
        rw [part] at holder
        cases holder
        rcases free with free | free <;> cases free
    | default holder part isDefault =>
      cases mem_runningBranches.mp second with
      | direct part' free' =>
        cases same
        rw [holder] at part'
        cases part'
        rcases free' with free | free <;> cases free
      | default holder' part' isDefault' =>
        cases same
        rfl

theorem Role.waits_of_free (free : role = .decorator ∨ role.isFree = true) (roles : List Role) :
    role.waits roles = false := by
  rcases free with rfl | free
  · rfl
  · cases role with
    | parameter | positionalDefault | keywordDefault | other => rfl
    | _ => cases free

theorem runs_cons_of_free (free : role = .decorator ∨ role.isFree = true) (roles : List Role) :
    runs (role :: roles) = runs roles := by
  rw [runs, Role.waits_of_free free]
  rfl

theorem runs_default (isDefault : role.isDefault = true) (roles : List Role) :
    runs (.arguments :: role :: roles) = runs roles := by
  have free : role.isFree = true := by
    cases role with
    | positionalDefault | keywordDefault => rfl
    | _ => cases isDefault
  rw [runs, Role.waits, isDefault, runs_cons_of_free (.inr free)]
  rfl

theorem branches_running (n : Node) : Branches (follow? n) runs (runningBranches n) where
  apart := apart_running n
  down := by
    intro b member way roles k led
    cases mem_runningBranches.mp member with
    | @direct i role c part free =>
      exact ⟨[role], follow?_cons.mpr ⟨role, c, roles, part, led, rfl⟩,
        runs_cons_of_free free roles⟩
    | @default i j role args d holder part isDefault =>
      refine ⟨[.arguments, role], ?_, runs_default isDefault roles⟩
      exact follow?_cons.mpr ⟨.arguments, args, role :: roles, holder,
        follow?_cons.mpr ⟨role, d, roles, part, led, rfl⟩, rfl⟩
  split := by
    intro place roles k below led kept
    cases place with
    | nil => exact absurd rfl below
    | cons i way =>
      obtain ⟨role, c, more, part, onward, rfl⟩ := follow?_cons.mp led
      have direct (free : role = .decorator ∨ role.isFree = true) :
          ∃ b ∈ runningBranches n, ∃ rest below, i :: way = b.1 ++ rest ∧
            follow? b.2 rest = some (below, k) ∧ runs below = true :=
        ⟨([i], c), mem_runningBranches.mpr (.direct part free), way, more, rfl, onward,
          runs_cons_of_free free more ▸ kept⟩
      cases role with
      | decorator => exact direct (.inl rfl)
      | parameter | positionalDefault | keywordDefault | other => exact direct (.inr rfl)
      | body | returns => cases kept
      | arguments =>
        cases way with
        | nil =>
          obtain ⟨rfl, -⟩ := follow?_nil.mp onward
          cases kept
        | cons j way =>
          obtain ⟨next, d, more, part', onward', rfl⟩ := follow?_cons.mp onward
          cases isDefault : next.isDefault with
          | false =>
            rw [runs, Role.waits, isDefault] at kept
            cases kept
          | true =>
            exact ⟨([i, j], d), mem_runningBranches.mpr (.default part part' isDefault), way, more,
              rfl, onward', runs_default isDefault more ▸ kept⟩
  ne_nil := by
    intro b member
    cases mem_runningBranches.mp member with
    | direct part free => exact List.cons_ne_nil _ _
    | default holder part isDefault => exact List.cons_ne_nil _ _

theorem course_running : Course runningBranches runs where
  smaller n := by
    rw [map_snd_runningBranches]
    exact totalSize_executedParts n
  start := rfl
  off := branches_running

/-- Both walks are recursive preorders, over all parts and over those that run. Each goes through
places without repetition, one for each node that it visits: the walk over all parts through every
place, the other one through those at which nothing on the way waits for a call. -/
theorem walks_in_order (nodes : List Node) :
    preorder nodes = nodes.flatMap (traverse children totalSize_children) ∧
      executed nodes = nodes.flatMap (traverse executedParts totalSize_executedParts) ∧
      (∃ places, Covers (locate? nodes) (fun _ => true) (preorder nodes) places) ∧
      ∃ places, Covers (locate? nodes) runs (executed nodes) places := by
  have whole := course_whole.covers_list nodes
  have running := course_running.covers_list nodes
  rw [traverse_congr (funext map_snd_wholeBranches) totalSize_children, ← preorder_eq] at whole
  rw [traverse_congr (funext map_snd_runningBranches) totalSize_executedParts,
    ← executed_eq] at running
  exact ⟨preorder_eq nodes, executed_eq nodes, ⟨_, whole⟩, ⟨_, running⟩⟩

end Catalog.Syntax.Node
