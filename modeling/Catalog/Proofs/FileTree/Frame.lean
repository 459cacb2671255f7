import Catalog.FileTree.Basic
import Mathlib.Data.List.Infix

/-!
# What a change of one entry changes

Entries are looked up by their location, so putting an entry somewhere or removing one is seen at
that location only. Where a path leads depends on more than one location, but only on directories
and links: a file can be put or removed anywhere off the path, and at its end, without leading the
path elsewhere.
-/

namespace Catalog.FileTree

theorem lookup_filter_ne (entries : List (List String × Entry)) (location other : List String) :
    (entries.filter fun item => item.1 != location).lookup other =
      if other = location then none else entries.lookup other := by
  induction entries with
  | nil => simp
  | cons item rest ih =>
    obtain ⟨key, entry⟩ := item
    have differs {a b : List String} (h : a ≠ b) : (a == b) = false := beq_eq_false_iff_ne.mpr h
    by_cases dropped : key = location
    · subst dropped
      rw [List.filter_cons_of_neg (by simp), ih]
      by_cases same : other = key
      · rw [if_pos same, if_pos same]
      · rw [if_neg same, if_neg same, List.lookup_cons, differs same]
    · rw [List.filter_cons_of_pos (by simpa using dropped), List.lookup_cons, List.lookup_cons, ih]
      by_cases same : other = key
      · subst same
        simp [dropped]
      · rw [differs same]

variable {tree : FileTree} {location other : List String} {entry : Entry}

@[simp] theorem find?_root (tree : FileTree) : tree.find? [] = some .dir := rfl

theorem ne_nil_of_find?_eq_none (h : tree.find? location = none) : location ≠ [] := by
  rintro rfl
  simp at h

theorem find?_erase (below : location ≠ []) (other : List String) :
    (tree.erase location).find? other = if other = location then none else tree.find? other := by
  cases other with
  | nil => rw [if_neg below.symm]; rfl
  | cons name rest => exact lookup_filter_ne tree.entries location (name :: rest)

theorem find?_insert (below : location ≠ []) (entry : Entry) (other : List String) :
    (tree.insert location entry).find? other =
      if other = location then some entry else tree.find? other := by
  cases other with
  | nil => rw [if_neg below.symm]; rfl
  | cons name rest =>
    by_cases same : name :: rest = location
    · subst same
      simp
    · rw [if_neg same]
      have step := lookup_filter_ne tree.entries location (name :: rest)
      rw [if_neg same] at step
      simp only [insert, find?, erase, List.lookup_cons, beq_eq_false_iff_ne.mpr same]
      exact step

theorem entry_of_followFrom {last : Bool} {links : Nat} {here todo : List String}
    {found : Option Entry}
    (leads : tree.followFrom last links here todo = .ok (location, found)) :
    found = tree.find? location := by
  fun_induction followFrom tree last links here todo with grind

/-- The path can be asked for. -/
structure Fits (path : Path) : Prop where
  valid : isInvalid path = false
  short : path.text.utf8ByteSize ≤ maxPathBytes

instance (path : Path) : Decidable (Fits path) :=
  decidable_of_iff (isInvalid path = false ∧ path.text.utf8ByteSize ≤ maxPathBytes)
    ⟨fun h => ⟨h.1, h.2⟩, fun h => ⟨h.valid, h.short⟩⟩

theorem Fits.follow {path : Path} (fits : Fits path) (tree : FileTree) (last : Bool) :
    tree.follow last path = tree.followFrom last maxLinks [] path.parts := by
  rw [FileTree.follow, if_neg (by simp [fits.valid]), if_neg (Nat.not_lt.mpr fits.short)]

theorem follow_eq_ok_iff {path : Path} {last : Bool} {found : List String × Option Entry} :
    tree.follow last path = .ok found ↔
      Fits path ∧ tree.followFrom last maxLinks [] path.parts = .ok found := by
  rw [follow]
  split
  · rename_i invalid
    exact iff_of_false nofun fun leads => by simp [leads.1.valid] at invalid
  · rename_i valid
    split
    · rename_i long
      exact iff_of_false nofun fun leads => Nat.not_lt.mpr leads.1.short long
    · rename_i short
      exact (and_iff_right ⟨by simpa using valid, Nat.not_lt.mp short⟩).symm

/-- A path that cannot be asked for leads nowhere in all trees alike. -/
theorem follow_of_not_fits {path : Path} (other : ¬Fits path) :
    ∃ e, ∀ (tree : FileTree) (last : Bool), tree.follow last path = .error e := by
  by_cases valid : isInvalid path = false
  · have long : maxPathBytes < path.text.utf8ByteSize := by
      by_contra short
      exact other ⟨valid, Nat.not_lt.mp short⟩
    exact ⟨.nameTooLong, fun tree last => by rw [follow, if_neg (by simp [valid]), if_pos long]⟩
  · exact ⟨.invalidName, fun tree last => by rw [follow, if_pos (by simpa using valid)]⟩

theorem fits_of_test {path : Path} {property : Entry → Bool}
    (holds : tree.test property path = .ok true) : Fits path := by
  by_contra other
  obtain ⟨e, leads⟩ := follow_of_not_fits other
  rw [test, stat, leads] at holds
  cases e <;> cases holds

/-- Every location from the root down to `here` is a directory: `here` was reached step by step. -/
def Walked (tree : FileTree) (here : List String) : Prop :=
  ∀ above, above <+: here → tree.find? above = some .dir

theorem walked_root (tree : FileTree) : tree.Walked [] := by
  intro above inside
  rw [List.prefix_nil.mp inside]
  rfl

theorem Walked.dropLast {here : List String} (h : tree.Walked here) : tree.Walked here.dropLast :=
  fun above inside => h above (inside.trans (List.dropLast_prefix here))

theorem Walked.concat {here : List String} {name : String} (h : tree.Walked here)
    (dir : tree.find? (here ++ [name]) = some .dir) : tree.Walked (here ++ [name]) := by
  intro above inside
  rcases List.prefix_concat_iff.mp inside with rfl | inside
  · exact dir
  · exact h above inside

/-- A path that is not followed at its last name leads to a directory or to an entry of that
name. Only `..` ends elsewhere, and what it leads to was walked through before. -/
theorem ends_in_name {links : Nat} {here todo : List String} {name : String}
    {found : Option Entry} (walked : tree.Walked here) (ends : todo.getLast? = some name)
    (leads : tree.followFrom false links here todo = .ok (location, found)) :
    found = some .dir ∨ ∃ dir, location = dir ++ [name] := by
  generalize unfollowed : false = last at leads
  have stop {here rest : List String} {step : String} {entry : Option Entry}
      (done : rest.isEmpty = true) (ends : (step :: rest).getLast? = some name)
      (leads : (.ok (here ++ [step], entry) : Except SystemError _) = .ok (location, found)) :
      ∃ dir, location = dir ++ [name] := by
    obtain rfl := List.isEmpty_iff.mp done
    obtain rfl : step = name := by simpa using ends
    cases leads
    exact ⟨here, rfl⟩
  have later {rest : List String} {step : String} (more : rest ≠ [])
      (ends : (step :: rest).getLast? = some name) : rest.getLast? = some name := by
    rwa [List.getLast?_cons_of_ne_nil more] at ends
  fun_induction followFrom tree last links here todo with
  | case1 => simp at ends
  | case2 links here step rest up ih =>
    by_cases done : rest = []
    · subst done
      simp only [followFrom, Except.ok.injEq, Prod.mk.injEq] at leads
      obtain ⟨rfl, rfl⟩ := leads
      exact .inl (walked.dropLast _ List.prefix_rfl)
    · exact ih walked.dropLast (later done ends) leads
  | case6 links here step rest up short dir ih =>
    by_cases done : rest = []
    · subst done
      simp only [followFrom, Except.ok.injEq, Prod.mk.injEq] at leads
      obtain ⟨rfl, rfl⟩ := leads
      exact .inl dir
    · exact ih (walked.concat dir) (later done ends) leads
  | case9 here step rest up short target link more links path ih =>
    have more : rest ≠ [] := by
      rintro rfl
      simp [← unfollowed] at more
    refine ih ?_ ?_ leads
    · split
      · exact walked_root tree
      · exact walked
    · rw [List.getLast?_append_of_ne_nil _ more]
      exact later more ends
  | case4 | case10 => exact .inr (stop ‹_› ends leads)
  | case7 links here step rest up short target link done =>
    exact .inr (stop (Bool.and_eq_true_iff.mp done).1 ends leads)
  | case3 | case5 | case8 | case11 => cases leads

/-- An entry through which a path can lead on. -/
def leadsOn : Option Entry → Bool
  | some .dir => true
  | some (.link _) => true
  | _ => false

theorem leadsOn_leaf {entry : Entry} (notDir : entry = .dir → False)
    (notLink : ∀ target, entry = .link target → False) : leadsOn (some entry) = false := by
  cases entry with
  | file | special => rfl
  | dir => exact absurd rfl notDir
  | link target => exact absurd rfl (notLink target)

/-- A path ends at a last name that leads no further. -/
theorem followFrom_last {last : Bool} {links : Nat} {here : List String} {name : String}
    (up : ¬(name == "..") = true) (short : ¬maxNameBytes < name.utf8ByteSize)
    (stops : leadsOn (tree.find? (here ++ [name])) = false) :
    tree.followFrom last links here [name] =
      .ok (here ++ [name], tree.find? (here ++ [name])) := by
  rw [followFrom, if_neg up, if_neg short]
  cases found : tree.find? (here ++ [name]) with
  | none => rfl
  | some entry => cases entry <;> simp_all [leadsOn]

/-- Where a path leads depends only on the directories and links of the tree, and on whether the
location at its end leads on. -/
theorem followFrom_of_agree {tree' : FileTree} {last : Bool} {links : Nat}
    {here todo : List String} {found : Option Entry}
    (agree : ∀ l, leadsOn (tree.find? l) → tree'.find? l = tree.find? l)
    (stops : leadsOn (tree.find? location) = false → leadsOn (tree'.find? location) = false)
    (leads : tree.followFrom last links here todo = .ok (location, found)) :
    tree'.followFrom last links here todo = .ok (location, tree'.find? location) := by
  have stop {links : Nat} {here rest : List String} {step : String} {entry : Option Entry}
      (up : ¬(step == "..") = true) (short : ¬maxNameBytes < step.utf8ByteSize)
      (done : rest.isEmpty = true) (ends : leadsOn (tree.find? (here ++ [step])) = false)
      (leads : (.ok (here ++ [step], entry) : Except SystemError _) = .ok (location, found)) :
      tree'.followFrom last links here (step :: rest) = .ok (location, tree'.find? location) := by
    obtain rfl := List.isEmpty_iff.mp done
    cases leads
    exact followFrom_last up short (stops ends)
  fun_induction followFrom tree last links here todo with
  | case1 =>
    cases leads
    rw [followFrom]
  | case2 links here step rest up ih =>
    rw [followFrom, if_pos up]
    exact ih leads
  | case6 links here step rest up short dir ih =>
    rw [followFrom, if_neg up, if_neg short, agree _ (by rw [dir]; rfl), dir]
    exact ih leads
  | case7 links here step rest up short target link done =>
    rw [followFrom, if_neg up, if_neg short, agree _ (by rw [link]; rfl), link]
    cases leads
    simp only [done, ↓reduceIte, agree _ (show leadsOn (tree.find? (here ++ [step])) by
      rw [link]; rfl), link]
  | case9 here step rest up short target link more links path ih =>
    rw [followFrom, if_neg up, if_neg short, agree _ (by rw [link]; rfl), link]
    simpa only [more, Bool.false_eq_true, ↓reduceIte, dite_eq_ite] using ih leads
  | case4 links here step rest up short none done =>
    exact stop up short done (by rw [none]; rfl) leads
  | case10 links here step rest up short entry notDir notLink leaf done =>
    exact stop up short done (by rw [leaf]; exact leadsOn_leaf notDir notLink) leads
  | case3 | case5 | case8 | case11 => cases leads

end Catalog.FileTree
