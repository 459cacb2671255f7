import Catalog.Proofs.Text.Dotted
import Catalog.Text.Normal

/-!
# Normal forms of names

The normal form of a name has no dot and no slash, and is not empty. The marks are only put in
order, and what characters are decomposed into or composed to is none of the first code points,
since the tables hold no punctuation.
-/

namespace Catalog.Text

/-! ## Tables -/

theorem Table.outside_of_mem_read {lines : List String} {item : Item} (member : item ∈ read lines) :
    0x80 ≤ item.first := by
  simpa using (List.mem_filter.mp member).2

theorem Table.of_mem_above {bound : Nat} {items : List Item} {item : Item}
    (member : item ∈ above bound items) :
    item.values ≠ [] ∧ ∀ value ∈ item.values, bound < value := by
  simpa using (List.mem_filter.mp member).2

section

variable {sep : Nat} (low : sep ≤ 0x2F)

/-! ## Decomposition -/

theorem Hangul.above_of_mem_decompose {n part : Nat} (member : part ∈ decompose n) :
    leadBase ≤ part := by
  rw [decompose, List.mem_append, List.mem_cons, List.mem_singleton] at member
  rcases member with (rfl | rfl) | member
  · exact Nat.le_add_right _ _
  · exact Nat.le_trans (by decide) (Nat.le_add_right vowelBase _)
  · split at member
    · cases member
    · rw [List.mem_singleton.mp member]
      exact Nat.le_trans (by decide) (Nat.le_add_right trailBase _)

theorem decompose_ne_nil (n : Nat) : decompose n ≠ [] := by
  rw [decompose]
  split
  · simp [Hangul.decompose]
  · split
    · rename_i item found
      have some := (Table.of_mem_above (List.mem_of_find?_eq_some found)).1
      split
      · exact List.cons_ne_nil _ _
      · exact some
    · exact List.cons_ne_nil _ _

include low in
theorem ne_of_mem_decompose {n part : Nat} (other : n ≠ sep) (member : part ∈ decompose n) :
    part ≠ sep := by
  rw [decompose] at member
  split at member
  · have above := Hangul.above_of_mem_decompose member
    exact Nat.ne_of_gt (Nat.lt_of_le_of_lt low (Nat.lt_of_lt_of_le (by decide) above))
  · split at member
    · rename_i item found
      have above := (Table.of_mem_above (List.mem_of_find?_eq_some found)).2
      split at member
      · rename_i value values
        have behind := above value (values ▸ List.mem_singleton_self value)
        rw [List.mem_singleton.mp member]
        exact Nat.ne_of_gt (Nat.lt_of_lt_of_le (Nat.lt_of_le_of_lt low behind)
          (Nat.le_add_right value _))
      · exact Nat.ne_of_gt (Nat.lt_of_le_of_lt low (above part member))
    · rw [List.mem_singleton.mp member]
      exact other

/-! ## Marks in order -/

theorem perm_insertMark (n : Nat) (cs : List Nat) : (insertMark n cs).Perm (n :: cs) := by
  induction cs with
  | nil => exact .refl _
  | cons m rest ih =>
    rw [insertMark]
    split
    · exact (ih.cons m).trans (.swap n m rest)
    · exact .refl _

theorem perm_orderMarks (cs : List Nat) : (orderMarks cs).Perm cs := by
  have all (found : List Nat) :
      (cs.foldl (fun found n => insertMark n found) found).Perm (found ++ cs) := by
    induction cs generalizing found with
    | nil => rw [List.append_nil]; rfl
    | cons n rest ih =>
      refine (ih _).trans (((perm_insertMark n found).append_right rest).trans ?_)
      exact List.perm_middle.symm
  exact (List.reverse_perm _).trans (all [])

/-! ## Composition -/

theorem Hangul.base_le_of_compose? {a b n : Nat} (composed : compose? a b = some n) :
    syllableBase ≤ n := by
  rw [compose?] at composed
  split at composed
  · exact Option.some.inj composed ▸ Nat.le_add_right syllableBase _
  · split at composed
    · rename_i inside
      simp only [isSyllable, Bool.and_eq_true, decide_eq_true_eq] at inside
      exact Option.some.inj composed ▸ Nat.le_trans inside.1.1.1.1 (Nat.le_add_right a _)
    · cases composed

include low in
theorem ne_of_compose? {a b n : Nat} (composed : compose? a b = some n) : n ≠ sep := by
  rw [compose?] at composed
  split at composed
  · rename_i syllable found
    cases composed
    have above := Hangul.base_le_of_compose? found
    exact Nat.ne_of_gt (Nat.lt_of_le_of_lt low (Nat.lt_of_lt_of_le (by decide) above))
  · obtain ⟨item, found, rfl⟩ := Option.map_eq_some_iff.mp composed
    have outside := Table.outside_of_mem_read (List.mem_of_find?_eq_some found)
    exact Nat.ne_of_gt (Nat.lt_of_le_of_lt low (Nat.lt_of_lt_of_le (by decide) outside))

theorem composeFrom_ne_nil (starter : Nat) (skipped cs : List Nat) :
    composeFrom starter skipped cs ≠ [] := by
  induction cs generalizing starter skipped with
  | nil => exact List.cons_ne_nil _ _
  | cons n rest ih =>
    rw [composeFrom]
    split
    · exact ih _ _
    · split
      · exact List.cons_ne_nil _ _
      · exact ih _ _

theorem composeAll_ne_nil {cs : List Nat} (some : cs ≠ []) : composeAll cs ≠ [] := by
  cases cs with
  | nil => exact absurd rfl some
  | cons n rest =>
    rw [composeAll]
    split
    · exact composeFrom_ne_nil n [] rest
    · exact List.cons_ne_nil _ _

include low in
theorem ne_of_mem_composeFrom {starter : Nat} {skipped cs : List Nat} (first : starter ≠ sep)
    (before : ∀ n ∈ skipped, n ≠ sep) (each : ∀ n ∈ cs, n ≠ sep) :
    ∀ n ∈ composeFrom starter skipped cs, n ≠ sep := by
  induction cs generalizing starter skipped with
  | nil =>
    rw [composeFrom]
    exact List.forall_mem_cons.mpr ⟨first, fun n member => before n (List.mem_reverse.mp member)⟩
  | cons n rest ih =>
    obtain ⟨next, each⟩ := List.forall_mem_cons.mp each
    rw [composeFrom]
    split
    · rename_i composed found
      split at found
      · exact ih (ne_of_compose? low found) before each
      · cases found
    · split
      · refine List.forall_mem_append.mpr ⟨List.forall_mem_cons.mpr ⟨first, fun m member =>
          before m (List.mem_reverse.mp member)⟩, ih next (by simp) each⟩
      · exact ih first (List.forall_mem_cons.mpr ⟨next, before⟩) each

include low in
theorem ne_of_mem_composeAll {cs : List Nat} (each : ∀ n ∈ cs, n ≠ sep) :
    ∀ n ∈ composeAll cs, n ≠ sep := by
  induction cs with
  | nil => simp [composeAll]
  | cons n rest ih =>
    obtain ⟨first, each⟩ := List.forall_mem_cons.mp each
    rw [composeAll]
    split
    · exact ne_of_mem_composeFrom low first (by simp) each
    · exact List.forall_mem_cons.mpr ⟨first, ih each⟩

end

/-! ## Names -/

theorem eq_toNat_of_ofNat {n : Nat} {c : Char} (some : c.toNat ≠ 0) (same : Char.ofNat n = c) :
    n = c.toNat := by
  subst same
  by_cases valid : n.isValidChar
  · rw [Char.ofNat, dif_pos valid]
    rfl
  · rw [Char.ofNat, dif_neg valid] at some
    exact absurd rfl some

theorem normalForm_ne_empty {s : String} (some : s ≠ "") : normalForm s ≠ "" := by
  rw [normalForm]
  split
  · exact some
  · intro none
    rw [String.ofList_eq_empty_iff, List.map_eq_nil_iff] at none
    refine composeAll_ne_nil (fun empty => ?_) none
    have unmarked := List.Perm.eq_nil (empty ▸ (perm_orderMarks _).symm)
    obtain ⟨c, rest, chars⟩ := List.exists_cons_of_ne_nil
      (fun none => some (String.toList_eq_nil_iff.mp none) : s.toList ≠ [])
    exact decompose_ne_nil _ (List.flatMap_eq_nil_iff.mp unmarked c (chars ▸ List.mem_cons_self))

/-- Putting a name in its normal form brings no punctuation into it. -/
theorem not_mem_normalForm {s : String} {c : Char} (low : c.toNat ≤ 0x2F) (some : c.toNat ≠ 0)
    (absent : c ∉ s.toList) : c ∉ (normalForm s).toList := by
  rw [normalForm]
  split
  · exact absent
  · rw [String.toList_ofList]
    intro member
    obtain ⟨n, inside, same⟩ := List.mem_map.mp member
    refine ne_of_mem_composeAll low (fun m here => ?_) n inside (eq_toNat_of_ofNat some same)
    obtain ⟨d, known, here⟩ := List.mem_flatMap.mp ((perm_orderMarks _).mem_iff.mp here)
    exact ne_of_mem_decompose low (fun same => absent (Char.toNat_inj.mp same ▸ known)) here

/-- The normal form of a component is one. -/
theorem isComponent_normalForm {s : String} (component : ModuleName.IsComponent s) :
    ModuleName.IsComponent (normalForm s) where
  some := normalForm_ne_empty component.some
  plain := not_mem_normalForm (by decide) (by decide) component.plain
  single := not_mem_normalForm (by decide) (by decide) component.single

end Catalog.Text
