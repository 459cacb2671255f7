import Mathlib.Data.List.Nodup
import Mathlib.Data.List.Sort

/-!
# Lists in the order of texts

Sorting a list by texts that are all different puts the texts in strictly rising order, and there
is only one list in strictly rising order with given members. So two listings are the same as soon
as they list the same.
-/

namespace Catalog.Text

variable {α : Type}

theorem nodup_eraseDups [BEq α] [LawfulBEq α] (l : List α) : l.eraseDups.Nodup := by
  match l with
  | [] => exact List.nodup_nil
  | a :: rest =>
    rw [List.eraseDups_cons, List.nodup_cons]
    exact ⟨by simp, nodup_eraseDups _⟩
termination_by l.length
decreasing_by exact Nat.lt_succ_of_le (List.length_filter_le ..)

/-- Sorted by a text that no two members share. -/
theorem pairwise_mergeSort_key {key : α → String} {l : List α} (distinct : (l.map key).Nodup) :
    (l.mergeSort fun a b => decide (key a ≤ key b)).Pairwise fun a b => key a < key b := by
  have sorted : (l.mergeSort fun a b => decide (key a ≤ key b)).Pairwise
      fun a b => decide (key a ≤ key b) = true := by
    apply List.pairwise_mergeSort
    · intro a b c ab bc
      exact decide_eq_true (String.le_trans (of_decide_eq_true ab) (of_decide_eq_true bc))
    · intro a b
      simpa using String.le_total (key a) (key b)
  have distinct : (l.mergeSort fun a b => decide (key a ≤ key b)).Pairwise
      fun a b => key a ≠ key b :=
    List.pairwise_map.mp (((List.mergeSort_perm l _).map key).nodup_iff.mpr distinct)
  refine (sorted.and distinct).imp ?_
  rintro a b ⟨le, ne⟩
  exact String.not_le.mp fun ge => ne (String.le_antisymm (of_decide_eq_true le) ge)

theorem pairwise_mergeSort {l : List String} (distinct : l.Nodup) :
    (l.mergeSort fun a b => decide (a ≤ b)).Pairwise (· < ·) :=
  @pairwise_mergeSort_key _ id l (by rwa [List.map_id])

theorem eq_of_pairwise_lt {xs ys : List String} (xs_sorted : xs.Pairwise (· < ·))
    (ys_sorted : ys.Pairwise (· < ·)) (same : ∀ s, s ∈ xs ↔ s ∈ ys) : xs = ys := by
  have distinct {l : List String} (sorted : l.Pairwise (· < ·)) : l.Nodup :=
    sorted.imp String.ne_of_lt
  have perm : xs.Perm ys :=
    (List.perm_ext_iff_of_nodup (distinct xs_sorted) (distinct ys_sorted)).mpr same
  refine perm.eq_of_pairwise ?_ xs_sorted ys_sorted
  intro a b _ _ lt gt
  exact absurd (String.lt_trans lt gt) (String.lt_irrefl a)

end Catalog.Text
