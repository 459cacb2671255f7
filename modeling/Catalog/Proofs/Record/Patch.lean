import Catalog.Proofs.Record.RoundTrip
import Catalog.Proofs.Text.Sorted
import Catalog.Proofs.Yaml.Unambiguous
import Catalog.Record.Changes
import Mathlib.Data.List.Induction
import Mathlib.Data.List.Sort
import Mathlib.Logic.Function.Basic

/-!
# Reports of changes as patches

A report lists exactly the records whose id is in one snapshot only, and the pairs of records that
differ under the same id. These lists are sorted strictly by id, so the two snapshots determine the
report, and the report takes the one to the other.
-/

namespace Catalog

namespace Snapshot

/-- Records that differ are written differently. -/
theorem canonicalText_injective : Function.Injective canonicalText := by
  intro r s same
  have sorted_keys (r : Record) : (r.entries.mergeSort fun a b => decide (a.1 ≤ b.1)).map Prod.fst =
      (r.entries.map Prod.fst).mergeSort fun a b => decide (a ≤ b) :=
    List.map_mergeSort fun _ _ _ _ => rfl
  have texts := Yaml.Printer.mapping_injective ((sorted_keys r).trans (sorted_keys s).symm)
    (fun entry member => r.isWord_entries entry (List.mem_mergeSort.mp member)) same
  have kept := List.mergeSort_perm s.entries fun a b => decide (a.1 ≤ b.1)
  rw [← texts] at kept
  have known := ((List.mergeSort_perm r.entries _).symm.trans kept).subset
  cases r
  cases s
  simpa [Record.entries] using known

end Snapshot

namespace ChangeReport

/-! ## Snapshots by id -/

/-- The record under its id, in place of another one if there is any. -/
def insert (records : String → Option Record) (r : Record) : String → Option Record :=
  Function.update records r.id (some r)

def remove (records : String → Option Record) (r : Record) : String → Option Record :=
  Function.update records r.id none

def replace (records : String → Option Record) (u : Update) : String → Option Record :=
  Function.update records u.before.id (some u.after)

/-- The records after removing, replacing and adding what the report says. -/
def patch (r : ChangeReport) (records : String → Option Record) : String → Option Record :=
  r.added.foldl insert (r.updated.foldl replace (r.removed.foldl remove records))

/-- The report of the opposite change. -/
def swap (r : ChangeReport) : ChangeReport :=
  { added := r.removed
    removed := r.added
    updated := r.updated.map fun u => { before := u.after, after := u.before } }

variable {records : List Record} {id : String} {x : Record}

theorem id_of_find? (found : find? records id = some x) : x.id = id := by
  rw [find?] at found
  simpa using List.find?_some found

/-- Each record stands under its id. -/
def Keyed (records : String → Option Record) : Prop :=
  ∀ id x, records id = some x → x.id = id

theorem isSome_find?_iff : (find? records id).isSome = true ↔ id ∈ records.map Record.id := by
  simp [find?, List.find?_isSome]

theorem mem_ids : id ∈ ids records ↔ ∃ x, find? records id = some x := by
  rw [ids, List.mem_mergeSort, List.mem_eraseDups, ← isSome_find?_iff, Option.isSome_iff_exists]

theorem pairwise_ids (records : List Record) : (ids records).Pairwise (· < ·) :=
  Text.pairwise_mergeSort (Text.nodup_eraseDups _)

/-! ## What a report lists -/

/-- The report lists what differs between the two snapshots, by ids. -/
structure Describes (old new : String → Option Record) (r : ChangeReport) : Prop where
  added : ∀ x, x ∈ r.added ↔ old x.id = none ∧ new x.id = some x
  removed : ∀ x, x ∈ r.removed ↔ old x.id = some x ∧ new x.id = none
  updated : ∀ u, u ∈ r.updated ↔ old u.before.id = some u.before ∧
    new u.before.id = some u.after ∧ u.after.id = u.before.id ∧ u.before ≠ u.after
  added_sorted : (r.added.map Record.id).Pairwise (· < ·)
  removed_sorted : (r.removed.map Record.id).Pairwise (· < ·)
  updated_sorted : (r.updated.map fun u => u.before.id).Pairwise (· < ·)

/-- Of the records under sorted ids, those that are chosen are sorted. -/
theorem pairwise_filterMap {α : Type} {ids : List String} (sorted : ids.Pairwise (· < ·))
    {f : String → Option α} {key : α → String} (own : ∀ id a, f id = some a → key a = id) :
    ((ids.filterMap f).map key).Pairwise (· < ·) := by
  rw [List.pairwise_map, List.pairwise_filterMap]
  refine sorted.imp fun less a found b found' => ?_
  rwa [own _ a found, own _ b found']

/-- The records under the ids that the other snapshot does not have. -/
def missingIn (others records : List Record) (id : String) : Option Record :=
  if (find? others id).isNone then find? records id else none

theorem missingIn_eq_some_iff {others : List Record} :
    missingIn others records id = some x ↔
      find? others id = none ∧ find? records id = some x := by
  rw [missingIn, Option.ite_none_right_eq_some, Option.isNone_iff_eq_none]

theorem mem_missingIn {others : List Record} :
    x ∈ (ids records).filterMap (missingIn others records) ↔
      find? others x.id = none ∧ find? records x.id = some x := by
  rw [List.mem_filterMap]
  constructor
  · rintro ⟨id, -, chosen⟩
    have both := missingIn_eq_some_iff.mp chosen
    rwa [id_of_find? both.2]
  · intro both
    exact ⟨x.id, mem_ids.mpr ⟨x, both.2⟩, missingIn_eq_some_iff.mpr both⟩

theorem pairwise_missingIn (others records : List Record) :
    (((ids records).filterMap (missingIn others records)).map Record.id).Pairwise (· < ·) :=
  pairwise_filterMap (pairwise_ids records) fun _ _ chosen =>
    id_of_find? (missingIn_eq_some_iff.mp chosen).2

/-- The records of an id before and after, if they differ. -/
def changedIn (old new : List Record) (id : String) : Option Update :=
  (find? old id).bind fun before => (find? new id).bind fun after =>
    if before = after then none else some { before, after }

theorem changedIn_eq_some_iff {old new : List Record} {u : Update} :
    changedIn old new id = some u ↔
      find? old id = some u.before ∧ find? new id = some u.after ∧ u.before ≠ u.after := by
  simp only [changedIn, Option.bind_eq_some_iff, Option.ite_none_left_eq_some, Option.some.injEq]
  constructor
  · rintro ⟨before, known, after, known', different, rfl⟩
    exact ⟨known, known', different⟩
  · rintro ⟨known, known', different⟩
    exact ⟨_, known, _, known', different, rfl⟩

/-- Records are compared by their texts, which differ if the records do. -/
theorem compare_eq (old new : List Record) :
    compare old new =
      { added := (ids new).filterMap (missingIn old new)
        removed := (ids old).filterMap (missingIn new old)
        updated := (ids old).filterMap (changedIn old new) } := by
  rw [compare]
  congr
  funext id
  rw [changedIn]
  cases find? old id with
  | none => rfl
  | some before =>
    cases find? new id with
    | none => rfl
    | some after =>
      simp only [beq_iff_eq, Snapshot.canonicalText_injective.eq_iff, Option.bind_some]

theorem compare_describes (old new : List Record) :
    (compare old new).Describes (find? old) (find? new) := by
  rw [compare_eq]
  refine ⟨fun x => mem_missingIn, fun x => mem_missingIn.trans and_comm, fun u => ?_,
    pairwise_missingIn old new, pairwise_missingIn new old, ?_⟩
  · rw [List.mem_filterMap]
    constructor
    · rintro ⟨id, -, chosen⟩
      obtain ⟨known, known', different⟩ := changedIn_eq_some_iff.mp chosen
      rw [id_of_find? known, id_of_find? known']
      exact ⟨known, known', rfl, different⟩
    · rintro ⟨known, known', -, different⟩
      exact ⟨u.before.id, mem_ids.mpr ⟨_, known⟩,
        changedIn_eq_some_iff.mpr ⟨known, known', different⟩⟩
  · exact pairwise_filterMap (pairwise_ids old) fun id u chosen =>
      id_of_find? (changedIn_eq_some_iff.mp chosen).1

/-! ## Reports that describe a change -/

namespace Describes

variable {old new : String → Option Record} {r r' : ChangeReport}

/-- Strictly sorted lists with the same elements are equal. -/
theorem eq_of_mem_iff {α : Type} {key : α → String} {l l' : List α}
    (sorted : (l.map key).Pairwise (· < ·)) (sorted' : (l'.map key).Pairwise (· < ·))
    (same : ∀ a, a ∈ l ↔ a ∈ l') : l = l' := by
  have irrefl : Std.Irrefl fun a b => key a < key b := ⟨fun a => String.lt_irrefl (key a)⟩
  have antisymm : Std.Antisymm fun a b => key a < key b :=
    ⟨fun a b less more => absurd (String.lt_trans less more) (String.lt_irrefl (key a))⟩
  exact (List.pairwise_map.mp sorted).eq_of_mem_iff (List.pairwise_map.mp sorted') same

/-- The two snapshots determine the report. -/
theorem unique (describes : r.Describes old new) (describes' : r'.Describes old new) : r = r' := by
  cases r
  cases r'
  congr
  · exact eq_of_mem_iff describes.added_sorted describes'.added_sorted fun x =>
      (describes.added x).trans (describes'.added x).symm
  · exact eq_of_mem_iff describes.removed_sorted describes'.removed_sorted fun x =>
      (describes.removed x).trans (describes'.removed x).symm
  · exact eq_of_mem_iff describes.updated_sorted describes'.updated_sorted fun u =>
      (describes.updated u).trans (describes'.updated u).symm

/-- The opposite report describes the opposite change. -/
theorem swap (describes : r.Describes old new) : r.swap.Describes new old := by
  refine ⟨fun x => (describes.removed x).trans and_comm,
    fun x => (describes.added x).trans and_comm, fun u => ?_, describes.removed_sorted,
    describes.added_sorted, ?_⟩
  · have swapped : u ∈ r.swap.updated ↔ { before := u.after, after := u.before } ∈ r.updated := by
      constructor
      · intro member
        obtain ⟨v, known, rfl⟩ := List.mem_map.mp member
        exact known
      · exact fun known => List.mem_map.mpr ⟨_, known, rfl⟩
    rw [swapped, describes.updated]
    dsimp only
    constructor
    · rintro ⟨known, known', same, different⟩
      exact ⟨same ▸ known', same ▸ known, same.symm, different.symm⟩
    · rintro ⟨known, known', same, different⟩
      exact ⟨same ▸ known', same ▸ known, same.symm, different.symm⟩
  · have ids : r.swap.updated.map (fun u => u.before.id) = r.updated.map fun u => u.before.id := by
      rw [ChangeReport.swap, List.map_map]
      exact List.map_congr_left fun u member => ((describes.updated u).mp member).2.2.1
    rw [ids]
    exact describes.updated_sorted

/-- Changes under different keys, taken one after the other. -/
theorem foldl_update {α : Type} {key : α → String} {value : α → Option Record} {l : List α}
    (agree : ∀ a ∈ l, value a = new (key a)) (records : String → Option Record) (id : String) :
    l.foldl (fun m a => Function.update m (key a) (value a)) records id =
      if id ∈ l.map key then new id else records id := by
  induction l generalizing records with
  | nil => simp
  | cons a rest ih =>
    obtain ⟨first, agree⟩ := List.forall_mem_cons.mp agree
    rw [List.foldl_cons, ih agree, Function.update_apply]
    by_cases later : id ∈ rest.map key
    · simp [later]
    · by_cases here : id = key a
      · simp [here, first]
      · simp [later, here]

/-- What the report does not list is the same in both snapshots. -/
theorem eq_of_not_mem (describes : r.Describes old new) (keyed : Keyed old) (keyed' : Keyed new)
    {id : String} (added : id ∉ r.added.map Record.id) (removed : id ∉ r.removed.map Record.id)
    (updated : id ∉ r.updated.map fun u => u.before.id) : old id = new id := by
  cases known : old id with
  | none =>
    cases known' : new id with
    | none => rfl
    | some x =>
      obtain rfl := keyed' _ _ known'
      exact absurd (List.mem_map_of_mem ((describes.added x).mpr ⟨known, known'⟩)) added
  | some x =>
    obtain rfl := keyed _ _ known
    cases known' : new x.id with
    | none => exact absurd (List.mem_map_of_mem ((describes.removed x).mpr ⟨known, known'⟩)) removed
    | some y =>
      by_contra different
      have listed := (describes.updated { before := x, after := y }).mpr
        ⟨known, known', keyed' _ _ known', fun same => different (congrArg some same)⟩
      exact updated (List.mem_map.mpr ⟨_, listed, rfl⟩)

/-- The report takes the one snapshot to the other. -/
theorem patch_eq (describes : r.Describes old new) (keyed : Keyed old) (keyed' : Keyed new) :
    r.patch old = new := by
  have removes : ∀ x ∈ r.removed, none = new x.id := fun x member =>
    ((describes.removed x).mp member).2.symm
  have replaces : ∀ u ∈ r.updated, some u.after = new u.before.id := fun u member =>
    ((describes.updated u).mp member).2.1.symm
  have inserts : ∀ x ∈ r.added, some x = new x.id := fun x member =>
    ((describes.added x).mp member).2.symm
  funext id
  have applied : r.patch old id =
      if id ∈ r.added.map Record.id then new id
      else if id ∈ r.updated.map fun u => u.before.id then new id
      else if id ∈ r.removed.map Record.id then new id else old id := by
    rw [← foldl_update removes, ← foldl_update replaces, ← foldl_update inserts]
    rfl
  rw [applied]
  split
  · rfl
  · rename_i added
    split
    · rfl
    · rename_i updated
      split
      · rfl
      · rename_i removed
        exact describes.eq_of_not_mem keyed keyed' added removed updated

/-- Nothing is listed exactly if nothing differs. -/
theorem isEmpty_iff (describes : r.Describes old new) (keyed : Keyed old) (keyed' : Keyed new) :
    r.isEmpty = true ↔ old = new := by
  constructor
  · intro empty
    simp only [isEmpty, Bool.and_eq_true, List.isEmpty_iff] at empty
    rw [← describes.patch_eq keyed keyed', patch, empty.1.1, empty.1.2, empty.2]
    rfl
  · rintro rfl
    simp only [isEmpty, Bool.and_eq_true, List.isEmpty_iff, List.eq_nil_iff_forall_not_mem]
    refine ⟨⟨fun x member => ?_, fun x member => ?_⟩, fun u member => ?_⟩
    · obtain ⟨missing, known⟩ := (describes.added x).mp member
      cases missing.symm.trans known
    · obtain ⟨known, missing⟩ := (describes.removed x).mp member
      cases missing.symm.trans known
    · obtain ⟨known, known', -, different⟩ := (describes.updated u).mp member
      exact different (Option.some.inj (known.symm.trans known'))

end Describes

/-! ## Complete reports -/

/-- The report takes the old records to the new ones. It names each id that differs once, in sorted
lists, and the records of this id as they are in the two snapshots. -/
structure IsPatch (old new : String → Option Record) (r : ChangeReport) : Prop where
  gives : r.patch old = new
  updates : ∀ u ∈ r.updated, old u.before.id = some u.before ∧ new u.before.id = some u.after ∧
    u.after.id = u.before.id ∧ u.before ≠ u.after
  added_sorted : (r.added.map Record.id).Pairwise (· < ·)
  removed_sorted : (r.removed.map Record.id).Pairwise (· < ·)
  updated_sorted : (r.updated.map fun u => u.before.id).Pairwise (· < ·)
  added_removed : (r.added.map Record.id).Disjoint (r.removed.map Record.id)
  added_updated : (r.added.map Record.id).Disjoint (r.updated.map fun u => u.before.id)
  removed_updated : (r.removed.map Record.id).Disjoint (r.updated.map fun u => u.before.id)
  empty : r.isEmpty = true ↔ old = new

theorem Describes.isPatch {old new : String → Option Record} {r : ChangeReport}
    (describes : r.Describes old new) (keyed : Keyed old) (keyed' : Keyed new) :
    r.IsPatch old new := by
  have added {id : String} (member : id ∈ r.added.map Record.id) : old id = none := by
    obtain ⟨x, known, rfl⟩ := List.mem_map.mp member
    exact ((describes.added x).mp known).1
  have removed {id : String} (member : id ∈ r.removed.map Record.id) :
      (old id).isSome = true ∧ new id = none := by
    obtain ⟨x, known, rfl⟩ := List.mem_map.mp member
    obtain ⟨found, missing⟩ := (describes.removed x).mp known
    exact ⟨Option.isSome_of_eq_some found, missing⟩
  have updated {id : String} (member : id ∈ r.updated.map fun u => u.before.id) :
      (old id).isSome = true ∧ (new id).isSome = true := by
    obtain ⟨u, known, rfl⟩ := List.mem_map.mp member
    obtain ⟨found, found', -⟩ := (describes.updated u).mp known
    exact ⟨Option.isSome_of_eq_some found, Option.isSome_of_eq_some found'⟩
  refine ⟨describes.patch_eq keyed keyed', fun u member => (describes.updated u).mp member,
    describes.added_sorted, describes.removed_sorted, describes.updated_sorted, ?_, ?_, ?_,
    describes.isEmpty_iff keyed keyed'⟩
  · intro id inAdded inRemoved
    have found := (removed inRemoved).1
    rw [added inAdded] at found
    cases found
  · intro id inAdded inUpdated
    have found := (updated inUpdated).1
    rw [added inAdded] at found
    cases found
  · intro id inRemoved inUpdated
    have found := (updated inUpdated).2
    rw [(removed inRemoved).2] at found
    cases found

/-- For any two lists of records, the report is a patch from the records of the one by id to those
of the other, and the opposite comparison gives the opposite report. -/
theorem compare_isPatch (old new : List Record) :
    (compare old new).IsPatch (find? old) (find? new) ∧
      compare new old = (compare old new).swap := by
  have describes := compare_describes old new
  constructor
  · exact describes.isPatch (fun _ _ found => id_of_find? found) fun _ _ found => id_of_find? found
  · exact (compare_describes new old).unique describes.swap

end ChangeReport

end Catalog
