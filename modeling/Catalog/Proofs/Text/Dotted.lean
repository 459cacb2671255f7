import Catalog.ModuleName

/-!
# Dotted names and their segments

A dotted name is the same thing as the list of its segments: cutting a name at its dots and joining
the segments are inverse to each other, as long as no segment has a dot of its own. So a longer
name that is put together from a name and further segments is cut where it was put together.
-/

namespace Catalog

namespace Text

variable {sep : Char}

theorem splitChars_cons_self (rest : List Char) :
    splitChars sep (sep :: rest) = [] :: splitChars sep rest := by
  rw [splitChars, if_pos rfl]

theorem splitChars_cons_of_ne {c : Char} (other : c ≠ sep) {rest piece : List Char}
    {more : List (List Char)} (pieces : splitChars sep rest = piece :: more) :
    splitChars sep (c :: rest) = (c :: piece) :: more := by
  rw [splitChars, if_neg other, pieces]

/-- There is a first piece. -/
theorem exists_splitChars (sep : Char) (cs : List Char) :
    ∃ piece more, splitChars sep cs = piece :: more :=
  List.exists_cons_of_ne_nil (splitChars_ne_nil sep cs)

theorem splitChars_append (a b : List Char) :
    splitChars sep (a ++ sep :: b) = splitChars sep a ++ splitChars sep b := by
  induction a with
  | nil => exact splitChars_cons_self b
  | cons c rest ih =>
    by_cases same : c = sep
    · subst same
      rw [List.cons_append, splitChars_cons_self, splitChars_cons_self, ih, List.cons_append]
    · obtain ⟨piece, more, pieces⟩ := exists_splitChars sep rest
      rw [pieces, List.cons_append] at ih
      rw [List.cons_append, splitChars_cons_of_ne same ih, splitChars_cons_of_ne same pieces,
        List.cons_append]

theorem splitChars_of_not_mem {cs : List Char} (absent : sep ∉ cs) : splitChars sep cs = [cs] := by
  induction cs with
  | nil => rfl
  | cons c rest ih =>
    rw [List.mem_cons, not_or] at absent
    exact splitChars_cons_of_ne (Ne.symm absent.1) (ih absent.2)

theorem not_mem_of_mem_splitChars {cs : List Char} :
    ∀ piece ∈ splitChars sep cs, sep ∉ piece := by
  induction cs with
  | nil => simp [splitChars]
  | cons c rest ih =>
    by_cases same : c = sep
    · subst same
      rw [splitChars_cons_self]
      exact List.forall_mem_cons.mpr ⟨List.not_mem_nil, ih⟩
    · obtain ⟨piece, more, pieces⟩ := exists_splitChars sep rest
      rw [pieces, List.forall_mem_cons] at ih
      rw [splitChars_cons_of_ne same pieces]
      refine List.forall_mem_cons.mpr ⟨?_, ih.2⟩
      rw [List.mem_cons, not_or]
      exact ⟨Ne.symm same, ih.1⟩

/-- Joining pieces and then going on with a character that belongs to the first of them. -/
theorem join_cons_char (sep : String) (c : Char) (piece : List Char) (more : List String) :
    join sep (String.ofList (c :: piece) :: more) =
      String.ofList [c] ++ join sep (String.ofList piece :: more) := by
  have front : String.ofList (c :: piece) = String.ofList [c] ++ String.ofList piece := by
    rw [← String.ofList_append, List.singleton_append]
  cases more with
  | nil => exact front
  | cons next rest => rw [join_cons_cons, join_cons_cons, front, String.append_assoc,
      String.append_assoc, String.append_assoc]

theorem join_splitChars (sep : Char) (cs : List Char) :
    join (String.ofList [sep]) ((splitChars sep cs).map String.ofList) = String.ofList cs := by
  induction cs with
  | nil => rfl
  | cons c rest ih =>
    obtain ⟨piece, more, pieces⟩ := exists_splitChars sep rest
    rw [pieces, List.map_cons] at ih
    by_cases same : c = sep
    · subst same
      rw [splitChars_cons_self, pieces, List.map_cons, List.map_cons, join_cons_cons, ih,
        ← String.ofList_append, ← String.ofList_append]
      rfl
    · rw [splitChars_cons_of_ne same pieces, List.map_cons, join_cons_char, ih,
        ← String.ofList_append, List.singleton_append]

theorem join_append_join {sep : String} {first rest : List String} (some : first ≠ [])
    (more : rest ≠ []) : join sep first ++ sep ++ join sep rest = join sep (first ++ rest) := by
  induction first with
  | nil => exact absurd rfl some
  | cons s first ih =>
    cases first with
    | nil =>
      obtain ⟨t, rest, rfl⟩ := List.exists_cons_of_ne_nil more
      rw [join_singleton, List.singleton_append, join_cons_cons]
    | cons t first =>
      rw [List.cons_append, List.cons_append, join_cons_cons, join_cons_cons,
        ← List.cons_append, ← ih (List.cons_ne_nil t first)]
      simp only [String.append_assoc]

end Text

namespace Dotted

/-- The text has no dot, as the names of a language have none. -/
def IsPlain (s : String) : Prop := '.' ∉ s.toList

instance (s : String) : Decidable (IsPlain s) := inferInstanceAs (Decidable ('.' ∉ s.toList))

theorem segments_of_isPlain {s : String} (plain : IsPlain s) : segments s = [s] := by
  rw [segments, Text.split, Text.splitChars_of_not_mem plain, List.map_singleton,
    String.ofList_toList]

theorem segments_ne_nil (s : String) : segments s ≠ [] := by
  simpa [segments, Text.split] using Text.splitChars_ne_nil '.' s.toList

theorem isPlain_of_mem_segments {s : String} : ∀ t ∈ segments s, IsPlain t := by
  intro t member
  obtain ⟨piece, inside, rfl⟩ := List.mem_map.mp member
  rw [IsPlain, String.toList_ofList]
  exact Text.not_mem_of_mem_splitChars piece inside

theorem segments_append_dot (s t : String) :
    segments (s ++ "." ++ t) = segments s ++ segments t := by
  have chars : (s ++ "." ++ t).toList = s.toList ++ '.' :: t.toList := by
    simp
  rw [segments, Text.split, chars, Text.splitChars_append, List.map_append]
  rfl

theorem segments_ofSegments (s : String) {rest : List String} (plain : ∀ t ∈ rest, IsPlain t) :
    segments (ofSegments (s :: rest)) = segments s ++ rest := by
  induction rest generalizing s with
  | nil => rw [ofSegments, Text.join_singleton, List.append_nil]
  | cons t rest ih =>
    obtain ⟨first, plain⟩ := List.forall_mem_cons.mp plain
    have joined : ofSegments (s :: t :: rest) = s ++ "." ++ ofSegments (t :: rest) :=
      Text.join_cons_cons "." s t rest
    rw [joined, segments_append_dot, ih t plain, segments_of_isPlain first,
      List.singleton_append]

theorem ofSegments_segments (s : String) : ofSegments (segments s) = s :=
  (Text.join_splitChars '.' s.toList).trans String.ofList_toList

/-- The text is one segment of a dotted name. -/
structure IsSegment (s : String) : Prop where
  named : s ≠ ""
  plain : IsPlain s

instance (s : String) : Decidable (IsSegment s) :=
  decidable_of_iff (s ≠ "" ∧ IsPlain s) ⟨fun h => ⟨h.1, h.2⟩, fun h => ⟨h.named, h.plain⟩⟩

/-- The segments before a cut and those behind it, joined by a dot. -/
theorem ofSegments_append {first rest : List String} (some : first ≠ []) (more : rest ≠ []) :
    ofSegments (first ++ rest) = ofSegments first ++ "." ++ ofSegments rest :=
  (Text.join_append_join some more).symm

/-! ## Beginnings and ends -/

/-- The name `p` is `q` itself, or `q` goes on behind it with a dot. -/
def Begins (p q : String) : Prop := q = p ∨ ∃ tail, q = p ++ "." ++ tail

/-- The beginnings of a name are those of the list of its segments, the empty one apart. -/
theorem begins_iff_prefix {p q : String} : Begins p q ↔ segments p <+: segments q := by
  constructor
  · rintro (rfl | ⟨tail, rfl⟩)
    · exact List.prefix_rfl
    · rw [segments_append_dot]
      exact List.prefix_append (segments p) (segments tail)
  · rintro ⟨rest, whole⟩
    rw [Begins, ← ofSegments_segments q, ← whole]
    by_cases none : rest = []
    · apply Or.inl
      rw [none, List.append_nil, ofSegments_segments]
    · apply Or.inr
      refine ⟨ofSegments rest, ?_⟩
      rw [ofSegments_append (segments_ne_nil p) none, ofSegments_segments]

/-- A text ends in a name behind a dot if its segments end in those of the name and there are
others before them. -/
theorem endsWith_dot_iff {value suffix : String} :
    Text.endsWith value ("." ++ suffix) = true ↔
      ∃ front, front ≠ [] ∧ segments value = front ++ segments suffix := by
  rw [Text.endsWith, List.isSuffixOf_iff_suffix]
  constructor
  · rintro ⟨front, chars⟩
    have whole : value = String.ofList front ++ "." ++ suffix := by
      apply String.toList_injective
      rw [← chars, String.append_assoc, String.toList_append (s := String.ofList front),
        String.toList_ofList]
    refine ⟨segments (String.ofList front), segments_ne_nil _, ?_⟩
    rw [whole, segments_append_dot]
  · rintro ⟨front, some, parts⟩
    have whole : value = ofSegments front ++ "." ++ suffix := by
      rw [← ofSegments_segments value, parts, ofSegments_append some (segments_ne_nil suffix),
        ofSegments_segments]
    rw [whole, String.append_assoc, String.toList_append (s := ofSegments front)]
    exact List.suffix_append _ _

/-- A name that is not empty is an end of another one if its segments are an end of the other's. -/
theorem endsIn_iff_suffix {value suffix : String} (some : value ≠ "") (named : suffix ≠ "") :
    endsIn value suffix = true ↔ segments suffix <:+ segments value := by
  have nonempty : (!value.isEmpty && !suffix.isEmpty) = true := by simp [some, named]
  rw [endsIn, nonempty, Bool.true_and, Bool.or_eq_true, beq_iff_eq, endsWith_dot_iff]
  constructor
  · rintro (rfl | ⟨front, -, parts⟩)
    · exact List.suffix_rfl
    · exact ⟨front, parts.symm⟩
  · rintro ⟨front, parts⟩
    by_cases none : front = []
    · apply Or.inl
      rw [← ofSegments_segments value, ← parts, none, List.nil_append, ofSegments_segments]
    · exact Or.inr ⟨front, none, parts.symm⟩

end Dotted

namespace ModuleName

/-- The text is a single segment of a dotted name and a single name of a path, as the identifiers
of the language are. -/
structure IsComponent (s : String) : Prop where
  some : s ≠ ""
  plain : Dotted.IsPlain s
  single : '/' ∉ s.toList

instance (s : String) : Decidable (IsComponent s) :=
  decidable_of_iff (s ≠ "" ∧ Dotted.IsPlain s ∧ '/' ∉ s.toList)
    ⟨fun h => ⟨h.1, h.2.1, h.2.2⟩, fun h => ⟨h.some, h.plain, h.single⟩⟩

theorem IsComponent.isSegment {s : String} (component : IsComponent s) : Dotted.IsSegment s :=
  ⟨component.some, component.plain⟩

/-- The dotted name is one that can be imported: its segments are components. -/
def IsImportable (s : String) : Prop := ∀ t ∈ Dotted.segments s, IsComponent t

theorem IsComponent.isImportable {s : String} (component : IsComponent s) : IsImportable s := by
  rw [IsImportable, Dotted.segments_of_isPlain component.plain]
  exact List.forall_mem_singleton.mpr component

theorem IsImportable.append_dot {s t : String} (first : IsImportable s)
    (second : IsImportable t) : IsImportable (s ++ "." ++ t) := by
  rw [IsImportable, Dotted.segments_append_dot]
  exact List.forall_mem_append.mpr ⟨first, second⟩

theorem IsImportable.head {s : String} (importable : IsImportable s) :
    IsComponent (Dotted.head s) := by
  refine importable _ ?_
  rw [Dotted.head, List.headD_eq_head?_getD, List.head?_eq_some_head (Dotted.segments_ne_nil s)]
  exact List.head_mem _

end ModuleName

end Catalog
