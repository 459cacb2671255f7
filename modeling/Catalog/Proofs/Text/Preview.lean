import Catalog.Text.Preview

/-!
# What a preview shows

A preview is made of bytes. The UTF-8 form of the text is cut at the limit, wherever that falls, and
the characters are read from what is left.

The characters in front of the cut have all of their bytes, and are read as they were. A character
that was cut through has only some of its bytes: its first byte announces more of them than there
are, and at none of the others does a character begin. So it disappears as a whole, and nothing
before it does. What is shown is the longest beginning of the text that fits.
-/

namespace Catalog.Text

open ByteArray

variable {bytes : ByteArray} {i room : Nat} {c : Char}

/-! ## Reading characters -/

theorem charsFrom_of_some (begins : bytes.utf8DecodeChar? i = some c) :
    charsFrom bytes i = c :: charsFrom bytes (i + c.utf8Size) := by
  have inside : i < bytes.size := lt_size_of_isSome_utf8DecodeChar? (by rw [begins]; rfl)
  rw [charsFrom, if_pos inside, begins]

theorem charsFrom_of_none (begins : bytes.utf8DecodeChar? i = none) (inside : i < bytes.size) :
    charsFrom bytes i = charsFrom bytes (i + 1) := by
  rw [charsFrom, if_pos inside, begins]

theorem charsFrom_of_size_le (outside : bytes.size ≤ i) : charsFrom bytes i = [] := by
  rw [charsFrom, if_neg (Nat.not_lt.mpr outside)]

theorem utf8DecodeChar?_append_add (front bytes : ByteArray) (i : Nat) :
    (front ++ bytes).utf8DecodeChar? (front.size + i) = bytes.utf8DecodeChar? i := by
  rw [utf8DecodeChar?_eq_utf8DecodeChar?_extract,
    utf8DecodeChar?_eq_utf8DecodeChar?_extract (b := bytes), size_append, extract_append_size_add]

/-- What is read from a place on does not depend on the bytes in front of it. -/
theorem charsFrom_append_add (front bytes : ByteArray) (i : Nat) :
    charsFrom (front ++ bytes) (front.size + i) = charsFrom bytes i := by
  fun_induction charsFrom bytes i with
  | case1 i inside c begins ih =>
    rw [charsFrom_of_some ((utf8DecodeChar?_append_add front bytes i).trans begins),
      Nat.add_assoc, ih]
  | case2 i inside begins ih =>
    have inside : front.size + i < (front ++ bytes).size := by
      rw [size_append]
      omega
    rw [charsFrom_of_none ((utf8DecodeChar?_append_add front bytes i).trans begins) inside,
      Nat.add_assoc, ih]
  | case3 i outside =>
    apply charsFrom_of_size_le
    rw [size_append]
    omega

theorem size_encode (c : Char) : [c].utf8Encode.size = c.utf8Size := by
  rw [List.utf8Encode_singleton, List.size_toByteArray, String.length_utf8EncodeChar]

/-- A character whose bytes are all there is read. -/
theorem charsFrom_encode (c : Char) (bytes : ByteArray) :
    charsFrom ([c].utf8Encode ++ bytes) 0 = c :: charsFrom bytes 0 := by
  have begins : ([c].utf8Encode ++ bytes).utf8DecodeChar? 0 = some c :=
    List.utf8DecodeChar?_utf8Encode_singleton_append
  rw [charsFrom_of_some begins, Nat.zero_add, ← size_encode c]
  exact congrArg (c :: ·) (charsFrom_append_add [c].utf8Encode bytes 0)

/-! ## A character that was cut through -/

/-- No character begins at the first byte, since the one that did has more bytes. -/
theorem utf8DecodeChar?_cut_zero (cut : room < c.utf8Size) :
    ([c].utf8Encode.extract 0 room).utf8DecodeChar? 0 = none := by
  cases begins : ([c].utf8Encode.extract 0 room).utf8DecodeChar? 0 with
  | none => rfl
  | some d =>
    -- the same bytes with the missing ones after them show that it can only be `c`
    have whole : [c].utf8Encode.extract 0 room ++ [c].utf8Encode.extract room c.utf8Size =
        [c].utf8Encode := by
      rw [← extract_eq_extract_append_extract room (Nat.zero_le room) (Nat.le_of_lt cut),
        ← size_encode c, extract_zero_size]
    have same : some d = some c := by
      rw [← utf8DecodeChar?_append_eq_some begins ([c].utf8Encode.extract room c.utf8Size), whole]
      exact List.utf8DecodeChar?_utf8Encode_singleton
    cases same
    have fits := le_size_of_utf8DecodeChar?_eq_some begins
    rw [size_extract] at fits
    omega

/-- No character begins at a later byte. -/
theorem utf8DecodeChar?_cut_succ (c : Char) (room i : Nat) :
    ([c].utf8Encode.extract 0 room).utf8DecodeChar? (i + 1) = none := by
  cases begins : ([c].utf8Encode.extract 0 room).utf8DecodeChar? (i + 1) with
  | none => rfl
  | some d =>
    have first := isUTF8FirstByte_of_isSome_utf8DecodeChar? (by rw [begins]; rfl)
    rw [getElem_extract, List.isUTF8FirstByte_getElem_utf8Encode_singleton] at first
    omega

theorem charsFrom_cut (cut : room < c.utf8Size) (i : Nat) :
    charsFrom ([c].utf8Encode.extract 0 room) i = [] := by
  have foreign : ∀ i, ([c].utf8Encode.extract 0 room).utf8DecodeChar? i = none
    | 0 => utf8DecodeChar?_cut_zero cut
    | i + 1 => utf8DecodeChar?_cut_succ c room i
  fun_induction charsFrom ([c].utf8Encode.extract 0 room) i with
  | case1 i inside d begins ih => cases (foreign i).symm.trans begins
  | case2 i inside begins ih => exact ih
  | case3 i outside => rfl

/-! ## The longest beginning that fits -/

/-- The longest run of leading characters whose UTF-8 form has at most `room` bytes. -/
def takeBytes (room : Nat) : List Char → List Char
  | [] => []
  | c :: rest => if c.utf8Size ≤ room then c :: takeBytes (room - c.utf8Size) rest else []

theorem size_encode_cons (c : Char) (cs : List Char) :
    (c :: cs).utf8Encode.size = c.utf8Size + cs.utf8Encode.size := by
  rw [List.utf8Encode_cons, size_append, size_encode]

/-- Of the bytes in front of a cut exactly the characters are read that fit. -/
theorem charsFrom_extract (room : Nat) (cs : List Char) :
    charsFrom (cs.utf8Encode.extract 0 room) 0 = takeBytes room cs := by
  induction cs generalizing room with
  | nil =>
    apply charsFrom_of_size_le
    simp
  | cons c cs ih =>
    rw [List.utf8Encode_cons, extract_append, size_encode, Nat.zero_sub, takeBytes]
    by_cases fits : c.utf8Size ≤ room
    · -- the cut is behind the character
      have first : [c].utf8Encode.extract 0 room = [c].utf8Encode := by
        rw [← size_encode c] at fits
        rw [← Nat.max_eq_left fits, extract_zero_max_size]
      rw [if_pos fits, first, charsFrom_encode, ih]
    · -- the cut is inside of it, and nothing comes after it
      rw [if_neg fits, Nat.sub_eq_zero_of_le (Nat.le_of_not_le fits), extract_same, append_empty]
      exact charsFrom_cut (Nat.lt_of_not_le fits) 0

theorem takeBytes_prefix (room : Nat) (cs : List Char) : takeBytes room cs <+: cs := by
  induction cs generalizing room with
  | nil => exact List.nil_prefix
  | cons c cs ih =>
    rw [takeBytes]
    split
    · exact (List.prefix_cons_inj c).mpr (ih (room - c.utf8Size))
    · exact List.nil_prefix

theorem size_takeBytes_le (room : Nat) (cs : List Char) :
    (takeBytes room cs).utf8Encode.size ≤ room := by
  induction cs generalizing room with
  | nil => simp [takeBytes]
  | cons c cs ih =>
    rw [takeBytes]
    split
    · rename_i fits
      have rest := ih (room - c.utf8Size)
      rw [size_encode_cons]
      omega
    · simp

/-- A beginning that fits is part of what is taken. -/
theorem prefix_takeBytes {start cs : List Char} (begins : start <+: cs)
    (fits : start.utf8Encode.size ≤ room) : start <+: takeBytes room cs := by
  induction cs generalizing room start with
  | nil => exact begins
  | cons c cs ih =>
    rcases List.prefix_cons_iff.mp begins with rfl | ⟨rest, rfl, shorter⟩
    · exact List.nil_prefix
    · rw [size_encode_cons] at fits
      rw [takeBytes, if_pos (by omega), List.prefix_cons_inj]
      apply ih shorter
      omega

/-- The text `p` is the longest beginning of `s` whose UTF-8 form has at most `room` bytes. -/
structure IsLongestWithin (room : Nat) (p s : String) : Prop where
  begins : p.toList <+: s.toList
  fits : p.utf8ByteSize ≤ room
  longest : ∀ t : String, t.toList <+: s.toList → t.utf8ByteSize ≤ room → t.length ≤ p.length

theorem utf8ByteSize_eq (s : String) : s.utf8ByteSize = s.toList.utf8Encode.size := by
  rw [String.utf8Encode_toList, String.size_toByteArray]

theorem isLongestWithin_takeBytes (room : Nat) (s : String) :
    IsLongestWithin room (String.ofList (takeBytes room s.toList)) s where
  begins := by
    rw [String.toList_ofList]
    exact takeBytes_prefix room s.toList
  fits := by
    rw [utf8ByteSize_eq, String.toList_ofList]
    exact size_takeBytes_le room s.toList
  longest := by
    intro t begins fits
    rw [utf8ByteSize_eq] at fits
    rw [String.length_ofList, ← String.length_toList]
    exact (prefix_takeBytes begins fits).length_le

/-- A text that fits is shown as it is. Of a text that does not, the longest beginning that fits is
shown, with three dots. -/
theorem preview_shows (limit : Nat) (s : String) :
    (s.utf8ByteSize ≤ limit → preview limit s = s) ∧
    (limit < s.utf8ByteSize →
      ∃ p, IsLongestWithin limit p s ∧ preview limit s = p ++ "...") := by
  constructor
  · intro fits
    rw [preview, if_pos (Int.ofNat_le.mpr fits)]
  · intro long
    refine ⟨_, isLongestWithin_takeBytes limit s, ?_⟩
    have kept : bytesKept s.utf8ByteSize limit = limit := by
      rw [bytesKept, if_neg (by omega), Int.toNat_natCast]
    rw [preview, if_neg (by omega), kept, String.toUTF8_eq_toByteArray, ← String.utf8Encode_toList,
      charsFrom_extract]

/-- Of the third character two of four bytes fit, and none of it is shown. -/
example : preview 5 "aé😀b" = "aé..." := by decide +kernel

end Catalog.Text
