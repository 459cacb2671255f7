import Catalog.Record.Snapshot
import Mathlib.Data.List.Forall2

/-!
# Snapshots that cannot be read

A file that is no list of records fails with the kind of a snapshot, except for a name that no file
can have, a text whose values do not exist or are nested too deep, and a number that is too long to
be written out. For these, exactly, reading ends in a fault.
-/

namespace Catalog

/-! ## First errors -/

/-- The first value of the list for which `f` fails gives the error. -/
def FirstError {α β ε : Type} (f : α → Except ε β) (l : List α) (e : ε) : Prop :=
  ∃ before a after, l = before ++ a :: after ∧ (∀ b ∈ before, ∃ v, f b = .ok v) ∧ f a = .error e

section

variable {α β ε : Type} {f : α → Except ε β} {a : α} {l : List α} {e : ε}

theorem not_firstError_nil : ¬ FirstError f [] e := by
  rintro ⟨before, a, after, split, -⟩
  cases before <;> cases split

theorem firstError_cons :
    FirstError f (a :: l) e ↔ f a = .error e ∨ (∃ v, f a = .ok v) ∧ FirstError f l e := by
  constructor
  · rintro ⟨before, b, after, split, given, fails⟩
    cases before with
    | nil =>
      cases split
      exact .inl fails
    | cons c before =>
      obtain ⟨rfl, rfl⟩ := List.cons.inj split
      obtain ⟨first, given⟩ := List.forall_mem_cons.mp given
      exact .inr ⟨first, before, b, after, rfl, given, fails⟩
  · rintro (fails | ⟨first, before, b, after, rfl, given, fails⟩)
    · exact ⟨[], a, l, rfl, List.forall_mem_nil _, fails⟩
    · exact ⟨a :: before, b, after, rfl, List.forall_mem_cons.mpr ⟨first, given⟩, fails⟩

theorem bind_eq_ok {x : Except ε α} {g : α → Except ε β} {b : β} :
    (x >>= g) = .ok b ↔ ∃ a, x = .ok a ∧ g a = .ok b := by
  cases x <;> simp [bind, Except.bind]

theorem bind_eq_error {x : Except ε α} {g : α → Except ε β} :
    (x >>= g) = .error e ↔ x = .error e ∨ ∃ a, x = .ok a ∧ g a = .error e := by
  cases x <;> simp [bind, Except.bind]

theorem map_eq_ok {x : Except ε α} {g : α → β} {b : β} :
    x.map g = .ok b ↔ ∃ a, x = .ok a ∧ g a = b := by
  cases x <;> simp [Except.map]

theorem mapM_eq_ok_iff {found : List β} :
    l.mapM f = .ok found ↔ List.Forall₂ (fun a b => f a = .ok b) l found := by
  induction l generalizing found with
  | nil =>
    rw [List.mapM_nil, List.forall₂_nil_left_iff]
    exact ⟨fun same => (Except.ok.inj same).symm, fun same => congrArg Except.ok same.symm⟩
  | cons a rest ih =>
    simp only [List.mapM_cons, List.forall₂_cons_left_iff, bind_eq_ok, ih]
    constructor
    · rintro ⟨b, first, more, others, same⟩
      exact ⟨b, more, first, others, (Except.ok.inj same).symm⟩
    · rintro ⟨b, more, first, others, rfl⟩
      exact ⟨b, first, more, others, rfl⟩

end

/-! ## Records -/

namespace Record

/-- The keys of the fields with their names. -/
def keys : List (String × String) :=
  [("Id", "id"), ("Title", "title"), ("Type", "type"), ("Version", "version"),
   ("Author", "author"), ("Description", "description")]

/-- The text of the field with a key and a name. -/
def fieldUnder (find : String → Option FieldValue) (p : String × String) : Except Failure String :=
  fieldText p.1 (lookupField find p.1 p.2)

variable {find : String → Option FieldValue} {e : Failure} {key : String} {value : FieldValue}

theorem ofFields_eq_error :
    ofFields find = .error e ↔ FirstError (fieldUnder find) keys e := by
  simp only [keys, firstError_cons, not_firstError_nil, and_false, or_false, ofFields,
    bind_eq_error, fieldUnder, pure, Except.pure, exists_and_right, reduceCtorEq, exists_false]

theorem fieldText_eq_fault {cause : Fault} :
    fieldText key value = .error (.fault cause) ↔
      cause = .tooManyDigits ∧ ∃ n, value = .int n ∧ Numeral.integerText? n = none := by
  cases value with
  | int n =>
    rw [fieldText]
    cases text : Numeral.integerText? n <;> simp [text, eq_comm]
  | _ => simp [fieldText]

end Record

namespace Failure

/-- The failure is one of the tool's own, of the kind of a snapshot, or a fault. -/
def OfSnapshot (e : Failure) : Prop :=
  (∃ cause, e = .fault cause) ∨ e.kind? = some .snapshot

end Failure

theorem Record.ofSnapshot_of_ofFields {find : String → Option FieldValue} {e : Failure}
    (fails : Record.ofFields find = .error e) : e.OfSnapshot := by
  obtain ⟨_, p, _, -, -, fails⟩ := Record.ofFields_eq_error.mp fails
  rw [Record.fieldUnder] at fails
  cases value : Record.lookupField find p.1 p.2 with
  | int n =>
    rw [value, Record.fieldText] at fails
    split at fails
    · cases fails
    · cases fails
      exact .inl ⟨_, rfl⟩
  | other kind =>
    rw [value] at fails
    cases fails
    exact .inr rfl
  | null | text | float =>
    rw [value] at fails
    cases fails

namespace Snapshot

variable {source text : String} {index : Nat} {entry : Yaml.Value} {items : List Yaml.Value}
  {e : Failure} {cause : Fault} {tree : FileTree} {path : Path}

/-! ## What a snapshot can hold -/

/-- The entry is a mapping whose fields are a record. -/
def IsRecord (entry : Yaml.Value) : Prop :=
  ∃ fields r, entry = .dict fields ∧ Record.ofFields (lookupKey fields) = .ok r

/-- The entry is a mapping, and the first of its fields that has no text is an integer that is too
long to be written out. -/
def HasLongNumber (entry : Yaml.Value) : Prop :=
  ∃ fields before key name after n, entry = .dict fields ∧
    Record.keys = before ++ (key, name) :: after ∧
    (∀ p ∈ before, ∃ s, Record.fieldUnder (lookupKey fields) p = .ok s) ∧
    Record.lookupField (lookupKey fields) key name = .int n ∧ Numeral.integerText? n = none

/-- Reading the snapshot at a path ends in the fault. -/
inductive Escapes (tree : FileTree) (path : Path) : Fault → Prop
  /-- No file can have the name. -/
  | name (invalid : tree.readText path = .error (.system .invalidName)) :
      Escapes tree path (.system .invalidName)
  /-- The text is well formed, but names a value that does not exist, or is nested too deep. -/
  | value {text : String} {cause : Yaml.Error} (read : tree.readText path = .ok text)
      (fails : Yaml.load documentDepth text = .error cause) (formed : cause ≠ .malformed) :
      Escapes tree path (.yaml cause)
  /-- After some records there is one with a number that is too long. -/
  | number {text : String} {before after : List Yaml.Value} {entry : Yaml.Value}
      (read : tree.readText path = .ok text)
      (list : Yaml.load documentDepth text = .ok (.list (before ++ entry :: after)))
      (records : ∀ b ∈ before, IsRecord b) (long : HasLongNumber entry) :
      Escapes tree path .tooManyDigits

/-! ## Entries -/

theorem entryRecord_of_ofFields {fields : List (Yaml.Value × Yaml.Value)} {r : Record}
    (gives : Record.ofFields (lookupKey fields) = .ok r) (source : String) (index : Nat) :
    entryRecord source index (.dict fields) = .ok r := by
  rw [entryRecord, gives]

theorem exists_entryRecord_iff :
    (∃ r, entryRecord source index entry = .ok r) ↔ IsRecord entry := by
  constructor
  · rintro ⟨r, gives⟩
    cases entry with
    | dict fields =>
      rw [entryRecord] at gives
      split at gives
      · cases gives
      · exact ⟨fields, r, rfl, gives⟩
    | _ => cases gives
  · rintro ⟨fields, r, rfl, gives⟩
    exact ⟨r, entryRecord_of_ofFields gives source index⟩

theorem entryRecord_eq_fault :
    entryRecord source index entry = .error (.fault cause) ↔
      cause = .tooManyDigits ∧ HasLongNumber entry := by
  constructor
  · intro fails
    cases entry with
    | dict fields =>
      rw [entryRecord] at fails
      split at fails
      · cases fails
      · obtain ⟨before, p, after, split, given, fails⟩ := Record.ofFields_eq_error.mp fails
        obtain ⟨rfl, n, number, long⟩ := Record.fieldText_eq_fault.mp fails
        exact ⟨rfl, fields, before, p.1, p.2, after, n, rfl, split, given, number, long⟩
    | _ => cases fails
  · rintro ⟨rfl, fields, before, key, name, after, n, rfl, split, given, number, long⟩
    have fails : Record.ofFields (lookupKey fields) = .error (.fault .tooManyDigits) :=
      Record.ofFields_eq_error.mpr ⟨before, (key, name), after, split, given,
        Record.fieldText_eq_fault.mpr ⟨rfl, n, number, long⟩⟩
    rw [entryRecord, fails]

theorem ofSnapshot_of_entryRecord (fails : entryRecord source index entry = .error e) :
    e.OfSnapshot := by
  cases entry with
  | dict fields =>
    rw [entryRecord] at fails
    split at fails
    · cases fails
      exact .inr rfl
    · exact Record.ofSnapshot_of_ofFields fails
  | _ =>
    cases fails
    exact .inr rfl

theorem entryRecords_cons_eq_fault {first : Yaml.Value} :
    entryRecords source index (first :: items) = .error (.fault cause) ↔
      (cause = .tooManyDigits ∧ HasLongNumber first) ∨
        IsRecord first ∧ entryRecords source (index + 1) items = .error (.fault cause) := by
  rw [entryRecords, bind_eq_error, entryRecord_eq_fault]
  simp only [bind_eq_error, pure, Except.pure, reduceCtorEq, and_false, exists_false, or_false,
    exists_and_right, exists_entryRecord_iff]

/-- The entries are records up to the first one with a number that is too long. -/
theorem entryRecords_eq_fault :
    entryRecords source index items = .error (.fault cause) ↔
      cause = .tooManyDigits ∧ ∃ before entry after, items = before ++ entry :: after ∧
        (∀ b ∈ before, IsRecord b) ∧ HasLongNumber entry := by
  induction items generalizing index with
  | nil => simp [entryRecords]
  | cons first rest ih =>
    rw [entryRecords_cons_eq_fault, ih]
    constructor
    · rintro (⟨rfl, long⟩ | ⟨isRecord, rfl, before, entry, after, rfl, records, long⟩)
      · exact ⟨rfl, [], first, rest, rfl, List.forall_mem_nil _, long⟩
      · exact ⟨rfl, first :: before, entry, after, rfl,
          List.forall_mem_cons.mpr ⟨isRecord, records⟩, long⟩
    · rintro ⟨rfl, before, entry, after, split, records, long⟩
      cases before with
      | nil =>
        cases split
        exact .inl ⟨rfl, long⟩
      | cons b before =>
        obtain ⟨rfl, rfl⟩ := List.cons.inj split
        obtain ⟨isRecord, records⟩ := List.forall_mem_cons.mp records
        exact .inr ⟨isRecord, rfl, before, entry, after, rfl, records, long⟩

theorem ofSnapshot_of_entryRecords (fails : entryRecords source index items = .error e) :
    e.OfSnapshot := by
  induction items generalizing index with
  | nil => cases fails
  | cons first rest ih =>
    rw [entryRecords, bind_eq_error] at fails
    rcases fails with fails | ⟨r, -, fails⟩
    · exact ofSnapshot_of_entryRecord fails
    · rcases bind_eq_error.mp fails with fails | ⟨records, -, fails⟩
      · exact ih fails
      · cases fails

/-! ## Texts -/

theorem parse_eq_fault :
    parse source text = .error (.fault cause) ↔
      (∃ c, Yaml.load documentDepth text = .error c ∧ c ≠ .malformed ∧ cause = .yaml c) ∨
        ∃ items, Yaml.load documentDepth text = .ok (.list items) ∧
          entryRecords source 0 items = .error (.fault cause) := by
  rw [parse]
  cases Yaml.load documentDepth text with
  | error c => cases c <;> simp [eq_comm]
  | ok value => cases value <;> simp

theorem ofSnapshot_of_parse (fails : parse source text = .error e) : e.OfSnapshot := by
  rw [parse] at fails
  cases loaded : Yaml.load documentDepth text with
  | error c =>
    rw [loaded] at fails
    cases c with
    | malformed =>
      cases fails
      exact .inr rfl
    | _ =>
      cases fails
      exact .inl ⟨_, rfl⟩
  | ok value =>
    rw [loaded] at fails
    cases value with
    | null => cases fails
    | list items => exact ofSnapshot_of_entryRecords fails
    | _ =>
      cases fails
      exact .inr rfl

/-! ## Files -/

theorem load_eq_error :
    load tree path = .error e ↔
      (tree.readText path = .error (.system .invalidName) ∧ e = .fault (.system .invalidName)) ∨
      (∃ cause, tree.readText path = .error cause ∧ cause ≠ .system .notFound ∧
        cause ≠ .system .invalidName ∧ e = .unreadableSnapshot path.text) ∨
      ∃ text, tree.readText path = .ok text ∧ parse path.text text = .error e := by
  rw [load]
  cases tree.readText path with
  | ok text =>
    cases outcome : parse path.text text <;> simp [Except.map, outcome]
  | error cause =>
    cases cause with
    | undecodable => simp [eq_comm]
    | system cause => cases cause <;> simp [eq_comm]

/-- Reading a snapshot ends in a fault in these cases only. -/
theorem load_eq_fault_iff : load tree path = .error (.fault cause) ↔ Escapes tree path cause := by
  rw [load_eq_error]
  constructor
  · rintro (⟨invalid, same⟩ | ⟨_, _, _, _, same⟩ | ⟨text, read, fails⟩)
    · cases same
      exact .name invalid
    · cases same
    · rcases parse_eq_fault.mp fails with ⟨c, loaded, formed, rfl⟩ | ⟨items, loaded, fails⟩
      · exact .value read loaded formed
      · obtain ⟨rfl, before, entry, after, rfl, records, long⟩ := entryRecords_eq_fault.mp fails
        exact .number read loaded records long
  · intro escapes
    cases escapes with
    | name invalid => exact .inl ⟨invalid, rfl⟩
    | value read fails formed =>
      exact .inr (.inr ⟨_, read, parse_eq_fault.mpr (.inl ⟨_, fails, formed, rfl⟩)⟩)
    | number read list records long =>
      refine .inr (.inr ⟨_, read, parse_eq_fault.mpr (.inr ⟨_, list, ?_⟩)⟩)
      exact entryRecords_eq_fault.mpr ⟨rfl, _, _, _, rfl, records, long⟩

/-- Every file that is not read as a list of records fails with the kind of a snapshot, or reading
it ends in a fault. -/
theorem load_fails (fails : load tree path = .error e) :
    (∃ cause, e = .fault cause ∧ Escapes tree path cause) ∨ e.kind? = some .snapshot := by
  have kinds : e.OfSnapshot := by
    rcases load_eq_error.mp fails with ⟨-, rfl⟩ | ⟨_, -, -, -, rfl⟩ | ⟨text, -, fails⟩
    · exact .inl ⟨_, rfl⟩
    · exact .inr rfl
    · exact ofSnapshot_of_parse fails
  rcases kinds with ⟨cause, rfl⟩ | kind
  · exact .inl ⟨cause, rfl, load_eq_fault_iff.mp fails⟩
  · exact .inr kind

end Snapshot

end Catalog
