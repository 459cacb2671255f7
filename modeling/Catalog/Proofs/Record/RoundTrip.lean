import Catalog.Proofs.Yaml.Values
import Catalog.Record.Snapshot

/-!
# Snapshots that are read back

A list of records is published as a text, and the text is read as a list of records again. Every
field comes back as it was, except one that has a next line character and is written between single
quotes: there the character is read as a line break. Between double quotes it is escaped.
-/

namespace Catalog

open Yaml

namespace Record

/-- A record as it is read back from a snapshot. -/
def reread (r : Record) : Record where
  id := Printer.reread r.id
  title := Printer.reread r.title
  type := Printer.reread r.type
  version := Printer.reread r.version
  author := Printer.reread r.author
  description := Printer.reread r.description

theorem entries_reread (r : Record) : r.reread.entries = r.entries.map Graph.rereadEntry := by
  simp [reread, entries, Graph.rereadEntry]

/-- A record is kept exactly if each of its fields is. -/
theorem reread_eq_self_iff {r : Record} :
    r.reread = r ↔ ∀ entry ∈ r.entries, Printer.reread entry.2 = entry.2 := by
  cases r
  simp [reread, entries]

/-- The keys of a record are written without quotes. -/
theorem isWord_entries (r : Record) : ∀ entry ∈ r.entries, Lexer.IsWord entry.1 := by
  simp only [entries, List.forall_mem_cons]
  refine ⟨?_, ?_, ?_, ?_, ?_, ?_, List.forall_mem_nil _⟩ <;> constructor <;> decide

end Record

namespace Snapshot

/-! ## Entries -/

theorem entryRecord_entries (source : String) (index : Nat) (r : Record) :
    entryRecord source index (Builder.ofEntries r.entries) = .ok r := by
  simp [entryRecord, Builder.ofEntries, Record.entries, Record.ofFields, Record.lookupField,
    lookupKey, fieldValue, Record.fieldText, bind, Except.bind, pure, Except.pure]

theorem entryRecords_entries (source : String) (index : Nat) (records : List Record) :
    entryRecords source index (records.map fun r => Builder.ofEntries r.entries) =
      .ok records := by
  induction records generalizing index with
  | nil => rfl
  | cons r records ih =>
    rw [List.map_cons, entryRecords, entryRecord_entries, ih]
    rfl

/-! ## Snapshots -/

theorem isTable_entries (records : List Record) : Lexer.IsTable (records.map Record.entries) := by
  intro entries member
  obtain ⟨r, -, rfl⟩ := List.mem_map.mp member
  exact ⟨by simp [Record.entries], r.isWord_entries⟩

/-- A snapshot is read back field by field. -/
theorem parse_render (source : String) (records : List Record) :
    parse source (render records) = .ok (records.map Record.reread) := by
  cases records with
  | nil => rfl
  | cons r records =>
    have value := Yaml.load_sequence (isTable_entries (r :: records)) (by simp) 1
    rw [parse, render, documentDepth, value]
    have items := entryRecords_entries source 0 ((r :: records).map Record.reread)
    rw [← items, Builder.ofTable]
    simp [Record.entries_reread, Function.comp_def]

/-- Every list of records is read back from its snapshot, up to fields with a next line character;
and it is read back as it was exactly if those are written between double quotes. -/
theorem parse_render_iff (source : String) (records : List Record) :
    parse source (render records) = .ok (records.map Record.reread) ∧
      (parse source (render records) = .ok records ↔
        ∀ r ∈ records, ∀ entry ∈ r.entries,
          '\x85' ∈ entry.2.toList → Printer.styleOf entry.2 = .double) := by
  refine ⟨parse_render source records, ?_⟩
  rw [parse_render, Except.ok.injEq]
  nth_rewrite 2 [← List.map_id records]
  rw [List.map_inj_left]
  simp only [id_eq, Record.reread_eq_self_iff, Yaml.Printer.reread_eq_self_iff]

end Snapshot

end Catalog
