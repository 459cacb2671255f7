import Catalog.Command.Config
import Catalog.Proofs.Record.Faults

/-!
# Faults before a scan

The configuration of a repository is a file with any bytes. If it is no JSON object it leaves a
warning and nothing else, except where its bytes are no text, or hold a number that is too long or
values that are nested too deep. The other paths of a plan are resolved, and each may lead nowhere.
-/

namespace Catalog

namespace RepoConfig

variable {tree : FileTree} {repo path : Path} {fileName text : String} {cause : Fault}
  {names : List String}

/-! ## Configuration files -/

/-- Reading the configuration in a file ends in the fault. -/
inductive FileEscapes (tree : FileTree) (path : Path) : Fault → Prop
  | bytes (foreign : tree.readText path = .error .undecodable) : FileEscapes tree path .undecodable
  | name (invalid : tree.readText path = .error (.system .invalidName)) :
      FileEscapes tree path (.system .invalidName)
  | digits {text : String} (read : tree.readText path = .ok text)
      (long : Json.parse text = .error .tooManyDigits) : FileEscapes tree path .tooManyDigits
  | depth {text : String} (read : tree.readText path = .ok text)
      (deep : Json.parse text = .error .tooDeep) : FileEscapes tree path .tooDeep

theorem ofText_eq_error :
    ofText fileName text = .error cause ↔
      (Json.parse text = .error .tooManyDigits ∧ cause = .tooManyDigits) ∨
        Json.parse text = .error .tooDeep ∧ cause = .tooDeep := by
  rw [ofText]
  cases Json.parse text with
  | error e => cases e <;> simp [eq_comm]
  | ok payload => cases payload <;> simp

theorem ofFile_eq_error :
    ofFile tree fileName path = .error cause ↔ FileEscapes tree path cause := by
  constructor
  · intro fails
    rw [ofFile] at fails
    split at fails
    · rename_i foreign
      cases fails
      exact .bytes foreign
    · rename_i invalid
      cases fails
      exact .name invalid
    · cases fails
    · rename_i text read
      rcases ofText_eq_error.mp fails with ⟨long, rfl⟩ | ⟨deep, rfl⟩
      · exact .digits read long
      · exact .depth read deep
  · intro escapes
    cases escapes with
    | bytes foreign => rw [ofFile, foreign]
    | name invalid => rw [ofFile, invalid]
    | digits read long =>
      rw [ofFile, read]
      exact ofText_eq_error.mpr (.inl ⟨long, rfl⟩)
    | depth read deep =>
      rw [ofFile, read]
      exact ofText_eq_error.mpr (.inr ⟨deep, rfl⟩)

/-- How the search for a configuration goes on after a file was looked up. -/
def afterLookup (found : Except SystemError Bool) (rest file : Except Fault Loaded) :
    Except Fault Loaded :=
  match found with
  | .error cause => .error (.system cause)
  | .ok false => rest
  | .ok true => file

theorem loadFirst_cons (tree : FileTree) (repo : Path) (fileName : String) (rest : List String) :
    loadFirst tree repo (fileName :: rest) =
      afterLookup (tree.pathExists (repo / fileName)) (loadFirst tree repo rest)
        ((ofFile tree fileName (repo / fileName)).map fun loaded =>
          { config := loaded.1, name := some fileName, warnings := loaded.2 }) :=
  (rfl)

theorem loadFirst_append {before : List String}
    (missing : ∀ b ∈ before, tree.pathExists (repo / b) = .ok false) (rest : List String) :
    loadFirst tree repo (before ++ rest) = loadFirst tree repo rest := by
  induction before with
  | nil => rfl
  | cons b before ih =>
    obtain ⟨first, missing⟩ := List.forall_mem_cons.mp missing
    rw [List.cons_append, loadFirst_cons, first]
    exact ih missing

/-- The file is looked up among those with the names: none of those before it exists. -/
def LooksUp (tree : FileTree) (repo : Path) (names : List String) (fileName : String) : Prop :=
  ∃ before after, names = before ++ fileName :: after ∧
    ∀ b ∈ before, tree.pathExists (repo / b) = .ok false

theorem loadFirst_eq_error :
    loadFirst tree repo names = .error cause ↔
      ∃ fileName, LooksUp tree repo names fileName ∧
        ((∃ c, tree.pathExists (repo / fileName) = .error c ∧ cause = .system c) ∨
          tree.pathExists (repo / fileName) = .ok true ∧
            FileEscapes tree (repo / fileName) cause) := by
  constructor
  · intro fails
    induction names with
    | nil => cases fails
    | cons name rest ih =>
      rw [loadFirst_cons] at fails
      cases present : tree.pathExists (repo / name) with
      | error c =>
        rw [present] at fails
        cases fails
        exact ⟨name, ⟨[], rest, rfl, List.forall_mem_nil _⟩, .inl ⟨c, present, rfl⟩⟩
      | ok found =>
        rw [present] at fails
        cases found with
        | false =>
          obtain ⟨fileName, ⟨before, after, rfl, missing⟩, ends⟩ := ih fails
          exact ⟨fileName, ⟨name :: before, after, rfl,
            List.forall_mem_cons.mpr ⟨present, missing⟩⟩, ends⟩
        | true =>
          refine ⟨name, ⟨[], rest, rfl, List.forall_mem_nil _⟩, .inr ⟨present, ?_⟩⟩
          rw [afterLookup] at fails
          cases outcome : ofFile tree name (repo / name) with
          | ok loaded =>
            rw [outcome] at fails
            cases fails
          | error c =>
            rw [outcome] at fails
            cases fails
            exact ofFile_eq_error.mp outcome
  · rintro ⟨fileName, ⟨before, after, rfl, missing⟩, ⟨c, present, rfl⟩ | ⟨present, escapes⟩⟩
    · rw [loadFirst_append missing, loadFirst_cons, present, afterLookup]
    · rw [loadFirst_append missing, loadFirst_cons, present, ofFile_eq_error.mpr escapes]
      rfl

/-- Reading the configuration of a repository ends in the fault. -/
inductive Escapes (tree : FileTree) (repo : Path) : Fault → Prop
  | lookup {fileName : String} {cause : SystemError}
      (tried : LooksUp tree repo fileNames fileName)
      (fails : tree.pathExists (repo / fileName) = .error cause) : Escapes tree repo (.system cause)
  | file {fileName : String} {cause : Fault} (tried : LooksUp tree repo fileNames fileName)
      (found : tree.pathExists (repo / fileName) = .ok true)
      (escapes : FileEscapes tree (repo / fileName) cause) : Escapes tree repo cause

theorem load_eq_error : load tree repo = .error cause ↔ Escapes tree repo cause := by
  rw [load, loadFirst_eq_error]
  constructor
  · rintro ⟨fileName, tried, ⟨c, fails, rfl⟩ | ⟨found, escapes⟩⟩
    · exact .lookup tried fails
    · exact .file tried found escapes
  · intro escapes
    cases escapes with
    | lookup tried fails => exact ⟨_, tried, .inl ⟨_, fails, rfl⟩⟩
    | file tried found escapes => exact ⟨_, tried, .inr ⟨found, escapes⟩⟩

end RepoConfig

end Catalog
