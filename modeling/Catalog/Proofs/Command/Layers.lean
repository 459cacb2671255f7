import Catalog.Proofs.Command.Plan
import Catalog.Proofs.Source.Reached

/-!
# Flags, configuration and defaults

Each option of a scan has three layers: the flag, the entry of the configuration, and the default.
What an entry gives depends on its JSON value alone, and `TextEntry` and its siblings give the
values that are well typed for an option. An entry that is not well typed is as good as none, except
where lists are expected: there it counts as an empty list, which takes the place of the default
unless a flag does so.
-/

namespace Catalog.ScanPlan

variable {α : Type} {tree other : FileTree} {workingDir repo base : Path} {flags : ScanFlags}
  {members : List (String × Json)} {key s : String} {value : Json} {l values texts : List String}
  {b : Bool}

/-! ## Layers -/

/-- The first layer that has a value gives it. -/
inductive Layered (flag entry : α → Prop) (fallback : α) : α → Prop
  | flag {a : α} (given : flag a) : Layered flag entry fallback a
  | entry {a : α} (absent : ∀ a, ¬flag a) (given : entry a) : Layered flag entry fallback a
  | fallback (absent : ∀ a, ¬flag a) (missing : ∀ a, ¬entry a) :
      Layered flag entry fallback fallback

/-- The layers determine the value. -/
theorem getD_eq_iff {first second : Option α} {flag entry : α → Prop}
    (first_iff : ∀ a, first = some a ↔ flag a) (second_iff : ∀ a, second = some a ↔ entry a)
    {fallback a : α} :
    (first <|> second).getD fallback = a ↔ Layered flag entry fallback a := by
  constructor
  · rintro rfl
    cases first with
    | some a => exact .flag ((first_iff a).mp rfl)
    | none =>
      have absent a : ¬flag a := fun given => nomatch (first_iff a).mpr given
      cases second with
      | some a => exact .entry absent ((second_iff a).mp rfl)
      | none => exact .fallback absent fun a given => nomatch (second_iff a).mpr given
  · intro layered
    have unflagged (absent : ∀ a, ¬flag a) : first = none :=
      Option.eq_none_iff_forall_ne_some.mpr fun a given => absent a ((first_iff a).mp given)
    cases layered with
    | flag given =>
      rw [(first_iff a).mpr given]
      rfl
    | entry absent given =>
      rw [unflagged absent, (second_iff a).mpr given]
      rfl
    | fallback absent missing =>
      have none : second = none :=
        Option.eq_none_iff_forall_ne_some.mpr fun a given => missing a ((second_iff a).mp given)
      rw [unflagged absent, none]
      rfl

/-! ## Flags -/

/-- The texts without blanks around them, as far as anything is left of them. -/
def stripped (l : List String) : List String :=
  (l.map Text.strip).filter (· ≠ "")

/-- The flag gives a text that is not empty. -/
def TextFlag (flag : Option String) (s : String) : Prop :=
  flag = some s ∧ s ≠ ""

/-- The values of the flag, cut at commas, give a list that is not empty. -/
def ListFlag (values l : List String) : Prop :=
  stripped (values.flatMap (Text.split ',')) = l ∧ l ≠ []

theorem stripped?_eq_some {t : String} :
    RepoConfig.stripped? s = some t ↔ Text.strip s = t ∧ t ≠ "" := by
  rw [RepoConfig.stripped?]
  by_cases blank : Text.strip s = ""
  · rw [blank]
    exact ⟨nofun, fun ⟨same, notBlank⟩ => absurd same.symm notBlank⟩
  · rw [if_neg (by simpa using blank), Option.some.injEq]
    constructor
    · rintro rfl
      exact ⟨rfl, blank⟩
    · exact And.left

theorem filterMap_stripped? (l : List String) :
    l.filterMap RepoConfig.stripped? = stripped l := by
  induction l with
  | nil => rfl
  | cons s rest ih =>
    rw [List.filterMap_cons, ih, RepoConfig.stripped?, stripped, stripped, List.map_cons,
      List.filter_cons]
    by_cases blank : Text.strip s = "" <;> simp [blank]

theorem pieces_eq (values : List String) :
    ScanFlags.pieces values = stripped (values.flatMap (Text.split ',')) := by
  rw [ScanFlags.pieces, ← filterMap_stripped?, List.filterMap_flatMap]

theorem given_eq_some (flag : Option String) (s : String) :
    ScanFlags.given flag = some s ↔ TextFlag flag s := by
  simp [ScanFlags.given, TextFlag, Option.filter_eq_some_iff]

theorem givenList_eq_some (values l : List String) :
    ScanFlags.givenList values = some l ↔ ListFlag values l := by
  rw [ScanFlags.givenList, ListFlag, ← pieces_eq]
  by_cases none : ScanFlags.pieces values = []
  · rw [none]
    exact ⟨nofun, fun ⟨same, notEmpty⟩ => absurd same.symm notEmpty⟩
  · rw [if_neg (by simpa using none), Option.some.injEq]
    constructor
    · rintro rfl
      exact ⟨rfl, none⟩
    · exact And.left

/-! ## Entries -/

/-- A text that is not blank. -/
inductive TextEntry : Json → String → Prop
  | text {s : String} (notBlank : Text.strip s ≠ "") : TextEntry (.str s) (Text.strip s)

/-- The name of a policy. -/
inductive PolicyEntry : Json → String → Prop
  | policy {value : Json} {s : String} (text : TextEntry value s) (known : s ∈ Failure.policies) :
      PolicyEntry value s

/-- A truth value. -/
inductive BoolEntry : Json → Bool → Prop
  | bool (b : Bool) : BoolEntry (.bool b) b

/-- The texts among some values. -/
def textsOf (items : List Json) : List String :=
  items.filterMap fun item =>
    match item with
    | .str s => some s
    | _ => none

/-- A text or a list. -/
inductive ListEntry : Json → List String → Prop
  | text (s : String) : ListEntry (.str s) (stripped [s])
  | list (items : List Json) : ListEntry (.arr items) (stripped (textsOf items))

/-- What a value counts as where a list is expected. -/
inductive CountsAs : Json → List String → Prop
  | listed {value : Json} {l : List String} (well : ListEntry value l) : CountsAs value l
  | other {value : Json} (ill : ∀ l, ¬ListEntry value l) : CountsAs value []

/-- The object has an entry under the key, and its value gives `a`. -/
def Entry (gives : Json → α → Prop) (members : List (String × Json)) (key : String) (a : α) :
    Prop :=
  ∃ value, members.lookup key = some value ∧ gives value a

theorem textEntry?_eq_some (members : List (String × Json)) (key s : String) :
    RepoConfig.textEntry? (.obj members) key = some s ↔ Entry TextEntry members key s := by
  rw [RepoConfig.textEntry?, Json.get?, Entry]
  constructor
  · intro given
    split at given
    · rename_i t found
      obtain ⟨rfl, notBlank⟩ := stripped?_eq_some.mp given
      exact ⟨_, found, .text notBlank⟩
    · cases given
  · rintro ⟨_, found, text⟩
    rw [found]
    cases text with
    | text notBlank => exact stripped?_eq_some.mpr ⟨rfl, notBlank⟩

theorem policyEntry_eq_some (members : List (String × Json)) (key s : String) :
    (RepoConfig.textEntry? (.obj members) key).filter Failure.policies.contains = some s ↔
      Entry PolicyEntry members key s := by
  rw [Option.filter_eq_some_iff, textEntry?_eq_some]
  constructor
  · rintro ⟨⟨value, found, text⟩, known⟩
    exact ⟨value, found, .policy text (by simpa using known)⟩
  · rintro ⟨value, found, text, known⟩
    exact ⟨⟨value, found, text⟩, by simpa using known⟩

theorem boolEntry?_eq_some (members : List (String × Json)) (key : String) (b : Bool) :
    RepoConfig.boolEntry? (.obj members) key = some b ↔ Entry BoolEntry members key b := by
  rw [RepoConfig.boolEntry?, Json.get?, Entry]
  constructor
  · intro given
    split at given
    · rename_i found
      cases given
      exact ⟨_, found, .bool b⟩
    · cases given
  · rintro ⟨_, found, bool⟩
    rw [found]
    cases bool with
    | bool b => rfl

theorem texts_str (s : String) : RepoConfig.texts (.str s) = stripped [s] := by
  rw [← filterMap_stripped?, List.filterMap_cons, List.filterMap_nil, RepoConfig.texts]
  cases RepoConfig.stripped? s <;> rfl

theorem texts_arr (items : List Json) :
    RepoConfig.texts (.arr items) = stripped (textsOf items) := by
  rw [← filterMap_stripped?, textsOf, List.filterMap_filterMap, RepoConfig.texts]
  refine congrArg (fun f => items.filterMap f) (funext fun item => ?_)
  cases item <;> simp only [Option.bind_some, Option.bind_none]

theorem texts_eq_iff : RepoConfig.texts value = l ↔ CountsAs value l := by
  constructor
  · rintro rfl
    cases value with
    | str s =>
      rw [texts_str]
      exact .listed (.text s)
    | arr items =>
      rw [texts_arr]
      exact .listed (.list items)
    | _ => exact .other nofun
  · intro counts
    cases counts with
    | listed well =>
      cases well with
      | text s => exact texts_str s
      | list items => exact texts_arr items
    | other ill =>
      cases value with
      | str s => exact absurd (.text s) (ill _)
      | arr items => exact absurd (.list items) (ill _)
      | _ => rfl

theorem listEntry?_eq_some (members : List (String × Json)) (key : String) (l : List String) :
    RepoConfig.listEntry? (.obj members) key = some l ↔ Entry CountsAs members key l := by
  simp only [RepoConfig.listEntry?, Json.get?, Option.map_eq_some_iff, Entry, texts_eq_iff]

/-! ## Paths -/

/-- The texts are those of the paths to which the values lead from a directory. -/
def ResolvedFrom (tree : FileTree) (base : Path) (values texts : List String) : Prop :=
  List.Forall₂ (fun value text => ∃ path, ScanFlags.resolvePath tree base value = .ok path ∧
    path.text = text) values texts

/-- A list of values is given, and these are their paths. -/
def Resolved (tree : FileTree) (base : Path) (given : List String → Prop)
    (paths : Option (List String)) : Prop :=
  ∃ values texts, given values ∧ ResolvedFrom tree base values texts ∧ paths = some texts

theorem resolvePaths_eq_ok :
    ScanFlags.resolvePaths tree base values = .ok texts ↔ ResolvedFrom tree base values texts := by
  simp only [ScanFlags.resolvePaths, mapM_eq_ok_iff, map_eq_ok, ResolvedFrom]

/-- Values have paths if each of them has one. -/
theorem exists_resolvedFrom :
    (∃ texts, ResolvedFrom tree base values texts) ↔
      ∀ value ∈ values, ∃ path, ScanFlags.resolvePath tree base value = .ok path := by
  induction values with
  | nil => exact ⟨fun _ => List.forall_mem_nil _, fun _ => ⟨[], .nil⟩⟩
  | cons value rest ih =>
    rw [List.forall_mem_cons, ← ih]
    constructor
    · rintro ⟨_, resolved⟩
      cases resolved with
      | cons first later =>
        obtain ⟨path, first, -⟩ := first
        exact ⟨⟨path, first⟩, _, later⟩
    · rintro ⟨⟨path, first⟩, texts, later⟩
      exact ⟨path.text :: texts, .cons ⟨path, first, rfl⟩ later⟩

variable {given : Option (List String)} {isGiven : List String → Prop}
  {paths : Option (List String)}

/-- A list that may be missing has paths, or there is none. -/
theorem optional_eq_ok (spec : ∀ l, given = some l ↔ isGiven l)
    (gives : given.mapM (ScanFlags.resolvePaths tree base) = .ok paths) :
    Resolved tree base isGiven paths ∨ paths = none ∧ ∀ l, ¬isGiven l := by
  cases given with
  | none =>
    refine .inr ⟨(Except.ok.inj gives).symm, fun l given => ?_⟩
    cases (spec l).mpr given
  | some values =>
    obtain ⟨texts, resolved, rfl⟩ := map_eq_ok.mp gives
    exact .inl ⟨values, texts, (spec values).mp rfl, resolvePaths_eq_ok.mp resolved, rfl⟩

theorem exists_optional (spec : ∀ l, given = some l ↔ isGiven l) :
    (∃ paths, given.mapM (ScanFlags.resolvePaths tree base) = .ok paths) ↔
      ∀ values, isGiven values → ∀ value ∈ values,
        ∃ path, ScanFlags.resolvePath tree base value = .ok path := by
  simp only [← exists_resolvedFrom, ← spec]
  cases given with
  | none => exact ⟨fun _ => nofun, fun _ => ⟨none, rfl⟩⟩
  | some values =>
    simp only [Option.mapM_some, Functor.map, map_eq_ok, resolvePaths_eq_ok, Option.some.injEq,
      forall_eq']
    constructor
    · rintro ⟨_, texts, resolved, rfl⟩
      exact ⟨texts, resolved⟩
    · rintro ⟨texts, resolved⟩
      exact ⟨_, texts, resolved, rfl⟩

/-! ## Plans -/

/-- The first configuration file of the repository holds an object with the members. -/
def HoldsObject (tree : FileTree) (repo : Path) (members : List (String × Json)) : Prop :=
  ∃ fileName text, RepoConfig.LooksUp tree repo RepoConfig.fileNames fileName ∧
    tree.readText (repo / fileName) = .ok text ∧ Json.parse text = .ok (.obj members)

/-- The configuration that an object gives. -/
def configOf (members : List (String × Json)) : RepoConfig :=
  (RepoConfig.ofObject "" (.obj members)).1

/-- The options and the place of the snapshot that flags and a configuration give. -/
def choices (tree : FileTree) (workingDir repo : Path) (flags : ScanFlags) (config : RepoConfig) :
    Except Fault (ScanOptions × Path) :=
  (flags.searchPaths tree workingDir repo config).bind fun paths =>
    (flags.outputPath tree repo config).map fun place => (flags.options config paths, place)

/-- A path at which a text is read leads to an entry. -/
theorem pathExists_of_readText {path : Path} {text : String}
    (read : tree.readText path = .ok text) : tree.pathExists path = .ok true := by
  rw [FileTree.readText] at read
  rw [FileTree.pathExists, FileTree.test]
  cases outcome : tree.stat path with
  | error e =>
    rw [outcome] at read
    cases read
  | ok place => rfl

theorem load_of_holdsObject (holds : HoldsObject tree repo members) :
    ∃ loaded, RepoConfig.load tree repo = .ok loaded ∧ loaded.config = configOf members := by
  obtain ⟨fileName, text, ⟨before, after, split, missing⟩, read, object⟩ := holds
  have file : RepoConfig.ofFile tree fileName (repo / fileName) =
      .ok (RepoConfig.ofObject fileName (.obj members)) := by
    rw [RepoConfig.ofFile, read]
    dsimp only
    rw [RepoConfig.ofText, object]
  refine ⟨{
    config := (RepoConfig.ofObject fileName (.obj members)).1
    name := some fileName
    warnings := (RepoConfig.ofObject fileName (.obj members)).2 }, ?_, rfl⟩
  rw [RepoConfig.load, split, RepoConfig.loadFirst_append missing, RepoConfig.loadFirst_cons,
    pathExists_of_readText read, file]
  rfl

theorem make_eq (holds : HoldsObject tree repo members) (workingDir : Path) (flags : ScanFlags) :
    ∃ loaded, make tree workingDir repo flags =
      (choices tree workingDir repo flags (configOf members)).map fun chosen =>
        { options := chosen.1, output := chosen.2, loaded } := by
  obtain ⟨loaded, load, config⟩ := load_of_holdsObject holds
  refine ⟨loaded, ?_⟩
  simp only [make, load, choices, ← config, bind, pure, Except.pure, Except.bind]
  cases flags.searchPaths tree workingDir repo loaded.config with
  | error cause => rfl
  | ok paths => cases flags.outputPath tree repo loaded.config <;> rfl

theorem choices_eq_ok {config : RepoConfig} {chosen : ScanOptions × Path} :
    choices tree workingDir repo flags config = .ok chosen ↔
      ∃ configured flagged,
        config.searchPaths.mapM (ScanFlags.resolvePaths tree repo) = .ok configured ∧
        (ScanFlags.givenList flags.searchPath).mapM (ScanFlags.resolvePaths tree workingDir) =
          .ok flagged ∧
        ∃ output, flags.outputPath tree repo config = .ok output ∧
          (flags.options config (flagged <|> configured), output) = chosen := by
  have bind_ok {α β : Type} (x : Except Fault α) (f : α → Except Fault β) :
      x.bind f = x >>= f := rfl
  simp only [choices, bind_ok, ScanFlags.searchPaths, bind_eq_ok, map_eq_ok, pure, Except.pure,
    Except.ok.injEq]
  constructor
  · rintro ⟨_, ⟨configured, entries, flagged, flag, rfl⟩, output, place, rfl⟩
    exact ⟨configured, flagged, entries, flag, output, place, rfl⟩
  · rintro ⟨configured, flagged, entries, flag, output, place, rfl⟩
    exact ⟨_, ⟨configured, entries, flagged, flag, rfl⟩, output, place, rfl⟩

/-- Every option of the plan, and the place of the snapshot, come from the first layer that has a
value. Patterns of excluded files are added to what the configuration or the default gives. -/
structure Layers (tree : FileTree) (workingDir repo : Path) (flags : ScanFlags)
    (members : List (String × Json)) (plan : ScanPlan) : Prop where
  registryModule : Layered (TextFlag flags.registryModule)
    (Entry TextEntry members "registry_module") "meloshub.adapter" plan.options.registryModule
  registerFunction : Layered (TextFlag flags.registerFunction)
    (Entry TextEntry members "register_function") "register" plan.options.registerFunction
  metadataType : Layered (TextFlag flags.metadataType)
    (Entry TextEntry members "metadata_type") "Metadata" plan.options.metadataType
  existingIdPolicy : Layered (TextFlag flags.existingIdPolicy)
    (Entry PolicyEntry members "existing_id_policy") "warn" plan.options.existingIdPolicy
  initFunctions : Layered (ListFlag flags.initFunction)
    (Entry CountsAs members "init_functions") ["init"] plan.options.initFunctions
  sourceRoots : Layered (ListFlag flags.sourceRoot)
    (Entry CountsAs members "source_roots") ["src", "."] plan.options.sourceRoots
  excludeGlobs : ∃ globs, Layered (fun _ => False) (Entry CountsAs members "exclude_globs")
      ["tools/*", "*/tools/*"] globs ∧
    plan.options.excludeGlobs = globs ++ stripped (flags.exclude.flatMap (Text.split ','))
  includeTests : Layered (fun b => flags.includeTests = true ∧ b = true)
    (Entry BoolEntry members "include_tests") false plan.options.includeTests
  searchPaths : Layered (Resolved tree workingDir (ListFlag flags.searchPath))
    (Resolved tree repo (Entry CountsAs members "search_paths")) none plan.options.searchPaths
  output : ∃ value, Layered (TextFlag flags.output) (Entry TextEntry members "output")
      "adapters.yaml" value ∧ ScanFlags.resolvePath tree repo value = .ok plan.output

theorem layered_textOption (flag : Option String) (members : List (String × Json))
    (key fallback : String) :
    Layered (TextFlag flag) (Entry TextEntry members key) fallback
      ((ScanFlags.given flag <|> RepoConfig.textEntry? (.obj members) key).getD fallback) :=
  (getD_eq_iff (given_eq_some flag) (textEntry?_eq_some members key)).mp rfl

theorem layered_listOption (values : List String) (members : List (String × Json)) (key : String)
    (fallback : List String) :
    Layered (ListFlag values) (Entry CountsAs members key) fallback
      ((ScanFlags.givenList values <|> RepoConfig.listEntry? (.obj members) key).getD fallback) :=
  (getD_eq_iff (givenList_eq_some values) (listEntry?_eq_some members key)).mp rfl

theorem layered_entryOnly (members : List (String × Json)) (key : String)
    (fallback : List String) :
    Layered (fun _ => False) (Entry CountsAs members key) fallback
      ((RepoConfig.listEntry? (.obj members) key).getD fallback) := by
  have unflagged (l : List String) : none = some l ↔ False := by simp
  exact (getD_eq_iff unflagged (listEntry?_eq_some members key)).mp rfl

theorem layered_truth (flag : Bool) (members : List (String × Json)) (key : String) :
    Layered (fun b => flag = true ∧ b = true) (Entry BoolEntry members key) false
      (flag || (RepoConfig.boolEntry? (.obj members) key).getD false) := by
  cases flag with
  | true => exact .flag ⟨rfl, rfl⟩
  | false =>
    have unflagged (b : Bool) : none = some b ↔ false = true ∧ b = true := by simp
    exact (getD_eq_iff unflagged (boolEntry?_eq_some members key)).mp rfl

theorem layered_paths {configured flagged : Option (List String)}
    (entries : (configOf members).searchPaths.mapM (ScanFlags.resolvePaths tree repo) =
      .ok configured)
    (flag : (ScanFlags.givenList flags.searchPath).mapM (ScanFlags.resolvePaths tree workingDir) =
      .ok flagged) :
    Layered (Resolved tree workingDir (ListFlag flags.searchPath))
      (Resolved tree repo (Entry CountsAs members "search_paths")) none
      (flagged <|> configured) := by
  rcases optional_eq_ok (givenList_eq_some _) flag with resolved | ⟨rfl, absent⟩
  · obtain ⟨values, texts, given, resolved, rfl⟩ := resolved
    exact .flag ⟨values, texts, given, resolved, rfl⟩
  · have absent paths : ¬Resolved tree workingDir (ListFlag flags.searchPath) paths :=
      fun ⟨values, _, given, _⟩ => absent values given
    rcases optional_eq_ok (listEntry?_eq_some members "search_paths") entries with
      resolved | ⟨rfl, missing⟩
    · exact .entry absent resolved
    · exact .fallback absent fun paths ⟨values, _, given, _⟩ => missing values given

theorem layers_of_make (holds : HoldsObject tree repo members) {plan : ScanPlan}
    (made : make tree workingDir repo flags = .ok plan) :
    Layers tree workingDir repo flags members plan := by
  obtain ⟨loaded, same⟩ := make_eq holds workingDir flags
  rw [same] at made
  obtain ⟨chosen, chosen_eq, rfl⟩ := map_eq_ok.mp made
  obtain ⟨configured, flagged, entries, flag, output, place, rfl⟩ := choices_eq_ok.mp chosen_eq
  exact {
    registryModule := layered_textOption _ _ _ _
    registerFunction := layered_textOption _ _ _ _
    metadataType := layered_textOption _ _ _ _
    existingIdPolicy :=
      (getD_eq_iff (given_eq_some _) (policyEntry_eq_some members "existing_id_policy")).mp rfl
    initFunctions := layered_listOption _ _ _ _
    sourceRoots := layered_listOption _ _ _ _
    excludeGlobs := ⟨_, layered_entryOnly _ _ _, by rw [← pieces_eq]; rfl⟩
    includeTests := layered_truth _ _ _
    searchPaths := by
      have layered := layered_paths entries flag
      cases flagged <;> cases configured <;> exact layered
    output := ⟨_, layered_textOption _ _ _ _, place⟩ }

/-! ## When a plan is made -/

/-- The values that have to lead to a path, each with the directory that it is taken from. The entry
of the search paths is among them even where the flag takes its place. -/
inductive Asked (workingDir repo : Path) (flags : ScanFlags) (members : List (String × Json)) :
    Path → String → Prop
  | configured {values : List String} {value : String}
      (entry : Entry CountsAs members "search_paths" values) (member : value ∈ values) :
      Asked workingDir repo flags members repo value
  | flagged {values : List String} {value : String} (flag : ListFlag flags.searchPath values)
      (member : value ∈ values) : Asked workingDir repo flags members workingDir value
  | output {value : String}
      (layered : Layered (TextFlag flags.output) (Entry TextEntry members "output") "adapters.yaml"
        value) : Asked workingDir repo flags members repo value

theorem exists_make_iff (holds : HoldsObject tree repo members) :
    (∃ plan, make tree workingDir repo flags = .ok plan) ↔
      ∀ base value, Asked workingDir repo flags members base value →
        ∃ path, ScanFlags.resolvePath tree base value = .ok path := by
  obtain ⟨loaded, same⟩ := make_eq holds workingDir flags
  simp only [same, map_eq_ok, choices_eq_ok]
  have configured := @exists_optional tree repo _ _ (listEntry?_eq_some members "search_paths")
  have flagged := @exists_optional tree workingDir _ _ (givenList_eq_some flags.searchPath)
  constructor
  · rintro ⟨_, _, ⟨_, _, entries, flag, place, found, -⟩, -⟩ base value asked
    cases asked with
    | configured entry member => exact configured.mp ⟨_, entries⟩ _ entry _ member
    | flagged given member => exact flagged.mp ⟨_, flag⟩ _ given _ member
    | output layered =>
      have value_eq := (getD_eq_iff (given_eq_some flags.output)
        (textEntry?_eq_some members "output")).mpr layered
      rw [← value_eq]
      exact ⟨place, found⟩
  · intro asked
    obtain ⟨paths, entries⟩ := configured.mpr fun _ entry _ member =>
      asked _ _ (.configured entry member)
    obtain ⟨paths', flag⟩ := flagged.mpr fun _ given _ member => asked _ _ (.flagged given member)
    obtain ⟨place, found⟩ := asked _ _ (.output (layered_textOption flags.output members "output"
      "adapters.yaml"))
    exact ⟨_, _, ⟨_, _, entries, flag, place, found, rfl⟩, rfl⟩

/-! ## Entries that are not well typed -/

/-- The keys under which a text is expected. -/
def textKeys : List String := ["registry_module", "register_function", "metadata_type", "output"]

/-- The keys under which a list is expected. -/
def listKeys : List String := ["init_functions", "exclude_globs", "source_roots", "search_paths"]

/-- The value is one that is expected under the key. -/
inductive WellTyped : String → Json → Prop
  | text {key s : String} {value : Json} (expected : key ∈ textKeys) (text : TextEntry value s) :
      WellTyped key value
  | policy {s : String} {value : Json} (policy : PolicyEntry value s) :
      WellTyped "existing_id_policy" value
  | list {key : String} {l : List String} {value : Json} (expected : key ∈ listKeys)
      (list : ListEntry value l) : WellTyped key value
  | bool {b : Bool} {value : Json} (bool : BoolEntry value b) : WellTyped "include_tests" value

/-- The members without those under a key. -/
def without (members : List (String × Json)) (key : String) : List (String × Json) :=
  members.filter (·.1 != key)

/-- The flags that take the place of an entry under a list key, with their values. The patterns of
excluded files have none: their flag adds to the entry. -/
def listFlags (flags : ScanFlags) : List (String × List String) :=
  [("init_functions", flags.initFunction), ("source_roots", flags.sourceRoot),
   ("search_paths", flags.searchPath)]

/-- A flag takes the place of the entry under the key. -/
def FlagGiven (flags : ScanFlags) (key : String) : Prop :=
  ∃ values l, (key, values) ∈ listFlags flags ∧ ListFlag values l

theorem lookup_without_self (members : List (String × Json)) (key : String) :
    (without members key).lookup key = none := by
  rw [List.lookup_eq_none_iff]
  intro member inside
  have different : member.1 ≠ key := by simpa using (List.mem_filter.mp inside).2
  simpa using different.symm

theorem lookup_without_of_ne (different : s ≠ key) :
    (without members key).lookup s = members.lookup s := by
  induction members with
  | nil => rfl
  | cons member rest ih =>
    obtain ⟨name, value⟩ := member
    rw [without, List.filter_cons]
    by_cases same : name = key
    · subst same
      rw [if_neg (by simp), List.lookup_cons, beq_false_of_ne different]
      exact ih
    · rw [if_pos (by simpa using same), List.lookup_cons, List.lookup_cons]
      cases s == name
      · exact ih
      · rfl

/-- An entry that gives nothing can be left out. -/
theorem eq_without {β : Type} {gives : Json → β → Prop} {read : List (String × Json) → Option β}
    (spec : ∀ members a, read members = some a ↔ Entry gives members s a)
    (found : members.lookup key = some value) (nothing : s = key → ∀ a, ¬gives value a) :
    read members = read (without members key) := by
  refine Option.ext fun a => ?_
  rw [spec, spec, Entry, Entry]
  by_cases same : s = key
  · subst same
    rw [lookup_without_self, found]
    constructor
    · rintro ⟨_, same, given⟩
      cases same
      exact absurd given (nothing rfl a)
    · rintro ⟨_, none, -⟩
      cases none
  · rw [lookup_without_of_ne same]

/-- What a list that counts as empty leaves of a configuration. -/
theorem configOf_of_ill (found : members.lookup key = some value) (ill : ¬WellTyped key value) :
    configOf members =
      { configOf (without members key) with
        initFunctions := RepoConfig.listEntry? (.obj members) "init_functions"
        excludeGlobs := RepoConfig.listEntry? (.obj members) "exclude_globs"
        sourceRoots := RepoConfig.listEntry? (.obj members) "source_roots"
        searchPaths := RepoConfig.listEntry? (.obj members) "search_paths" } := by
  have text {s : String} (expected : s ∈ textKeys) :
      RepoConfig.textEntry? (.obj members) s =
        RepoConfig.textEntry? (.obj (without members key)) s :=
    eq_without (textEntry?_eq_some · s) found fun same _ text =>
      ill (.text (same ▸ expected) text)
  have policy := eq_without (policyEntry_eq_some · "existing_id_policy") found
    fun same _ policy => ill (same ▸ .policy policy)
  have bool := eq_without (boolEntry?_eq_some · "include_tests") found
    fun same _ bool => ill (same ▸ .bool bool)
  rw [configOf, RepoConfig.ofObject]
  dsimp only
  rw [policy, bool, text (by decide), text (by decide), text (by decide), text (by decide)]
  rfl

/-- Where a list is expected, a value that is none counts as an empty one. -/
theorem listEntry?_of_ill (found : members.lookup key = some value) (ill : ¬WellTyped key value)
    (expected : key ∈ listKeys) : RepoConfig.listEntry? (.obj members) key = some [] :=
  (listEntry?_eq_some members key []).mpr
    ⟨value, found, .other fun _ list => ill (.list expected list)⟩

theorem listEntry?_without_self (members : List (String × Json)) (key : String) :
    RepoConfig.listEntry? (.obj (without members key)) key = none := by
  rw [RepoConfig.listEntry?, Json.get?, lookup_without_self, Option.map_none]

theorem listEntry?_without_of_ne (different : s ≠ key) :
    RepoConfig.listEntry? (.obj members) s =
      RepoConfig.listEntry? (.obj (without members key)) s := by
  rw [RepoConfig.listEntry?, RepoConfig.listEntry?, Json.get?, Json.get?,
    lookup_without_of_ne different]

theorem exists_listFlag :
    (∃ l, ListFlag values l) ↔ ScanFlags.givenList values ≠ none := by
  simp only [← givenList_eq_some, Option.ne_none_iff_exists']

/-- An empty entry is as good as none if and only if the flag is given. -/
theorem getD_empty_iff {fallback : List String} (filled : fallback ≠ []) :
    (ScanFlags.givenList values <|> some []).getD fallback =
        (ScanFlags.givenList values <|> none).getD fallback ↔ ∃ l, ListFlag values l := by
  rw [exists_listFlag]
  cases ScanFlags.givenList values with
  | none => simpa using filled.symm
  | some l => simp

/-- Configurations with the same paths give the same choices if and only if they give the same
options, or no choices at all. -/
theorem choices_eq_iff {c c' : RepoConfig} (search : c'.searchPaths = c.searchPaths)
    (output : c'.output = c.output) {same : Prop}
    (options : ∀ paths, flags.options c' paths = flags.options c paths ↔ same) :
    choices tree workingDir repo flags c' = choices tree workingDir repo flags c ↔
      same ∨ ∀ chosen, choices tree workingDir repo flags c ≠ .ok chosen := by
  have paths : flags.searchPaths tree workingDir repo c' =
      flags.searchPaths tree workingDir repo c := by
    rw [ScanFlags.searchPaths, ScanFlags.searchPaths, search]
  have place : flags.outputPath tree repo c' = flags.outputPath tree repo c := by
    rw [ScanFlags.outputPath, ScanFlags.outputPath, output]
  rw [choices, choices, paths, place]
  cases flags.searchPaths tree workingDir repo c with
  | error cause => exact ⟨fun _ => .inr nofun, fun _ => rfl⟩
  | ok paths =>
    cases flags.outputPath tree repo c with
    | error cause => exact ⟨fun _ => .inr nofun, fun _ => rfl⟩
    | ok place =>
      rw [← options paths]
      simp [Except.bind, Except.map]

theorem searchPaths_of_entries {c : RepoConfig} {configured : Option (List String)}
    (entries : c.searchPaths.mapM (ScanFlags.resolvePaths tree repo) = .ok configured) :
    flags.searchPaths tree workingDir repo c =
      ((ScanFlags.givenList flags.searchPath).mapM
        (ScanFlags.resolvePaths tree workingDir)).map (· <|> configured) := by
  rw [ScanFlags.searchPaths, entries]
  cases (ScanFlags.givenList flags.searchPath).mapM (ScanFlags.resolvePaths tree workingDir) <;> rfl

/-- An empty entry of search paths keeps installed packages from being searched, unless the flag is
given. -/
theorem choices_searchPaths_iff {c c' : RepoConfig} (missing : c.searchPaths = none)
    (emptied : c' = { c with searchPaths := some [] }) :
    choices tree workingDir repo flags c' = choices tree workingDir repo flags c ↔
      (∃ l, ListFlag flags.searchPath l) ∨
        ∀ chosen, choices tree workingDir repo flags c ≠ .ok chosen := by
  have entries : c.searchPaths.mapM (ScanFlags.resolvePaths tree repo) = .ok none := by
    rw [missing]
    rfl
  have entries' : c'.searchPaths.mapM (ScanFlags.resolvePaths tree repo) = .ok (some []) := by
    rw [emptied]
    rfl
  have place : flags.outputPath tree repo c' = flags.outputPath tree repo c := by
    rw [ScanFlags.outputPath, ScanFlags.outputPath, emptied]
  have options (paths : Option (List String)) :
      flags.options c' paths = flags.options c paths := by
    rw [ScanFlags.options, ScanFlags.options, emptied]
  rw [exists_listFlag, choices, choices, searchPaths_of_entries entries,
    searchPaths_of_entries entries', place]
  simp only [options]
  cases ScanFlags.givenList flags.searchPath with
  | none =>
    rw [Option.mapM_none]
    cases flags.outputPath tree repo c with
    | error cause => exact ⟨fun _ => .inr nofun, fun _ => rfl⟩
    | ok place => simp [pure, Except.pure, Except.bind, Except.map, ScanFlags.options]
  | some values =>
    refine ⟨fun _ => .inl nofun, fun _ => ?_⟩
    rw [Option.mapM_some]
    cases ScanFlags.resolvePaths tree workingDir values <;> rfl

theorem options_initFunctions_iff {c : RepoConfig} (missing : c.initFunctions = none)
    (paths : Option (List String)) :
    flags.options { c with initFunctions := some [] } paths = flags.options c paths ↔
      ∃ l, ListFlag flags.initFunction l := by
  rw [← getD_empty_iff (List.cons_ne_nil "init" [])]
  simp [ScanFlags.options, missing]

theorem options_sourceRoots_iff {c : RepoConfig} (missing : c.sourceRoots = none)
    (paths : Option (List String)) :
    flags.options { c with sourceRoots := some [] } paths = flags.options c paths ↔
      ∃ l, ListFlag flags.sourceRoot l := by
  rw [← getD_empty_iff (List.cons_ne_nil "src" ["."])]
  simp [ScanFlags.options, missing]

/-- No flag makes up for the default patterns of excluded files. -/
theorem options_excludeGlobs_ne {c : RepoConfig} (missing : c.excludeGlobs = none)
    (paths : Option (List String)) :
    flags.options { c with excludeGlobs := some [] } paths ≠ flags.options c paths := by
  intro same
  have globs := congrArg (List.length ∘ ScanOptions.excludeGlobs) same
  simp only [ScanFlags.options, missing, Function.comp_apply, Option.getD_some, Option.getD_none,
    List.length_append, List.length_cons, List.length_nil] at globs
  omega

/-- An entry that is not well typed changes nothing, except under a list key: there it changes the
choices, unless a flag takes its place or there are none. -/
theorem choices_without_iff (found : members.lookup key = some value)
    (ill : ¬WellTyped key value) :
    choices tree workingDir repo flags (configOf members) =
        choices tree workingDir repo flags (configOf (without members key)) ↔
      key ∉ listKeys ∨ FlagGiven flags key ∨
        ∀ chosen, choices tree workingDir repo flags (configOf (without members key)) ≠
          .ok chosen := by
  have config := configOf_of_ill found ill
  by_cases list : key ∈ listKeys
  · have missing := listEntry?_without_self members key
    have other {s : String} (different : s ≠ key) :=
      @listEntry?_without_of_ne members key s different
    have emptied := listEntry?_of_ill found ill list
    simp only [list, not_true_eq_false, false_or]
    simp only [listKeys, List.mem_cons, List.not_mem_nil, or_false] at list
    -- the two configurations differ in one list, empty in the first and missing in the second
    rcases list with rfl | rfl | rfl | rfl
    · rw [emptied, other (by decide), other (by decide), other (by decide)] at config
      have given : FlagGiven flags "init_functions" ↔ ∃ l, ListFlag flags.initFunction l := by
        simp [FlagGiven, listFlags]
      rw [config, given]
      exact choices_eq_iff (by rfl) (by rfl) (options_initFunctions_iff missing)
    · rw [emptied, other (by decide), other (by decide), other (by decide)] at config
      have given : FlagGiven flags "exclude_globs" ↔ False := by simp [FlagGiven, listFlags]
      rw [config, given]
      exact choices_eq_iff (by rfl) (by rfl) fun paths =>
        iff_of_false (options_excludeGlobs_ne missing paths) id
    · rw [emptied, other (by decide), other (by decide), other (by decide)] at config
      have given : FlagGiven flags "source_roots" ↔ ∃ l, ListFlag flags.sourceRoot l := by
        simp [FlagGiven, listFlags]
      rw [config, given]
      exact choices_eq_iff (by rfl) (by rfl) (options_sourceRoots_iff missing)
    · rw [emptied, other (by decide), other (by decide), other (by decide)] at config
      have given : FlagGiven flags "search_paths" ↔ ∃ l, ListFlag flags.searchPath l := by
        simp [FlagGiven, listFlags]
      rw [given]
      exact choices_searchPaths_iff missing config
  · have other {s : String} (expected : s ∈ listKeys) :=
      @listEntry?_without_of_ne members key s fun same => list (same ▸ expected)
    rw [other (by decide), other (by decide), other (by decide), other (by decide)] at config
    rw [config]
    exact iff_of_true rfl (.inl list)

/-! ## An entry without a value -/

section

variable {text : String}

theorem holdsObject_ofTexts (simple : FileTree.isSimple ".metagen.json" text = true)
    (object : Json.parse text = .ok (.obj members)) :
    HoldsObject (FileTree.ofTexts [(".metagen.json", text)]) {} members := by
  have tried : RepoConfig.LooksUp (FileTree.ofTexts [(".metagen.json", text)]) {}
      RepoConfig.fileNames ".metagen.json" :=
    ⟨[], ["metagen.json"], rfl, List.forall_mem_nil _⟩
  have read := @FileTree.readText_ofTexts [(".metagen.json", text)] _ _ (List.nodup_singleton _)
    List.mem_cons_self simple
  exact ⟨".metagen.json", text, tried, read, object⟩

theorem resolvePath_ofTexts (texts others : List (String × String)) (base : Path)
    (value : String) :
    ScanFlags.resolvePath (FileTree.ofTexts texts) base value =
      ScanFlags.resolvePath (FileTree.ofTexts others) base value := by
  simp only [ScanFlags.resolvePath, FileTree.resolve, FileTree.resolveFrom_ofTexts]

/-- Without flags and without entries for paths, only the default place of the snapshot is asked
for. -/
theorem exists_make_ofTexts {texts : List (String × String)}
    (holds : HoldsObject (FileTree.ofTexts texts) {} members)
    (search : members.lookup "search_paths" = none) (output : members.lookup "output" = none) :
    ∃ plan, make (FileTree.ofTexts texts) {} {} {} = .ok plan := by
  refine (exists_make_iff holds).mpr fun base value asked => ?_
  cases asked with
  | configured entry _ =>
    obtain ⟨_, found, -⟩ := entry
    rw [search] at found
    cases found
  | flagged flag _ =>
    obtain ⟨rfl, filled⟩ := flag
    exact absurd rfl filled
  | output layered =>
    cases layered with
    | flag given => cases given.1
    | entry _ entry =>
      obtain ⟨_, found, -⟩ := entry
      rw [output] at found
      cases found
    | fallback _ _ =>
      have valid : FileTree.isInvalid (({} : Path) / "adapters.yaml") = false := by decide +kernel
      obtain ⟨path, resolved⟩ := FileTree.exists_resolve_ofTexts texts valid
      refine ⟨path, ?_⟩
      rw [ScanFlags.resolvePath, if_neg (by decide +kernel), resolved]

end

theorem not_wellTyped_null (key : String) : ¬WellTyped key .null := by
  intro well
  cases well with
  | text _ text => cases text
  | policy policy =>
    obtain ⟨text, -⟩ := policy
    cases text
  | list _ list => cases list
  | bool bool => cases bool

/-- A configuration with one entry, which has no value. -/
def nullEntry : String := "\x7b\"exclude_globs\": null\x7d"

/-- The JSON value is an object with one entry, which has no value. -/
def isNullEntry : Except Json.ReadError Json → Bool
  | .ok (.obj [(key, .null)]) => key == "exclude_globs"
  | _ => false

theorem eq_of_isNullEntry {outcome : Except Json.ReadError Json}
    (shape : isNullEntry outcome = true) : outcome = .ok (.obj [("exclude_globs", .null)]) := by
  unfold isNullEntry at shape
  split at shape
  · rw [beq_iff_eq.mp shape]
  · cases shape

theorem parse_nullEntry : Json.parse nullEntry = .ok (.obj [("exclude_globs", .null)]) :=
  eq_of_isNullEntry (by decide +kernel)

/-! ## The whole plan -/

/-- The options and the place of the snapshot, if a plan is made. -/
def chosen (tree : FileTree) (workingDir repo : Path) (flags : ScanFlags) :
    Except Fault (ScanOptions × Path) :=
  (make tree workingDir repo flags).map fun plan => (plan.options, plan.output)

theorem chosen_eq (holds : HoldsObject tree repo members) :
    chosen tree workingDir repo flags = choices tree workingDir repo flags (configOf members) := by
  obtain ⟨loaded, same⟩ := make_eq holds workingDir flags
  rw [chosen, same]
  cases choices tree workingDir repo flags (configOf members) <;> rfl

theorem choices_of_resolvePath
    (alike : ∀ base value, ScanFlags.resolvePath other base value =
      ScanFlags.resolvePath tree base value) (config : RepoConfig) :
    choices other workingDir repo flags config = choices tree workingDir repo flags config := by
  have paths (base : Path) : ScanFlags.resolvePaths other base =
      ScanFlags.resolvePaths tree base := by
    funext values
    rw [ScanFlags.resolvePaths, ScanFlags.resolvePaths]
    simp only [alike]
  simp only [choices, ScanFlags.searchPaths, ScanFlags.outputPath, paths, alike]

/-- Where the configuration file holds an object, a plan is made if and only if all values that are
asked for lead to a path; then each option comes from the first of its layers. An entry that is not
well typed leaves everything as it is without the entry, except under a list key: there the options
are other ones, unless a flag takes the place of the entry or there is no plan without it. -/
theorem make_layered (holds : HoldsObject tree repo members) (workingDir : Path)
    (flags : ScanFlags) :
    (∀ plan, make tree workingDir repo flags = .ok plan →
      Layers tree workingDir repo flags members plan) ∧
    ((∃ plan, make tree workingDir repo flags = .ok plan) ↔
      ∀ base value, Asked workingDir repo flags members base value →
        ∃ path, ScanFlags.resolvePath tree base value = .ok path) ∧
    ∀ key value, members.lookup key = some value → ¬WellTyped key value →
      ∀ other, HoldsObject other repo (without members key) →
        (∀ base value, ScanFlags.resolvePath other base value =
          ScanFlags.resolvePath tree base value) →
        (chosen tree workingDir repo flags = chosen other workingDir repo flags ↔
          key ∉ listKeys ∨ FlagGiven flags key ∨
            ∀ c, chosen other workingDir repo flags ≠ .ok c) := by
  refine ⟨fun plan made => layers_of_make holds made, exists_make_iff holds, ?_⟩
  intro key value found ill other holds' alike
  rw [chosen_eq holds, chosen_eq holds', choices_of_resolvePath alike]
  exact choices_without_iff found ill

/-- The entry without a value switches the exclusion of tools off, which an object without entries
leaves on. -/
theorem make_layered_null :
    let off := FileTree.ofTexts [(".metagen.json", nullEntry)]
    let on := FileTree.ofTexts [(".metagen.json", "\x7b\x7d")]
    (∃ plan, make off {} {} {} = .ok plan ∧ plan.options.excludeGlobs = []) ∧
      (∃ plan, make on {} {} {} = .ok plan ∧
        plan.options.excludeGlobs = ["tools/*", "*/tools/*"]) ∧
      chosen off {} {} {} ≠ chosen on {} {} {} := by
  intro off on
  have holds : HoldsObject off {} [("exclude_globs", .null)] :=
    holdsObject_ofTexts (by decide +kernel) parse_nullEntry
  have empty : Json.parse "\x7b\x7d" = .ok (.obj []) := by cbv
  have holds' : HoldsObject on {} [] := holdsObject_ofTexts (by decide +kernel) empty
  obtain ⟨plan, made⟩ := exists_make_ofTexts holds rfl rfl
  obtain ⟨plan', made'⟩ := exists_make_ofTexts holds' rfl rfl
  obtain ⟨layers, -, ill⟩ := make_layered holds {} {}
  obtain ⟨layers', -, -⟩ := make_layered holds' {} {}
  refine ⟨⟨plan, made, ?_⟩, ⟨plan', made', ?_⟩, ?_⟩
  · obtain ⟨globs, layered, all⟩ := (layers plan made).excludeGlobs
    rw [all]
    cases layered with
    | flag given => cases given
    | entry _ given =>
      obtain ⟨_, found, counts⟩ := given
      cases found
      cases counts with
      | listed well => cases well
      | other _ => rfl
    | fallback _ missing => exact absurd ⟨.null, rfl, .other nofun⟩ (missing [])
  · obtain ⟨globs, layered, all⟩ := (layers' plan' made').excludeGlobs
    rw [all]
    cases layered with
    | flag given => cases given
    | entry _ given =>
      obtain ⟨_, found, -⟩ := given
      cases found
    | fallback _ _ => rfl
  · have different := ill "exclude_globs" .null rfl (not_wellTyped_null _) on holds'
      (resolvePath_ofTexts _ _)
    rw [Ne, different]
    rintro (unlisted | ⟨values, l, flag, -⟩ | none)
    · exact unlisted (by decide)
    · simp [listFlags] at flag
    · refine none (plan'.options, plan'.output) ?_
      rw [chosen, made']
      rfl

end Catalog.ScanPlan
