import Catalog.Proofs.FileTree.Write

/-!
# A file at the end of a path

A file that is put at a location changes where paths lead only if they lead to that location. If
what stood there before was a file, nothing, or a link to one of these, then no path led through it;
and if no link leads to the location, then only paths that end with its name lead to it. So a tree
in which the file was put answers every other question as before.
-/

namespace Catalog.FileTree

variable {tree : FileTree} {last : Bool} {links : Nat} {here todo rest : List String}
  {step : String}

/-! ## One name of a path -/

theorem followFrom_up (up : (step == "..") = true) :
    tree.followFrom last links here (step :: rest) =
      tree.followFrom last links here.dropLast rest := by
  rw [followFrom, if_pos up]

theorem followFrom_long (down : ¬(step == "..") = true) (long : maxNameBytes < step.utf8ByteSize) :
    tree.followFrom last links here (step :: rest) = .error .nameTooLong := by
  rw [followFrom, if_neg down, if_pos long]

section

variable (down : ¬(step == "..") = true) (short : ¬maxNameBytes < step.utf8ByteSize)
include down short

theorem followFrom_none (found : tree.find? (here ++ [step]) = none) :
    tree.followFrom last links here (step :: rest) =
      if rest.isEmpty then .ok (here ++ [step], none) else .error .notFound := by
  rw [followFrom, if_neg down, if_neg short, found]

theorem followFrom_leaf {entry : Entry} (leaf : leadsOn (some entry) = false)
    (found : tree.find? (here ++ [step]) = some entry) :
    tree.followFrom last links here (step :: rest) =
      if rest.isEmpty then .ok (here ++ [step], some entry) else .error .notDirectory := by
  rw [followFrom, if_neg down, if_neg short, found]
  cases entry with
  | file | special => rfl
  | dir | link => cases leaf

theorem followFrom_dir (found : tree.find? (here ++ [step]) = some .dir) :
    tree.followFrom last links here (step :: rest) =
      tree.followFrom last links (here ++ [step]) rest := by
  rw [followFrom, if_neg down, if_neg short, found]

variable {target : String} (found : tree.find? (here ++ [step]) = some (.link target))
include found

theorem followFrom_link_kept (kept : (rest.isEmpty && !last) = true) :
    tree.followFrom last links here (step :: rest) =
      .ok (here ++ [step], some (.link target)) := by
  rw [followFrom, if_neg down, if_neg short, found]
  exact if_pos kept

variable (taken : ¬(rest.isEmpty && !last) = true)
include taken

theorem followFrom_link_zero :
    tree.followFrom last 0 here (step :: rest) = .error .tooManyLinks := by
  rw [followFrom, if_neg down, if_neg short, found]
  exact if_neg taken

theorem followFrom_link_succ :
    tree.followFrom last (links + 1) here (step :: rest) =
      tree.followFrom last links (if (Path.ofString target).isAbsolute then [] else here)
        ((Path.ofString target).parts ++ rest) := by
  rw [followFrom, if_neg down, if_neg short, found]
  exact if_neg taken

end

/-! ## Links to spare -/

/-- More links to spare lead a path elsewhere only if it ran out of them. -/
theorem followFrom_mono (links : Nat) (here todo : List String) :
    ∀ more, links ≤ more → tree.followFrom last links here todo = .error .tooManyLinks ∨
      tree.followFrom last more here todo = tree.followFrom last links here todo := by
  fun_induction followFrom tree last links here todo with
  | case1 => exact fun more _ => .inr (by rw [followFrom])
  | case2 links here step rest up ih =>
    intro more spare
    rw [followFrom_up up]
    exact ih more spare
  | case3 links here step rest down long =>
    exact fun more _ => .inr (followFrom_long down long)
  | case4 links here step rest down short missing done =>
    exact fun more _ => .inr (by rw [followFrom_none down short missing, if_pos done])
  | case5 links here step rest down short missing more =>
    exact fun _ _ => .inr (by rw [followFrom_none down short missing, if_neg more])
  | case6 links here step rest down short dir ih =>
    intro more spare
    rw [followFrom_dir down short dir]
    exact ih more spare
  | case7 links here step rest down short target link kept =>
    exact fun _ _ => .inr (followFrom_link_kept down short link kept)
  | case8 => exact fun _ _ => .inl rfl
  | case9 here step rest down short target link taken links path ih =>
    intro more spare
    obtain ⟨more, rfl⟩ : ∃ k, more = k + 1 := ⟨more - 1, by omega⟩
    rw [followFrom_link_succ down short link taken]
    apply ih
    omega
  | case10 links here step rest down short entry notDir notLink found done =>
    have leaf := leadsOn_leaf notDir notLink
    exact fun _ _ => .inr (by rw [followFrom_leaf down short leaf found, if_pos done])
  | case11 links here step rest down short entry notDir notLink found more =>
    have leaf := leadsOn_leaf notDir notLink
    exact fun _ _ => .inr (by rw [followFrom_leaf down short leaf found, if_neg more])

/-! ## Dead ends -/

/-- The errors of a path that leads nowhere. -/
def Nowhere (e : SystemError) : Prop :=
  e = .notFound ∨ e = .notDirectory ∨ e = .tooManyLinks

/-- The path ends at nothing or at an entry that leads no further, or it leads nowhere. No path
leads on from there. -/
inductive Blind : Except SystemError (List String × Option Entry) → Prop
  | ends (location : List String) {found : Option Entry} (stops : leadsOn found = false) :
    Blind (.ok (location, found))
  | nowhere {e : SystemError} (nowhere : Nowhere e) : Blind (.error e)

/-- Names after a dead end lead nowhere. -/
theorem nowhere_of_blind (more : rest ≠ []) (walked : tree.Walked here)
    (blind : Blind (tree.followFrom true links here todo)) (last : Bool) :
    ∃ e, Nowhere e ∧ tree.followFrom last links here (todo ++ rest) = .error e := by
  have further {names : List String} : ¬(names ++ rest).isEmpty = true := by
    simp [more]
  generalize followed : true = always at blind
  fun_induction followFrom tree always links here todo with
  | case1 links here =>
    rw [walked here List.prefix_rfl] at blind
    cases blind with
    | ends _ stops => cases stops
  | case2 links here step names up ih =>
    rw [List.cons_append, followFrom_up up]
    exact ih walked.dropLast blind
  | case3 =>
    cases blind with
    | nowhere h => rcases h with h | h | h <;> cases h
  | case4 links here step names down short missing _
  | case5 links here step names down short missing _ =>
    rw [List.cons_append, followFrom_none down short missing, if_neg further]
    exact ⟨_, .inl rfl, rfl⟩
  | case6 links here step names down short dir ih =>
    rw [List.cons_append, followFrom_dir down short dir]
    exact ih (walked.concat dir) blind
  | case10 links here step names down short entry notDir notLink found _
  | case11 links here step names down short entry notDir notLink found _ =>
    rw [List.cons_append, followFrom_leaf down short (leadsOn_leaf notDir notLink) found,
      if_neg further]
    exact ⟨_, .inr (.inl rfl), rfl⟩
  | case7 =>
    cases blind with
    | ends _ stops => cases stops
  | case8 here step names down short target link _ =>
    rw [List.cons_append, followFrom_link_zero down short link (by simp [more])]
    exact ⟨_, .inr (.inr rfl), rfl⟩
  | case9 here step names down short target link _ links path ih =>
    rw [List.cons_append, followFrom_link_succ down short link (by simp [more]),
      ← List.append_assoc]
    refine ih ?_ blind
    split
    · exact walked_root tree
    · exact walked

/-- A path that ends at an entry of its last name goes through the directory of that entry. -/
theorem followFrom_ends {dir : List String} {name : String} {found : Option Entry}
    (walked : tree.Walked here) (notDir : found ≠ some .dir)
    (leads : tree.followFrom false links here todo = .ok (dir ++ [name], found)) :
    (¬(name == "..") = true) ∧ (¬maxNameBytes < name.utf8ByteSize) ∧
      ∃ left, tree.followFrom true links here todo = tree.followFrom true left dir [name] := by
  have stop {links : Nat} {here rest : List String} {step : String} {entry : Option Entry}
      (down : ¬(step == "..") = true) (short : ¬maxNameBytes < step.utf8ByteSize)
      (done : rest.isEmpty = true)
      (leads : (.ok (here ++ [step], entry) : Except SystemError _) = .ok (dir ++ [name], found)) :
      (¬(name == "..") = true) ∧ (¬maxNameBytes < name.utf8ByteSize) ∧
        ∃ left, tree.followFrom true links here (step :: rest) =
          tree.followFrom true left dir [name] := by
    obtain rfl := List.isEmpty_iff.mp done
    obtain ⟨same, -⟩ := Prod.mk.inj (Except.ok.inj leads)
    obtain ⟨rfl, steps⟩ := List.append_inj' same rfl
    obtain rfl := List.singleton_inj.mp steps
    exact ⟨down, short, links, rfl⟩
  generalize unfollowed : false = last at leads
  fun_induction followFrom tree last links here todo with
  | case1 links here =>
    cases leads
    exact absurd (walked _ List.prefix_rfl) notDir
  | case2 links here step rest up ih =>
    rw [followFrom_up up]
    exact ih walked.dropLast leads
  | case6 links here step rest down short isDir ih =>
    rw [followFrom_dir down short isDir]
    exact ih (walked.concat isDir) leads
  | case9 here step rest down short target link taken links path ih =>
    have more : ¬(rest.isEmpty && !true) = true := by simp
    rw [followFrom_link_succ down short link more]
    refine ih ?_ leads
    split
    · exact walked_root tree
    · exact walked
  | case4 | case10 => exact stop ‹_› ‹_› ‹_› leads
  | case7 links here step rest down short target link kept =>
    exact stop down short (Bool.and_eq_true_iff.mp kept).1 leads
  | case3 | case5 | case8 | case11 => cases leads

/-- What a path leads to, where it leads to no directory, is a dead end for every path. -/
theorem blind_of_leads {path : Path} {dir : List String} {name : String} {found : Option Entry}
    (leads : tree.follow false path = .ok (dir ++ [name], found)) (notDir : found ≠ some .dir)
    (ends : Blind (tree.follow true path)) (enough : tree.follow true path ≠ .error .tooManyLinks)
    (links : Nat) : Blind (tree.followFrom true links dir [name]) := by
  obtain ⟨fits, leads⟩ := follow_eq_ok_iff.mp leads
  rw [fits.follow] at ends enough
  obtain ⟨-, -, left, same⟩ := followFrom_ends (walked_root tree) notDir leads
  rw [same] at ends enough
  by_cases spare : left ≤ links
  · have kept := (followFrom_mono left dir [name] links spare).resolve_left enough
    exact kept ▸ ends
  · rcases followFrom_mono links dir [name] left (by omega) with ranOut | kept
    · exact ranOut ▸ .nowhere (.inr (.inr rfl))
    · exact kept ▸ ends

/-! ## A file that is put at a dead end -/

/-- Where a link at a location leads, if a link at the end of its target is not followed. -/
def destination (tree : FileTree) (location : List String) (target : String) :
    Except SystemError (List String × Option Entry) :=
  tree.followFrom false maxLinks
    (if (Path.ofString target).isAbsolute then [] else location.dropLast)
    (Path.ofString target).parts

/-- The tree `after` is the tree `before` with a file at a location that was a dead end and to which
no link leads. -/
structure Fills (before after : FileTree) (dir : List String) (name : String)
    (bytes : ByteArray) : Prop where
  changed : ∀ l, after.find? l =
    if l = dir ++ [name] then some (.file bytes) else before.find? l
  notDir : before.find? (dir ++ [name]) ≠ some .dir
  blind : ∀ links, Blind (before.followFrom true links dir [name])
  unlinked : ∀ l target found, before.find? l = some (.link target) →
    before.destination l target ≠ .ok (dir ++ [name], found)

namespace Fills

variable {before after : FileTree} {dir : List String} {name : String} {bytes : ByteArray}

theorem find?_eq (fills : before.Fills after dir name bytes) {l : List String}
    (other : l ≠ dir ++ [name]) : after.find? l = before.find? l := by
  rw [fills.changed, if_neg other]

theorem ne_of_walked (fills : before.Fills after dir name bytes) {l : List String}
    (isDir : before.find? l = some .dir) : l ≠ dir ++ [name] := by
  rintro rfl
  exact fills.notDir isDir

/-- The outcome of following a path before and after. It is the same; or the path led nowhere and
still does; or it leads to the new file. In the last case `own`, the outcome before if a link at the
end is not followed, is the location of the file; and it was a dead end. -/
def Kept (location : List String) (bytes : ByteArray) (last : Bool)
    (own outcome outcome' : Except SystemError (List String × Option Entry)) : Prop :=
  outcome' = outcome ∨
  (∃ e, Nowhere e ∧ outcome = .error e ∧ outcome' = .error .notDirectory) ∨
  (outcome' = .ok (location, some (.file bytes)) ∧ (∃ found, own = .ok (location, found)) ∧
    (last = true → Blind outcome))

/-- At the location of the new file a path ends or leads nowhere, before and after. -/
theorem kept_at (fills : before.Fills after dir name bytes) (walked : before.Walked dir)
    (down : ¬(name == "..") = true) (short : ¬maxNameBytes < name.utf8ByteSize) :
    Kept (dir ++ [name]) bytes last (before.followFrom false links dir (name :: rest))
      (before.followFrom last links dir (name :: rest))
      (after.followFrom last links dir (name :: rest)) := by
  have file : after.find? (dir ++ [name]) = some (.file bytes) := by
    rw [fills.changed, if_pos rfl]
  rw [followFrom_leaf down short rfl file]
  by_cases done : rest = []
  · subst done
    refine .inr (.inr ⟨rfl, ⟨before.find? (dir ++ [name]), ?_⟩, ?_⟩)
    · cases found : before.find? (dir ++ [name]) with
      | none => exact followFrom_none down short found
      | some entry =>
        cases entry with
        | dir => exact absurd found fills.notDir
        | file content => exact followFrom_leaf down short rfl found
        | special => exact followFrom_leaf down short rfl found
        | link target => exact followFrom_link_kept down short found rfl
    · rintro rfl
      exact fills.blind links
  · obtain ⟨e, nowhere, led⟩ := nowhere_of_blind done walked (fills.blind links) last
    refine .inr (.inl ⟨e, nowhere, led, ?_⟩)
    rw [if_neg (by simpa using done)]

/-- A step of a path is one to the location of the new file, or one to an entry that is kept. -/
theorem kept_of_off (fills : before.Fills after dir name bytes) (walked : before.Walked here)
    (down : ¬(step == "..") = true) (short : ¬maxNameBytes < step.utf8ByteSize)
    (off : after.find? (here ++ [step]) = before.find? (here ++ [step]) →
      Kept (dir ++ [name]) bytes last (before.followFrom false links here (step :: rest))
        (before.followFrom last links here (step :: rest))
        (after.followFrom last links here (step :: rest))) :
    Kept (dir ++ [name]) bytes last (before.followFrom false links here (step :: rest))
      (before.followFrom last links here (step :: rest))
      (after.followFrom last links here (step :: rest)) := by
  by_cases same : here ++ [step] = dir ++ [name]
  · obtain ⟨rfl, steps⟩ := List.append_inj' same rfl
    obtain rfl := List.singleton_inj.mp steps
    exact fills.kept_at walked down short
  · exact off (fills.find?_eq same)

/-- No link leads to the new file. -/
theorem not_led (fills : before.Fills after dir name bytes) (few : links ≤ maxLinks)
    {step target : String} (link : before.find? (here ++ [step]) = some (.link target))
    (found : Option Entry) :
    before.followFrom false links (if (Path.ofString target).isAbsolute then [] else here)
      (Path.ofString target).parts ≠ .ok (dir ++ [name], found) := by
  intro leads
  apply fills.unlinked (here ++ [step]) target found link
  rw [destination, List.dropLast_concat]
  rcases followFrom_mono links _ _ maxLinks few with ranOut | same
  · rw [leads] at ranOut
    cases ranOut
  · rw [same, leads]

theorem kept (fills : before.Fills after dir name bytes) (few : links ≤ maxLinks)
    (walked : before.Walked here) (last : Bool) :
    Kept (dir ++ [name]) bytes last (before.followFrom false links here todo)
      (before.followFrom last links here todo) (after.followFrom last links here todo) := by
  induction links, here, todo using followFrom.induct before last with
  | case1 links here =>
    have isDir := walked here List.prefix_rfl
    refine .inl ?_
    rw [FileTree.followFrom, FileTree.followFrom, fills.find?_eq (fills.ne_of_walked isDir)]
  | case2 links here step rest up ih =>
    rw [followFrom_up up, followFrom_up up, followFrom_up up]
    exact ih few walked.dropLast
  | case3 links here step rest down long =>
    exact .inl (by rw [followFrom_long down long, followFrom_long down long])
  | case4 links here step rest down short missing | case5 links here step rest down short missing =>
    refine fills.kept_of_off walked down short fun same => .inl ?_
    rw [followFrom_none down short missing, followFrom_none down short (same.trans missing)]
  | case6 links here step rest down short isDir ih =>
    refine fills.kept_of_off walked down short fun same => ?_
    rw [followFrom_dir down short isDir, followFrom_dir down short isDir,
      followFrom_dir down short (same.trans isDir)]
    exact ih few (walked.concat isDir)
  | case10 links here step rest down short entry notDir notLink found
  | case11 links here step rest down short entry notDir notLink found =>
    have leaf := leadsOn_leaf notDir notLink
    refine fills.kept_of_off walked down short fun same => .inl ?_
    rw [followFrom_leaf down short leaf found, followFrom_leaf down short leaf (same.trans found)]
  | case7 links here step rest down short target link kept =>
    refine fills.kept_of_off walked down short fun same => .inl ?_
    rw [followFrom_link_kept down short link kept,
      followFrom_link_kept down short (same.trans link) kept]
  | case8 here step rest down short target link taken =>
    refine fills.kept_of_off walked down short fun same => .inl ?_
    rw [followFrom_link_zero down short link taken,
      followFrom_link_zero down short (same.trans link) taken]
  | case9 here step rest down short target link taken links path ih =>
    refine fills.kept_of_off walked down short fun same => ?_
    rw [followFrom_link_succ down short link taken,
      followFrom_link_succ down short (same.trans link) taken]
    have base : before.Walked (if path.isAbsolute then [] else here) := by
      split
      · exact walked_root before
      · exact walked
    by_cases done : rest = []
    -- The link is the last name, so its target would lead to the new file.
    · subst done
      rcases ih (by omega) base with same | nowhere | ⟨_, ⟨found, leads⟩, _⟩
      · exact .inl same
      · exact .inr (.inl nowhere)
      · rw [List.append_nil] at leads
        exact absurd leads (fills.not_led (by omega) link found)
    · rw [followFrom_link_succ down short link (by simp [done])]
      exact ih (by omega) base

/-! ## Questions about paths -/

theorem follow (fills : before.Fills after dir name bytes) (last : Bool) (path : Path) :
    Kept (dir ++ [name]) bytes last (before.follow false path) (before.follow last path)
      (after.follow last path) := by
  by_cases fits : Fits path
  · rw [fits.follow, fits.follow, fits.follow]
    exact fills.kept le_rfl (walked_root before) last
  · obtain ⟨e, refused⟩ := follow_of_not_fits fits
    rw [refused, refused, refused]
    exact .inl rfl

/-- What a path led to and still leads to, if not to the new file. -/
def SameStat (stat stat' : Except SystemError (List String × Entry)) : Prop :=
  stat' = stat ∨ ∃ e, Nowhere e ∧ stat = .error e ∧ stat' = .error .notDirectory

theorem sameStat_or (fills : before.Fills after dir name bytes) (path : Path) :
    SameStat (before.stat path) (after.stat path) ∨
    (after.stat path = .ok (dir ++ [name], .file bytes) ∧ Blind (before.follow true path) ∧
      ∃ found, before.follow false path = .ok (dir ++ [name], found)) := by
  rw [stat, stat]
  rcases fills.follow true path with same | ⟨e, nowhere, led, leads⟩ | ⟨leads, own, blind⟩
  · exact .inl (.inl (by rw [same]))
  · exact .inl (.inr ⟨e, nowhere, by rw [led], by rw [leads]⟩)
  · exact .inr ⟨by rw [leads], blind rfl, own⟩

/-- A path with another last name leads where it led, or still nowhere. -/
theorem sameStat (fills : before.Fills after dir name bytes) {path : Path}
    (other : path.name ≠ name) : SameStat (before.stat path) (after.stat path) := by
  refine (fills.sameStat_or path).resolve_right ?_
  rintro ⟨-, -, found, own⟩
  have entry : found ≠ some .dir :=
    entry_of_followFrom (follow_eq_ok_iff.mp own).2 ▸ fills.notDir
  obtain ⟨above, named⟩ := ends_in_own_name own entry
  exact other (List.singleton_inj.mp (List.append_inj' named rfl).2).symm

theorem isFile (fills : before.Fills after dir name bytes) {path : Path}
    (other : path.name ≠ name) : after.isFile path = before.isFile path := by
  rw [FileTree.isFile, FileTree.isFile, test, test]
  rcases fills.sameStat other with same | ⟨e, nowhere, led, leads⟩
  · rw [same]
  · rw [led, leads]
    rcases nowhere with rfl | rfl | rfl <;> rfl

theorem readText (fills : before.Fills after dir name bytes) {path : Path}
    (other : path.name ≠ name) :
    after.readText path = before.readText path ∨
      ∃ e, Nowhere e ∧ before.readText path = .error (.system e) ∧
        after.readText path = .error (.system .notDirectory) := by
  rw [FileTree.readText, FileTree.readText]
  rcases fills.sameStat other with same | ⟨e, nowhere, led, leads⟩
  · exact .inl (by rw [same])
  · exact .inr ⟨e, nowhere, by rw [led], by rw [leads]⟩

/-- A path leads to a directory exactly if it did so before. -/
theorem stat_dir (fills : before.Fills after dir name bytes) {path : Path} {l : List String} :
    after.stat path = .ok (l, .dir) ↔ before.stat path = .ok (l, .dir) := by
  rcases fills.sameStat_or path with (same | ⟨e, _, led, leads⟩) | ⟨leads, blind, _⟩
  · rw [same]
  · rw [led, leads]
    simp
  · rw [leads, stat]
    generalize before.follow true path = outcome at blind
    cases blind with
    | @ends _ found stops =>
      cases found with
      | none => simp
      | some entry =>
        cases entry with
        | file | special => simp
        | dir | link => cases stops
    | nowhere => simp

theorem isDir (fills : before.Fills after dir name bytes) (path : Path) :
    after.isDir path = before.isDir path := by
  rw [FileTree.isDir, FileTree.isDir, test, test]
  rcases fills.sameStat_or path with (same | ⟨e, nowhere, led, leads⟩) | ⟨leads, blind, _⟩
  · rw [same]
  · rw [led, leads]
    rcases nowhere with rfl | rfl | rfl <;> rfl
  · rw [leads, stat]
    generalize before.follow true path = outcome at blind
    cases blind with
    | @ends _ found stops =>
      cases found with
      | none => rfl
      | some entry =>
        cases entry with
        | file | special => rfl
        | dir | link => cases stops
    | nowhere e => rcases e with rfl | rfl | rfl <;> rfl

end Fills

end Catalog.FileTree
