import Catalog.Proofs.Syntax.Atom

/-!
# Patterns are parts of statements

The values inside of patterns are expressions; all else in them are patterns again.
-/

namespace Catalog.Syntax.Parser

open ModuleName (IsComponent)

variable {g : Grammar}

theorem pattern_shaped (sound : Sound g) : Yields (pattern g) (Shaped .part) :=
  .one (sound .pattern)

theorem signedNumber_shaped : Yields signedNumber fun found => Shaped .expression found.1 := by
  refine .after fun info => .after fun negative => .after fun inner => .after fun token => ?_
  split
  · refine .after fun _ => .done ?_
    dsimp only
    split
    · exact .around (.constant _ _)
    · exact .constant _ _
  · exact .fail

theorem numberLiteral_shaped : Yields numberLiteral (Shaped .expression) := by
  refine .after fun info => .bind signedNumber_shaped fun found shaped => ?_
  refine .after fun plus => .after fun minus => .ite ?_ (.done shaped)
  refine .after fun inner => .after fun token => ?_
  split
  · exact .after fun _ => .ite .reject_bind (.done (.binOp shaped (.constant _ _)))
  · exact .fail

theorem literalValue?_shaped (sound : Sound g) :
    Yields (literalValue? g) fun o => ∀ n ∈ o, Shaped .expression n := by
  refine .after fun token => ?_
  split
  · exact .bind numberLiteral_shaped fun value shaped => .found shaped
  · exact .bind numberLiteral_shaped fun value shaped => .found shaped
  · exact .bind (strings_shaped sound) fun value shaped => .found shaped
  · exact .none

theorem dottedRest_shaped (info : Info) {value : Node} (shaped : Shaped .expression value) :
    Yields (dottedRest info value) (Shaped .expression) := by
  refine .iterate (fun n inner => ?_) shaped
  exact .after fun dot => .ite (.after fun label => .found (.attr inner)) .none

theorem captureName_component : Yields captureName IsComponent := by
  refine .after fun wildcard => .ite .fail_bind (.bind .name fun label named => ?_)
  exact .after fun _ => .after fun _ => .after fun _ => .ite .fail_bind (.done named)

theorem starPattern_shaped : Yields starPattern (Shaped .part) := by
  refine .after fun info => .after fun _ => .after fun wildcard => .ite ?_ ?_
  · exact .done (.matchStar _ (by simp))
  · exact .bind captureName_component fun label named => .done (.matchStar _ (by simpa using named))

theorem sequenceItem_shaped (sound : Sound g) : Yields (sequenceItem g) (Shaped .part) :=
  .after fun _ => .ite starPattern_shaped (pattern_shaped sound)

theorem sequenceItems_shaped (sound : Sound g) (closing : String) :
    Yields (sequenceItems g closing) fun found => ∀ n ∈ found.1, Shaped .part n :=
  .after fun _ => .ite (.done (by simp))
    (.commaList (sequenceItem_shaped sound) (sequenceItem_shaped sound))

theorem mappingKey_shaped (sound : Sound g) : Yields (mappingKey g) (Shaped .expression) := by
  refine .after fun info => .after fun single => .ite (.after fun _ => .done (.constant _ _)) ?_
  refine .bind (literalValue?_shaped sound) fun found given => ?_
  split
  · exact .done (given _ rfl)
  · refine .bind .name fun label named => ?_
    refine .bind (dottedRest_shaped info (.load _ named)) fun value shaped => ?_
    split
    · exact .fail
    · exact .done shaped

/-- An item of a mapping is an expression with a part of a statement, or a name. -/
structure PairShaped (item : Node × Node ⊕ String) : Prop where
  pair : ∀ pair, item.getLeft? = some pair → Shaped .expression pair.1 ∧ Shaped .part pair.2
  rest : ∀ label, item.getRight? = some label → IsComponent label

theorem mappingItem_shaped (sound : Sound g) : Yields (mappingItem g) PairShaped := by
  refine .after fun stars => .ite ?_ ?_
  · exact .bind captureName_component fun label named =>
      .done ⟨nofun, fun _ same => Option.some.inj same ▸ named⟩
  refine .bind (mappingKey_shaped sound) fun key first => .after fun _ => ?_
  exact .bind (pattern_shaped sound) fun value second =>
    .done ⟨fun _ same => Option.some.inj same ▸ ⟨first, second⟩, nofun⟩

theorem mappingPattern_shaped (sound : Sound g) (info : Info) :
    Yields (mappingPattern g info) (Shaped .part) := by
  refine .after fun closed => .ite (.done (.matchMapping (by simp) (by simp) (by simp))) ?_
  refine .bind (.commaList (mappingItem_shaped sound) (mappingItem_shaped sound)) ?_
  rintro ⟨items, comma⟩ given
  have pairs : ∀ pair ∈ items.filterMap Sum.getLeft?,
      Shaped .expression pair.1 ∧ Shaped .part pair.2 := by
    intro pair member
    obtain ⟨item, inside, left⟩ := List.mem_filterMap.mp member
    exact (given item inside).pair pair left
  have rest : ∀ label ∈ (items.filterMap Sum.getRight?).head?, IsComponent label := by
    intro label first
    obtain ⟨item, inside, right⟩ := List.mem_filterMap.mp (List.mem_of_head? first)
    exact (given item inside).rest label right
  refine .after fun _ => .ite .reject_bind (.done ?_)
  exact .matchMapping (List.forall_mem_map.mpr fun pair member => (pairs pair member).1)
    (List.forall_mem_map.mpr fun pair member => (pairs pair member).2) rest

theorem classItem_shaped (sound : Sound g) :
    Yields (classItem g) fun item => Shaped .part item.1 := by
  refine .after fun next => .ite (.after fun _ => .after fun _ => ?_) ?_
  · exact .bind (pattern_shaped sound) fun value shaped => .done shaped
  · exact .bind (pattern_shaped sound) fun value shaped => .done shaped

theorem classPattern_shaped (sound : Sound g) (info : Info) {value : Node}
    (shaped : Shaped .expression value) : Yields (classPattern g info value) (Shaped .part) := by
  refine .after fun closed => .ite (.done (.ofExpression (.around shaped))) ?_
  refine .bind (.commaList (classItem_shaped sound) (classItem_shaped sound)) fun found given =>
    .after fun _ => ?_
  refine .ite .reject_bind (.done (.block ?_))
  exact List.forall_mem_cons.mpr ⟨.ofExpression shaped, List.forall_mem_map.mpr given⟩

theorem namePattern_shaped (sound : Sound g) : Yields (namePattern g) (Shaped .part) := by
  refine .after fun info => .bind .name fun label named => ?_
  refine .bind (dottedRest_shaped info (.load _ named)) fun value shaped => .after fun bracket => ?_
  refine .ite (classPattern_shaped sound info shaped) (.after fun equals => .ite .fail_bind ?_)
  split
  · refine .done (.matchAs (by simp) ?_)
    split
    · exact nofun
    · exact fun _ same => Option.some.inj same ▸ named
  · exact .done (.ofExpression (.around shaped))

/-- Items of a sequence, unless the only one has a star. -/
theorem sequence_shaped {info : Info} {items : List Node} (comma : Bool)
    (inner : ∀ n ∈ items, Shaped .part n) :
    Yields (match items, comma with
      | [.matchStar ..], false => reject
      | [item], false => return item
      | _, _ => return .plain info .matchSequence items) (Shaped .part) := by
  split
  · exact .reject
  · exact .done (inner _ List.mem_cons_self)
  · exact .done (.block inner)

theorem closedPattern_shaped (sound : Sound g) : Yields (closedPattern g) (Shaped .part) := by
  refine .after fun info => .after fun single => ?_
  refine .ite (.after fun _ => .done (.block (by simp))) ?_
  refine .bind (literalValue?_shaped sound) fun found given => ?_
  split
  · exact .done (.ofExpression (.around (given _ rfl)))
  refine .after fun square => .ite ?_ <| .after fun round => .ite ?_ ?_
  · exact .bind (sequenceItems_shaped sound _) fun found inner => .after fun _ =>
      .done (.block inner)
  · exact .bind (sequenceItems_shaped sound _) fun found inner => .after fun _ =>
      sequence_shaped found.2 inner
  · exact .after fun brace => .ite (mappingPattern_shaped sound info) (namePattern_shaped sound)

theorem wholePattern_shaped (sound : Sound g) : Yields (wholePattern g) (Shaped .part) := by
  refine .after fun info => .bind (closedPattern_shaped sound) fun first shaped => ?_
  refine .bind (.many (optional_shaped (closedPattern_shaped sound))) fun others inner => ?_
  have value : Shaped .part
      (if others.isEmpty then first else .plain info .matchOr (first :: others)) := by
    split
    · exact shaped
    · exact .block (List.forall_mem_cons.mpr ⟨shaped, inner⟩)
  refine .after fun isAs => .ite ?_ (.done value)
  exact .bind captureName_component fun label named =>
    .done (.matchAs (List.forall_mem_singleton.mpr value) (by simpa using named))

theorem topPattern_shaped (sound : Sound g) : Yields (topPattern g) (Shaped .part) := by
  refine .after fun info => ?_
  exact .bind (.commaList (sequenceItem_shaped sound) (sequenceItem_shaped sound))
    fun found inner => sequence_shaped found.2 inner

end Catalog.Syntax.Parser
