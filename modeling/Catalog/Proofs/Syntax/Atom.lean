import Catalog.Proofs.Syntax.Expression

/-!
# Atoms and what follows them

Arguments, parameters and what stands in brackets are gathered in loops; what was gathered so far
is shaped at every turn. With atoms and their trailers the rules for whole expressions are sound.
-/

namespace Catalog.Syntax.Parser

variable {g : Grammar} {primary : Parser Node}

/-! ## Arguments and subscripts -/

/-- The arguments read so far are those of a call. -/
structure CallArguments.Shaped (found : CallArguments) : Prop where
  args : ∀ n ∈ found.args, Syntax.Shaped .expression n
  keywords : ∀ n ∈ found.keywords, Syntax.Shaped .keyword n

theorem CallArguments.Shaped.empty : CallArguments.Shaped {} := ⟨by simp, by simp⟩

theorem CallArguments.Shaped.withValue {found : CallArguments} (given : found.Shaped) {n : Node}
    (shaped : Syntax.Shaped .expression n) : (found.withValue n).Shaped where
  args := List.forall_mem_append.mpr ⟨given.args, List.forall_mem_singleton.mpr shaped⟩
  keywords := given.keywords

theorem CallArguments.Shaped.withKeyword {found : CallArguments} (given : found.Shaped) {n : Node}
    {phase : ArgumentPhase} (shaped : Syntax.Shaped .keyword n) :
    (found.withKeyword phase n).Shaped where
  args := given.args
  keywords := List.forall_mem_append.mpr ⟨given.keywords, List.forall_mem_singleton.mpr shaped⟩

theorem callArgument_shaped (sound : Sound g) (depth : Nat) {found : CallArguments}
    (given : found.Shaped) : Yields (callArgument g depth found) CallArguments.Shaped := by
  have value := expression_shaped sound
  refine .after fun info => .after fun star => .ite ?_ <| .after fun stars => .ite ?_ <|
    .after fun equals => .ite ?_ ?_
  · refine .ite .fail_bind <| .after fun _ => ?_
    exact .bind value.inside fun n shaped => .done (given.withValue (.around shaped))
  · exact .bind value.inside fun n shaped => .done (given.withKeyword (.keyword shaped))
  · exact .after fun label => .after fun _ => .bind value.inside fun n shaped =>
      .done (given.withKeyword (.keyword shaped))
  · refine .ite ?_ (.after fun _ => .fail)
    exact .bind (namedExpression_shaped sound).inside fun n shaped => .after fun isEq =>
      .ite .fail_bind (.done (given.withValue shaped))

/-- The arguments after the first one. -/
theorem laterArguments_shaped (sound : Sound g) {first : CallArguments} (given : first.Shaped) :
    Yields (do
      let (found, _) ← iterate
        (fun ((found, done) : CallArguments × Bool) => do
          if done then return none
          else if ← acceptOp ")" then return some (found, true)
          else
            expectOp ","
            if ← acceptOp ")" then return some (found, true)
            else return some (← callArgument g 7 found, false))
        (first, false)
      return found) CallArguments.Shaped := by
  refine .bind (P := fun s : CallArguments × Bool => s.1.Shaped) (.iterate ?_ given)
    fun s last => .done last
  rintro ⟨found, done⟩ sofar
  dsimp only
  split
  · exact .none
  refine .after fun closed => ?_
  split
  · exact .found sofar
  refine .after fun _ => .after fun closed => ?_
  split
  · exact .found sofar
  · exact .bind (callArgument_shaped sound 7 sofar) fun more shaped => .found shaped

theorem callArguments_shaped (sound : Sound g) (each : Yields primary (Shaped .expression))
    (start : Info) (comprehension : Bool) :
    Yields (callArguments g primary start comprehension) CallArguments.Shaped := by
  -- the same follows, whether a comprehension was looked for or not
  suffices rest : Yields _ CallArguments.Shaped from .ite (.after fun _ => rest) rest
  refine .after fun closed => .ite (.done .empty) ?_
  refine .bind (callArgument_shaped sound _ .empty) fun first given => ?_
  have later := laterArguments_shaped sound given
  dsimp only
  split
  · rename_i value single
    refine .after fun follows => .ite ?_ later
    refine .bind (comprehensionClauses_shaped sound each).inside fun clauses shaped =>
      .after fun _ => ?_
    have elements : ∀ n ∈ [value], Shaped .expression n := single ▸ given.args
    exact .done ⟨List.forall_mem_singleton.mpr (.comprehension elements shaped), by simp⟩
  · exact later

theorem sliceBound_shaped (sound : Sound g) :
    Yields (sliceBound g) fun ns => ∀ n ∈ ns, Shaped .expression n := by
  refine .after fun kind => .ite ?_ (.done (by simp))
  exact .bind (expression_shaped sound) fun n shaped =>
    .done (List.forall_mem_singleton.mpr shaped)

theorem sliceTail_shaped (sound : Sound g) :
    Yields (sliceTail g) fun ns => ∀ n ∈ ns, Shaped .expression n := by
  have bound := sliceBound_shaped sound
  refine .bind bound.inside fun upper first => .after fun colon => ?_
  split
  · exact .bind bound.inside fun step second =>
      .done (List.forall_mem_append.mpr ⟨first, second⟩)
  · exact .done first

theorem sliceItem_shaped (sound : Sound g) (depth : Nat) :
    Yields (sliceItem g depth) (Shaped .expression) := by
  refine .after fun info => .after fun star => ?_
  split
  · exact .bind (expression_shaped sound).inside fun n shaped => .done (.around shaped)
  refine .after fun colon => ?_
  split
  · exact .bind (sliceTail_shaped sound) fun parts inner => .done (.compound inner)
  refine .after fun named => ?_
  split
  · exact (namedExpression_shaped sound).inside
  refine .bind (namedExpression_shaped sound) fun lower shaped => .after fun colon => ?_
  split
  · exact .bind (sliceTail_shaped sound) fun parts inner =>
      .done (.compound (List.forall_mem_cons.mpr ⟨shaped, inner⟩))
  · exact .done shaped

theorem slices_shaped (sound : Sound g) : Yields (slices g) (Shaped .expression) := by
  refine .after fun info => .bind
    (.commaList (sliceItem_shaped sound 3).inside (sliceItem_shaped sound 1).inside) ?_
  rintro ⟨items, comma⟩ inner
  refine .after fun _ => ?_
  split
  · split
    · exact .done (.compound inner)
    · exact .done (inner _ List.mem_cons_self)
  · exact .done (.compound inner)

/-! ## Parameters -/

/-- What was read of a list of parameters is one. -/
def Parameters.Shaped (p : Parameters) : Prop :=
  Syntax.Shaped .arguments p.node

theorem Parameters.Shaped.empty : Parameters.Shaped {} := .arguments (by simp) (by simp)

namespace Parameters.Shaped

variable {p : Parameters}

theorem slash (given : p.Shaped) :
    Parameters.Shaped { p with slash := true, posonly := p.args, args := [] } := by
  cases given with
  | arguments parameters values =>
    refine .arguments (fun n member => parameters n ?_) values
    grind

theorem vararg {n : Node} (given : p.Shaped) (shaped : Syntax.Shaped .parameter n) :
    Parameters.Shaped { p with star := true, vararg := some n } := by
  cases given with
  | arguments parameters values =>
    refine .arguments (fun k member => ?_) values
    grind

theorem kwarg {n : Node} (given : p.Shaped) (shaped : Syntax.Shaped .parameter n) :
    Parameters.Shaped { p with kwarg := some n } := by
  cases given with
  | arguments parameters values =>
    refine .arguments (fun k member => ?_) values
    grind

theorem kwonly {n : Node} {default : Option Node} (given : p.Shaped)
    (shaped : Syntax.Shaped .parameter n)
    (value : ∀ k ∈ default.toList, Syntax.Shaped .expression k) :
    Parameters.Shaped { p with
      lone := false, kwonly := p.kwonly ++ [n], kwDefaults := p.kwDefaults ++ default.toList } := by
  cases given with
  | arguments parameters values =>
    refine .arguments (fun k member => ?_) (fun k member => ?_)
    · grind
    · grind

theorem arg {n : Node} {default : Option Node} (given : p.Shaped)
    (shaped : Syntax.Shaped .parameter n)
    (value : ∀ k ∈ default.toList, Syntax.Shaped .expression k) :
    Parameters.Shaped { p with
      args := p.args ++ [n], defaults := p.defaults ++ default.toList } := by
  cases given with
  | arguments parameters values =>
    refine .arguments (fun k member => ?_) (fun k member => ?_)
    · grind
    · grind

end Parameters.Shaped

theorem parameterHint_shaped (sound : Sound g) (star : Bool) :
    Yields (parameterHint g star) (Shaped .expression) :=
  .after fun _ => .ite (starExpression_shaped sound) (expression_shaped sound)

theorem parameter_shaped (sound : Sound g) (hints star : Bool) (depth : Nat) :
    Yields (parameter g hints star depth) (Shaped .parameter) := by
  refine .after fun info => .bind .name fun label named => ?_
  have bare : Yields (pure (.arg info label none)) (Shaped .parameter) :=
    .done (.parameter (by simp) named)
  refine .ite (.after fun colon => .ite ?_ bare) bare
  exact .bind (parameterHint_shaped sound star).inside fun hint shaped =>
    .done (.parameter (List.forall_mem_singleton.mpr shaped) named)

theorem parameterItem_shaped (sound : Sound g) (hints : Bool) {p : Parameters} (given : p.Shaped) :
    Yields (parameterItem g hints p) Parameters.Shaped := by
  refine .after fun slash => .ite ?_ <| .after fun star => .ite ?_ <| .after fun stars => .ite ?_ ?_
  · exact .ite .fail_bind (.after fun _ => .done given.slash)
  · refine .ite .fail_bind <| .after fun _ => .after fun comma => .ite (.done given) ?_
    exact .bind (parameter_shaped sound hints true 7) fun n shaped => .done (given.vararg shaped)
  · refine .ite .fail_bind <| .after fun _ => ?_
    exact .bind (parameter_shaped sound hints false 8) fun n shaped => .done (given.kwarg shaped)
  · refine .bind (parameter_shaped sound hints false _) fun n shaped => ?_
    have item (default : Option Node) (value : ∀ k ∈ default.toList, Shaped .expression k) :
        Yields (
          if p.star then
            return { p with
              lone := false, kwonly := p.kwonly ++ [n],
              kwDefaults := p.kwDefaults ++ default.toList }
          else if default.isNone && !p.defaults.isEmpty then fail
          else return { p with args := p.args ++ [n], defaults := p.defaults ++ default.toList })
          Parameters.Shaped :=
      .ite (.done (given.kwonly shaped value)) (.ite .fail (.done (given.arg shaped value)))
    refine .after fun equals => .ite ?_ (item none (by simp))
    exact .bind (expression_shaped sound).inside fun k value =>
      item (some k) (List.forall_mem_singleton.mpr value)

theorem parameters_shaped (sound : Sound g) (hints : Bool) (ending : String) :
    Yields (parameters g hints ending) (Shaped .arguments) := by
  refine .after fun ended => .ite (.done Parameters.Shaped.empty) ?_
  refine .bind (parameterItem_shaped sound hints .empty) fun first given => ?_
  refine .bind (P := fun s : Parameters × Bool => s.1.Shaped) (.iterate ?_ given) ?_
  · rintro ⟨p, done⟩ sofar
    refine .ite .none <| .after fun ended => .ite (.found sofar) <| .after fun _ => ?_
    refine .after fun ended => .ite (.found sofar) (.ite .fail ?_)
    exact .bind (parameterItem_shaped sound hints sofar) fun next shaped => .found shaped
  · rintro ⟨p, done⟩ last
    exact .ite .fail_bind (.done last)

/-! ## Atoms -/

/-- Items after a first one, in the brackets of a tuple, a list or a set. -/
theorem display_shaped (sound : Sound g) {kind : Kind} {info : Info} {close : String} {first : Node}
    {second third : Nat} (shaped : Shaped .expression first) :
    Yields (do
      let (more, _) ←
        commaList (inside second (starNamed g)) (inside third (starNamed g)) (atOp close)
      expectOp close
      return .plain info kind (first :: more)) (Shaped .expression) := by
  have item := starNamed_shaped sound
  refine .bind (.commaList item.inside item.inside) fun found inner => ?_
  refine .after fun _ => ?_
  exact .done (.compound (List.forall_mem_cons.mpr ⟨shaped, inner⟩))

/-- A comprehension after its values. -/
theorem clauses_shaped (sound : Sound g) (each : Yields primary (Shaped .expression))
    {kind : ComprehensionKind} {info : Info} {close : String} {values : List Node}
    (shaped : ∀ n ∈ values, Shaped .expression n) :
    Yields (do
      let clauses ← inside 2 (comprehensionClauses g primary)
      expectOp close
      return .comprehension info kind values clauses) (Shaped .expression) := by
  refine .bind (comprehensionClauses_shaped sound each).inside fun clauses inner => ?_
  exact .after fun _ => .done (.comprehension shaped inner)

theorem bracketed_shaped (sound : Sound g) (each : Yields primary (Shaped .expression))
    (info : Info) : Yields (bracketed g primary info) (Shaped .expression) := by
  refine .after fun _ => .after fun closed => .ite (.done (.compound (by simp))) ?_
  refine .after fun yields => .ite ?_ ?_
  · exact .bind (yieldExpression_shaped sound).inside fun value shaped =>
      .after fun _ => .done shaped
  refine .after fun star => .bind (starNamed_shaped sound).inside fun first shaped => ?_
  have values := List.forall_mem_singleton.mpr shaped
  refine .after fun follows => .ite (clauses_shaped sound each values) ?_
  refine .after fun comma => .ite ?_ (.ite .fail_bind (.after fun _ => .done shaped))
  exact .after fun closed => .ite (.done (.around shaped)) (display_shaped sound shaped)

theorem listDisplay_shaped (sound : Sound g) (each : Yields primary (Shaped .expression))
    (info : Info) : Yields (listDisplay g primary info) (Shaped .expression) := by
  refine .after fun _ => .after fun closed => .ite (.done (.compound (by simp))) ?_
  refine .after fun star => .bind (starNamed_shaped sound).inside fun first shaped => ?_
  have values := List.forall_mem_singleton.mpr shaped
  refine .after fun follows => .ite (clauses_shaped sound each values) ?_
  refine .after fun comma => .ite ?_ (.after fun _ => .done (.around shaped))
  exact .after fun closed => .ite (.done (.around shaped)) (display_shaped sound shaped)

/-- The key, if there is one, and the value of an item are expressions. -/
def ItemShaped (item : Option Node × Node) : Prop :=
  (∀ n ∈ item.1, Shaped .expression n) ∧ Shaped .expression item.2

theorem dictItem_shaped (sound : Sound g) : Yields (dictItem g) ItemShaped := by
  refine .after fun stars => .ite ?_ ?_
  · exact .bind (bitwiseOr_shaped sound).inside fun value shaped => .done ⟨by simp, shaped⟩
  · exact .bind (expression_shaped sound).inside fun key first => .after fun _ =>
      .bind (expression_shaped sound).inside fun value second =>
        .done ⟨by simpa using first, second⟩

theorem dictNode_shaped {info : Info} {items : List (Option Node × Node)}
    (given : ∀ item ∈ items, ItemShaped item) : Shaped .expression (dictNode info items) := by
  refine .compound (List.forall_mem_append.mpr ⟨fun n member => ?_, fun n member => ?_⟩)
  · obtain ⟨item, inside, key⟩ := List.mem_filterMap.mp member
    exact (given item inside).1 n key
  · obtain ⟨item, inside, rfl⟩ := List.mem_map.mp member
    exact (given item inside).2

theorem dictRest_shaped (sound : Sound g) (info : Info) {first : Option Node × Node}
    (shaped : ItemShaped first) : Yields (dictRest g info first) (Shaped .expression) := by
  have alone : Shaped .expression (dictNode info [first]) :=
    dictNode_shaped (List.forall_mem_singleton.mpr shaped)
  refine .after fun comma => .ite ?_ (.after fun _ => .done alone)
  refine .after fun closed => .ite (.done alone) ?_
  have item := dictItem_shaped sound
  exact .bind (.commaList item.inside item.inside) fun found inner => .after fun _ =>
    .done (dictNode_shaped (List.forall_mem_cons.mpr ⟨shaped, inner⟩))

theorem setRest_shaped (sound : Sound g) (info : Info) {first : Node}
    (shaped : Shaped .expression first) : Yields (setRest g info first) (Shaped .expression) := by
  refine .after fun comma => .ite ?_ (.after fun _ => .done (.around shaped))
  exact .after fun closed => .ite (.done (.around shaped)) (display_shaped sound shaped)

theorem braced_shaped (sound : Sound g) (each : Yields primary (Shaped .expression))
    (info : Info) : Yields (braced g primary info) (Shaped .expression) := by
  refine .after fun _ => .after fun closed => .ite (.done (.compound (by simp))) ?_
  refine .after fun stars => .ite ?_ <| .after fun star => .ite ?_ ?_
  · exact .bind (dictItem_shaped sound).inside fun first shaped =>
      dictRest_shaped sound info shaped
  · exact .bind (starNamed_shaped sound).inside fun first shaped =>
      setRest_shaped sound info shaped
  refine .after fun named => .bind (namedExpression_shaped sound).inside fun first shaped => ?_
  refine .after fun colon => .ite ?_ ?_
  · refine .bind (expression_shaped sound).inside fun value second =>
      .after fun follows => .ite ?_ ?_
    · exact clauses_shaped sound each (by simpa using ⟨shaped, second⟩)
    · exact dictRest_shaped sound info ⟨by simpa using shaped, second⟩
  · refine .after fun follows => .ite ?_ (setRest_shaped sound info shaped)
    exact clauses_shaped sound each (List.forall_mem_singleton.mpr shaped)

theorem atom_shaped (sound : Sound g) (each : Yields primary (Shaped .expression)) :
    Yields (atom g primary) (Shaped .expression) := by
  refine .after fun info => .bind .peek fun token proper => ?_
  split
  · exact .after fun _ => .done (.load _ proper)
  · exact .after fun _ => .done (.constant _ _)
  · exact .after fun _ => strings_shaped sound
  · exact .ite (.after fun _ => .done (.constant _ _)) .fail
  · refine .ite (.after fun _ => bracketed_shaped sound each info) ?_
    refine .ite (.after fun _ => listDisplay_shaped sound each info) ?_
    refine .ite (.after fun _ => braced_shaped sound each info) ?_
    exact .ite (.after fun _ => .done (.constant _ _)) .fail
  · exact .fail

theorem trailer_shaped (sound : Sound g) (each : Yields primary (Shaped .expression))
    (info : Info) {value : Node} (shaped : Shaped .expression value) :
    Yields (trailer g primary info value) fun o => ∀ n ∈ o, Shaped .expression n := by
  refine .after fun start => .after fun dot => .ite (.after fun _ => .found (.attr shaped)) ?_
  refine .after fun call => .ite ?_ <| .after fun subscript => .ite ?_ .none
  · exact .bind (callArguments_shaped sound each start true) fun found inner =>
      .found (.call shaped inner.args inner.keywords)
  · exact .bind (slices_shaped sound).inside fun index second =>
      .found (.compound (by simpa using ⟨shaped, second⟩))

theorem primaryWith_shaped (sound : Sound g) (each : Yields primary (Shaped .expression)) :
    Yields (primaryWith g primary) (Shaped .expression) := by
  refine .asKept (.after fun info => ?_)
  refine .bind (atom_shaped sound each).inside fun first shaped => ?_
  exact .iterate (fun value inner => trailer_shaped sound each info inner) shaped

theorem primary_shaped (sound : Sound g) : Yields (Parser.primary g) (Shaped .expression) :=
  primaryWith_shaped sound (.one (sound .factor))

/-! ## Whole expressions -/

theorem power_shaped (sound : Sound g) : Yields (power g) (Shaped .expression) := by
  have raised (info : Info) (base : Node) (shaped : Shaped .expression base) :
      Yields (do
        if ← acceptOp "**" then return .binOp info false base (← inside 1 (one (g .factor)))
        else return base) (Shaped .expression) := by
    refine .after fun stars => .ite ?_ (.done shaped)
    exact .bind (.inside (.one (sound .factor))) fun exponent second =>
      .done (.binOp shaped second)
  refine .after fun info => .after fun awaits => .ite ?_ ?_
  · exact .bind (primary_shaped sound).inside fun value shaped => raised info _ (.around shaped)
  · exact .bind (primary_shaped sound).inside (raised info)

theorem factor_shaped (sound : Sound g) : Yields (factor g) (Shaped .expression) := by
  refine .after fun info => .after fun plus => .after fun minus => .after fun tilde => ?_
  refine .ite ?_ (power_shaped sound).inside
  exact .bind (.inside (.one (sound .factor))) fun value shaped => .done (.around shaped)

theorem lambda_shaped (sound : Sound g) : Yields (lambda g) (Shaped .expression) := by
  refine .after fun info => .after fun _ => ?_
  refine .bind (parameters_shaped sound false ":") fun args given => .after fun _ => ?_
  exact .bind (expression_shaped sound).inside fun body shaped => .done (.lambda given shaped)

theorem wholeExpression_shaped (sound : Sound g) :
    Yields (wholeExpression g) (Shaped .expression) := by
  have operand := disjunction_shaped sound
  refine .after fun isLambda => .ite (.after fun _ => (lambda_shaped sound).inside) ?_
  refine .after fun info => .bind operand.inside fun body first => ?_
  refine .after fun isIf => .ite ?_ (.done first)
  refine .bind operand.inside fun test second => .after fun _ => ?_
  exact .bind (expression_shaped sound).inside fun other third =>
    .done (.compound (by simpa using ⟨second, first, third⟩))

end Catalog.Syntax.Parser
