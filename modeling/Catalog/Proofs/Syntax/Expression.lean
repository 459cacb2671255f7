import Catalog.Proofs.Syntax.Shape
import Catalog.Proofs.Syntax.Yields

/-!
# Expressions are trees of the language

The rules for expressions give expressions, if the rules they refer to do. A target is first read
as an expression and then turned into a target; that its names are stored or deleted and nothing
else changes is a fact about `Node.target?` alone.
-/

namespace Catalog.Syntax

/-! ## Targets -/

namespace Node

variable {context : Context} {star : Bool}

theorem shaped_targets? {ns ts : List Node}
    (each : ∀ n ∈ ns, ∀ t, target? context star n = some t → Shaped (.target context) t)
    (found : targets? context star ns = some ts) : ∀ t ∈ ts, Shaped (.target context) t := by
  induction ns generalizing ts with
  | nil =>
    cases found
    exact fun t member => absurd member List.not_mem_nil
  | cons n rest ih =>
    obtain ⟨first, each⟩ := List.forall_mem_cons.mp each
    rw [targets?] at found
    split at found
    · rename_i t more one all
      cases found
      exact List.forall_mem_cons.mpr ⟨first t one, ih each all⟩
    · cases found

/-- An expression that is a target is shaped as one. -/
theorem shaped_target? {n t : Node} (shaped : Shaped .expression n)
    (found : target? context star n = some t) : Shaped (.target context) t := by
  generalize category : Category.expression = c at shaped
  induction shaped generalizing t with
  | load info named =>
    cases found
    exact .bound info context named
  | attr inner =>
    cases found
    exact .boundAttr inner
  | @compound info kind parts inner ih =>
    have group {kind : Kind}
        (found : (targets? context star parts).map (plain info kind) = some t) :
        Shaped (.target context) t := by
      obtain ⟨ts, all, rfl⟩ := Option.map_eq_some_iff.mp found
      exact .group (shaped_targets? (fun n member t found => ih n member found rfl) all)
    cases kind with
    | subscript =>
      cases found
      exact .subscript inner
    | tuple | list => exact group found
    | starred =>
      cases star with
      | false => cases found
      | true => exact group found
    | _ => cases found
  | constant | call | binOp | lambda | comprehension | named => cases found
  | _ => cases category

theorem shaped_singleTarget? {n t : Node} (shaped : Shaped .expression n)
    (found : n.singleTarget? = some t) : Shaped (.target .store) t := by
  unfold singleTarget? at found
  split at found
  · cases found
    cases shaped with
    | load _ named => exact .bound _ .store named
  · cases found
    cases shaped with
    | attr inner => exact .boundAttr inner
  · cases found
    cases shaped with
    | compound inner => exact .subscript inner
  · cases found

end Node

/-- A node around one expression. -/
theorem Shaped.around {info : Info} {kind : Kind} {value : Node}
    (inner : Shaped .expression value) : Shaped .expression (.plain info kind [value]) :=
  .compound (List.forall_mem_singleton.mpr inner)

/-- What the nodes of a rule are. -/
def Rule.category : Rule → Category
  | pattern => .part
  | statement => .part
  | _ => .expression

namespace Parser

/-- All rules of the grammar give nodes of their categories. -/
def Sound (g : Grammar) : Prop :=
  ∀ rule, Yields (g rule) fun ns => ∀ n ∈ ns, Shaped rule.category n

variable {g : Grammar} {primary : Parser Node}

theorem expression_shaped (sound : Sound g) : Yields (expression g) (Shaped .expression) :=
  .one (sound .expression)

/-! ## Strings -/

theorem fieldExpression_shaped (sound : Sound g) (start : Nat) (expr : List Char) :
    Yields (fieldExpression g start expr) (Shaped .expression) := by
  have given : Yields (one (g .starExpressions)) (Shaped .expression) :=
    .one (sound .starExpressions)
  unfold fieldExpression
  dsimp only
  split
  · rename_i n after ran
    have proper : Input.IsProper { tokens := (expressionTokens start expr).toArray } :=
      fun token member => Lexer.isProper_run _ _ token (List.mem_toArray.mp member)
    exact .done (given.inside _ 0 n after proper ran)
  · exact .ite (.failWith _) .reject

theorem textNodes_shaped (start : Nat) (text : List Char) :
    ∀ n ∈ textNodes start text, Shaped .expression n := by
  unfold textNodes
  split
  · simp
  · exact List.forall_mem_singleton.mpr (.constant _ _)

theorem pieceNodes_shaped (sound : Sound g) (first last fuel : Nat) (text : List Char)
    (pieces : List (Literal.Piece × Nat)) :
    Yields (pieceNodes g first last fuel text pieces) fun ns => ∀ n ∈ ns, Shaped .expression n := by
  induction fuel generalizing last text pieces with
  | zero => exact .reject
  | succ fuel ih =>
    match pieces with
    | [] => exact .done (textNodes_shaped last text)
    | (.text more, _) :: rest => exact ih last (text ++ more) rest
    | (.field expr breaks shown format, start) :: rest =>
      refine .bind (fieldExpression_shaped sound _ expr) fun value shaped => ?_
      have joined (formatNodes : List Node) (inner : ∀ n ∈ formatNodes, Shaped .expression n) :
          Yields (do
            let more ← pieceNodes g first last fuel [] rest
            return textNodes first (text ++ shown) ++
              .plain { line := first } .formattedValue (value :: formatNodes) :: more)
            fun ns => ∀ n ∈ ns, Shaped .expression n :=
        .bind (ih last [] rest) fun more others => .done <| List.forall_mem_append.mpr
          ⟨textNodes_shaped first _, List.forall_mem_cons.mpr
            ⟨.compound (List.forall_mem_cons.mpr ⟨shaped, inner⟩), others⟩⟩
      cases format with
      | none => exact joined [] (by simp)
      | some found =>
        exact .bind (ih start [] _) fun parts inner =>
          joined _ (List.forall_mem_singleton.mpr (.compound inner))

theorem strings_shaped (sound : Sound g) : Yields (strings g) (Shaped .expression) := by
  refine .after fun info => .after fun literals => ?_
  split
  · split
    · exact .done (.constant _ _)
    · exact .reject
  · refine .after fun found => ?_
    split
    · exact .bind (pieceNodes_shaped sound _ _ _ _ _) fun parts inner => .done (.compound inner)
    · exact .done (.constant _ _)

/-! ## Lists of expressions -/

theorem namedExpression_shaped (sound : Sound g) :
    Yields (namedExpression g) (Shaped .expression) := by
  refine .after fun isNamed => ?_
  split
  · refine .after fun info => .bind .name fun target named => .after fun _ => ?_
    exact .bind (expression_shaped sound).inside fun value shaped => .done (.named shaped named)
  · refine .bind (expression_shaped sound).inside fun value shaped => .after fun isNamed => ?_
    split
    · exact .fail_bind
    · exact .done shaped

theorem binary_shaped {operand : Parser Node} (ops : List String)
    (each : Yields operand (Shaped .expression)) :
    Yields (binary ops operand) (Shaped .expression) := by
  refine .after fun info => .bind each fun first shaped => .iterate (fun left inner => ?_) shaped
  refine .after fun token => ?_
  split
  · split
    · exact .after fun _ => .bind each fun right second => .found (.binOp inner second)
    · exact .none
  · exact .none

theorem bitwiseOr_shaped (sound : Sound g) : Yields (bitwiseOr g) (Shaped .expression) :=
  binary_shaped _ <| binary_shaped _ <| binary_shaped _ <| binary_shaped _ <| binary_shaped _ <|
    binary_shaped _ (.inside (.one (sound .factor)))

theorem starNamed_shaped (sound : Sound g) : Yields (starNamed g) (Shaped .expression) := by
  refine .after fun info => .after fun star => ?_
  split
  · exact .bind (bitwiseOr_shaped sound).inside fun value shaped => .done (.around shaped)
  · exact (namedExpression_shaped sound).inside

theorem starExpression_shaped (sound : Sound g) :
    Yields (starExpression g) (Shaped .expression) := by
  refine .after fun info => .after fun star => ?_
  split
  · exact .bind (bitwiseOr_shaped sound).inside fun value shaped => .done (.around shaped)
  · exact (expression_shaped sound).inside

theorem starExpressions_shaped (sound : Sound g) :
    Yields (starExpressions g) (Shaped .expression) := by
  have item := starExpression_shaped sound
  refine .after fun info => .bind (.commaList item.inside item.inside) ?_
  rintro ⟨items, comma⟩ inner
  dsimp only
  split
  · exact .done (inner _ List.mem_cons_self)
  · exact .done (.compound inner)

theorem yieldExpression_shaped (sound : Sound g) :
    Yields (yieldExpression g) (Shaped .expression) := by
  refine .after fun info => .after fun _ => .after fun isFrom => ?_
  split
  · exact .bind (expression_shaped sound).inside fun value shaped => .done (.around shaped)
  · refine .after fun _ => .after fun atEnd => ?_
    split
    · exact .done (.compound (by simp))
    · exact .bind (starExpressions_shaped sound).inside fun value shaped =>
        .done (.around shaped)

/-! ## Operators -/

/-- Operands that are gathered in one node, if there are several. -/
theorem gathered_shaped {info : Info} {kind : Kind} {first : Node} {others : List Node}
    (shaped : Shaped .expression first) (inner : ∀ n ∈ others, Shaped .expression n) :
    Shaped .expression (if others.isEmpty then first else .plain info kind (first :: others)) := by
  split
  · exact shaped
  · exact .compound (List.forall_mem_cons.mpr ⟨shaped, inner⟩)

/-- A value that is read if a token stands before it. -/
theorem optional_shaped {c : Category} {p : Parser Bool} {operand : Parser Node}
    (each : Yields operand (Shaped c)) :
    Yields (do if ← p then return some (← operand) else return none)
      fun o => ∀ n ∈ o, Shaped c n := by
  refine .after fun follows => ?_
  split
  · exact .bind each fun value shaped => .found shaped
  · exact .none

theorem comparison_shaped (sound : Sound g) : Yields (comparison g) (Shaped .expression) := by
  refine .after fun info => ?_
  refine .bind (bitwiseOr_shaped sound).inside fun left shaped => ?_
  refine .bind (.many (optional_shaped (bitwiseOr_shaped sound).inside)) fun others inner => ?_
  exact .done (gathered_shaped shaped inner)

theorem inversion_shaped (sound : Sound g) : Yields (inversion g) (Shaped .expression) := by
  refine .after fun info => .after fun isNot => ?_
  split
  · exact .bind (.inside (.one (sound .inversion))) fun value shaped =>
      .done (.around shaped)
  · exact (comparison_shaped sound).inside

theorem truthOperator_shaped {operand : Parser Node} (word : String)
    (each : Yields operand (Shaped .expression)) :
    Yields (truthOperator word operand) (Shaped .expression) := by
  refine .after fun info => ?_
  refine .bind each.inside fun first shaped => ?_
  refine .bind (.many (optional_shaped each.inside)) fun others inner => ?_
  exact .done (gathered_shaped shaped inner)

theorem disjunction_shaped (sound : Sound g) : Yields (disjunction g) (Shaped .expression) :=
  truthOperator_shaped "or" (truthOperator_shaped "and" (.one (sound .inversion)))

/-! ## Targets and comprehensions -/

theorem targetItem_shaped (each : Yields primary (Shaped .expression)) :
    Yields (targetItem primary) (Shaped .expression) := by
  have starred (info : Info) :
      Yields (do return .plain info .starred [← inside 4 (asTarget 0 0 primary)])
        (Shaped .expression) :=
    .bind each.asTarget.inside fun value shaped => .done (.around shaped)
  refine .after fun info => .after fun star => ?_
  split
  · refine .after fun again => ?_
    split
    · exact .fail_bind
    · exact starred info
  · exact each.asTarget.inside

theorem targetList_shaped (each : Yields primary (Shaped .expression)) :
    Yields (targetList primary) (Shaped (.target .store)) := by
  have item := targetItem_shaped each
  refine .after fun info => .bind (.commaList item.inside item.inside) ?_
  rintro ⟨items, comma⟩ inner
  refine .orReject fun target found => Node.shaped_target? ?_ found
  split
  · exact inner _ List.mem_cons_self
  · exact .compound inner

theorem comprehensionClause_shaped (sound : Sound g) (each : Yields primary (Shaped .expression)) :
    Yields (comprehensionClause g primary) fun o => ∀ n ∈ o, Shaped .generator n := by
  have clause : Yields (do
      if ← acceptWord "for" then
        let target ← inside 1 (targetList primary)
        expectWord "in"
        let iter ← inside 1 (disjunction g)
        let ifs ← many do
          if ← acceptWord "if" then return some (← inside 3 (disjunction g)) else return none
        return some (.generator { line := 0 } target iter ifs)
      else return none) fun o => ∀ n ∈ o, Shaped .generator n := by
    refine .after fun isFor => ?_
    split
    · refine .bind (targetList_shaped each).inside fun target bound => .after fun _ => ?_
      have operand := disjunction_shaped sound
      refine .bind operand.inside fun iter iterable => ?_
      refine .bind (.many (optional_shaped operand.inside)) fun ifs conditions => ?_
      exact .found (.generator bound iterable conditions)
    · exact .none
  refine .after fun async => ?_
  split
  · refine .after fun next => ?_
    split
    · exact .none
    · exact .after fun _ => clause
  · exact clause

theorem comprehensionClauses_shaped (sound : Sound g)
    (each : Yields primary (Shaped .expression)) :
    Yields (comprehensionClauses g primary) fun ns => ∀ n ∈ ns, Shaped .generator n :=
  .many (comprehensionClause_shaped sound each).inside

end Parser

end Catalog.Syntax
