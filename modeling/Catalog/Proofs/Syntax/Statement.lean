import Catalog.Proofs.Syntax.Pattern
import Catalog.Syntax.Parse

/-!
# Modules are trees of the language

The rules for statements give statements, if the rules they refer to do. The grammar ties the rules
together with fuel, so by induction on the fuel all of its rules are sound, and what `Module.parse`
gives is a list of statements.
-/

namespace Catalog.Syntax

open ModuleName (IsComponent IsImportable)

namespace Parser

variable {g : Grammar}

/-! ## Simple statements -/

theorem assignedValue_shaped (sound : Sound g) (depth : Nat) :
    Yields (assignedValue g depth) (Shaped .expression) :=
  .after fun _ => .ite (yieldExpression_shaped sound).inside (starExpressions_shaped sound).inside

theorem firstValue_shaped (sound : Sound g) : Yields (firstValue g) (Shaped .expression) := by
  have whole {n : Nat} : Yields (inside n (starExpressions g)) (Shaped .expression) :=
    (starExpressions_shaped sound).inside
  refine .after fun yields => .ite (yieldExpression_shaped sound).inside ?_
  refine .after fun bracket => .ite whole.asTarget.asTarget ?_
  exact .after fun star => .ite whole.asTarget whole.asTarget

theorem assignmentChain_shaped (sound : Sound g) {first : Node}
    (shaped : Shaped .expression first) :
    Yields (assignmentChain g first) fun ns => ∀ n ∈ ns, Shaped .expression n := by
  refine .iterate (fun found inner => .after fun equals => .ite ?_ .none)
    (List.forall_mem_singleton.mpr shaped)
  exact .bind (assignedValue_shaped sound 3).asTarget fun value next =>
    .found (List.forall_mem_cons.mpr ⟨next, inner⟩)

theorem expressionStatement_shaped (sound : Sound g) :
    Yields (expressionStatement g) (Shaped .part) := by
  refine .after fun info => .bind (firstValue_shaped sound) fun first shaped => ?_
  have alone : Yields (pure (.plain info .exprStmt [first])) (Shaped .part) :=
    .done (.ofExpression (.around shaped))
  have target : Yields (orReject first.singleTarget?) (Shaped (.target .store)) :=
    .orReject fun t found => Node.shaped_singleTarget? shaped found
  refine .after fun token => ?_
  split
  · refine .after fun _ => .bind target fun t bound => ?_
    refine .bind (expression_shaped sound).inside fun hint hinted =>
      .after fun equals => .ite ?_ ?_
    · exact .bind (assignedValue_shaped sound 4) fun value assigned =>
        .done (.annAssign bound hinted (List.forall_mem_singleton.mpr assigned))
    · exact .done (.annAssign bound hinted (by simp))
  · refine .ite (.after fun _ => .bind target fun t bound => ?_) (.ite ?_ alone)
    · refine .bind (assignedValue_shaped sound 3) fun value assigned => .done (.block ?_)
      have changed : Shaped .part t := .ofTarget (by simp) bound
      simpa using ⟨changed, Shaped.ofExpression assigned⟩
    · refine .bind (assignmentChain_shaped sound shaped) fun chain inner => ?_
      split
      · rename_i value targets
        obtain ⟨assigned, inner⟩ := List.forall_mem_cons.mp inner
        refine .bind (P := fun ns : List Node => ∀ n ∈ ns, Shaped (.target .store) n)
          (.orReject fun ts found => ?_) fun ts bound => .done (.assign bound assigned)
        exact Node.shaped_targets? (fun n member t => Node.shaped_target?
          (inner n (List.mem_reverse.mp member))) found
      · exact .fail
  · exact alone

theorem deleteStatement_shaped (sound : Sound g) (info : Info) :
    Yields (deleteStatement g info) (Shaped .part) := by
  have item := primary_shaped sound
  refine .bind (.commaList item.inside item.inside) fun found inner => ?_
  refine .bind (P := fun ns : List Node => ∀ n ∈ ns, Shaped (.target .del) n)
    (.orReject fun ts targets => ?_) fun ts bound => ?_
  · exact Node.shaped_targets? (fun n member t => Node.shaped_target? (inner n member)) targets
  · exact .done (.block fun n member => .ofTarget (by simp) (bound n member))

theorem dottedName_importable : Yields dottedName IsImportable := by
  refine .bind .name fun first named => .iterate (fun text importable => ?_) named.isImportable
  refine .after fun dot => .ite ?_ .none
  exact .bind .name fun next named => .found (importable.append_dot named.isImportable)

theorem asName_component : Yields asName fun o => ∀ name ∈ o, IsComponent name :=
  .after fun _ => .ite (.bind .name fun _ named => .found named) .none

theorem importedModule_shaped : Yields importedModule (Shaped .imported) :=
  .after fun _ => .bind dottedName_importable fun _ importable =>
    .bind asName_component fun _ named => .done (.imported _ importable named)

theorem importedName_shaped : Yields importedName (Shaped .member) :=
  .after fun _ => .bind .name fun _ own => .bind asName_component fun _ named =>
    .done (.member _ own named)

theorem importedNames_shaped : Yields importedNames fun ns => ∀ n ∈ ns, Shaped .member n := by
  refine .after fun info => .after fun star => .ite ?_ <| .after fun bracket => .ite ?_ ?_
  · exact .done (List.forall_mem_singleton.mpr (.member _ (by decide) nofun))
  · exact .bind (.commaList importedName_shaped importedName_shaped) fun found inner =>
      .after fun _ => .done inner
  · exact .commaSeparated importedName_shaped importedName_shaped

theorem importFromStatement_shaped (info : Info) :
    Yields (importFromStatement info) (Shaped .part) := by
  have names (level : Nat) (module : Option String) (importable : ∀ m ∈ module, IsImportable m) :
      Yields (do
        expectWord "import"
        return .importFrom info module level (← importedNames)) (Shaped .part) :=
    .after fun _ => .bind importedNames_shaped fun found inner =>
      .done (.importFrom inner importable)
  refine .after fun level => .after fun bare => .ite (names level none nofun) ?_
  exact .bind dottedName_importable fun label importable =>
    names level (some label) (by simpa using importable)

theorem raiseStatement_shaped (sound : Sound g) (info : Info) :
    Yields (raiseStatement g info) (Shaped .part) := by
  refine .after fun token => .ite ?_ (.done (.block (by simp)))
  refine .bind (expression_shaped sound).inside fun value first =>
    .after fun isFrom => .ite ?_ ?_
  · exact .bind (expression_shaped sound).inside fun cause second =>
      .done (.ofExpression (.compound (by simpa using ⟨first, second⟩)))
  · exact .done (.ofExpression (.around first))

theorem wordStatement_shaped (sound : Sound g) (info : Info) (word : String) :
    Yields (wordStatement g info word) (Shaped .part) := by
  have bare {kind : Kind} : Yields (pure (.plain info kind [])) (Shaped .part) :=
    .done (.block (by simp))
  unfold wordStatement
  split
  · exact .after fun _ => bare
  · exact .after fun _ => bare
  · exact .after fun _ => bare
  · refine .after fun _ => .after fun _ => .after fun ended => .ite bare ?_
    exact .bind (starExpressions_shaped sound).inside fun value shaped =>
      .done (.ofExpression (.around shaped))
  · exact .after fun _ => raiseStatement_shaped sound info
  · refine .after fun _ => .bind (expression_shaped sound).inside fun test first => ?_
    refine .after fun comma => .ite ?_ (.done (.ofExpression (.around first)))
    exact .bind (expression_shaped sound).inside fun message second =>
      .done (.ofExpression (.compound (by simpa using ⟨first, second⟩)))
  · exact .after fun _ => deleteStatement_shaped sound info
  · exact .after fun _ => .after fun _ => .done (.globalNames _ _)
  · exact .after fun _ => .after fun _ => .done (.nonlocalNames _ _)
  · exact .after fun _ => .bind (.commaSeparated importedModule_shaped importedModule_shaped)
      fun names inner => .done (.importModules inner)
  · exact .after fun _ => importFromStatement_shaped info
  · exact expressionStatement_shaped sound

theorem simpleStatement_shaped (sound : Sound g) : Yields (simpleStatement g) (Shaped .part) := by
  refine .after fun info => .after fun _ => .after fun token => ?_
  split
  · exact wordStatement_shaped sound info _
  · exact expressionStatement_shaped sound

theorem simpleStatements_shaped (sound : Sound g) :
    Yields (simpleStatements g) fun ns => ∀ n ∈ ns, Shaped .part n := by
  refine .bind (simpleStatement_shaped sound).inside fun first shaped => ?_
  refine .bind (P := fun ns : List Node => ∀ n ∈ ns, Shaped .part n)
    (.many (.after fun semicolon => .ite (.after fun ended => .ite .none ?_) .none))
    fun others inner => .after fun _ => .done (List.forall_mem_cons.mpr ⟨shaped, inner⟩)
  exact .bind (simpleStatement_shaped sound).inside fun next second => .found second

/-! ## Blocks -/

/-- Lists of statements, one after another. -/
theorem flatten_shaped {found : List (List Node)} (inner : ∀ ns ∈ found, ∀ n ∈ ns, Shaped .part n) :
    ∀ n ∈ found.flatten, Shaped .part n := by
  intro n member
  obtain ⟨ns, inside, member⟩ := List.mem_flatten.mp member
  exact inner ns inside n member

/-- Statements up to a token. -/
theorem statementsUpTo_shaped (sound : Sound g) (ending : TokenKind) :
    Yields (do if ← at? ending then return none else return some (← inside 3 (g .statement)))
      fun o => ∀ ns ∈ o, ∀ n ∈ ns, Shaped .part n :=
  .after fun _ => .ite .none (.bind (sound .statement).inside fun _ inner => .found inner)

theorem blockStatements_shaped (sound : Sound g) :
    Yields (blockStatements g) fun ns => ∀ n ∈ ns, Shaped .part n := by
  refine .bind (sound .statement).inside fun first given => ?_
  refine .bind (.many (statementsUpTo_shaped sound .dedent)) fun others inner => .after fun _ => ?_
  exact .done (List.forall_mem_append.mpr ⟨given, flatten_shaped inner⟩)

theorem block_shaped (sound : Sound g) : Yields (block g) fun ns => ∀ n ∈ ns, Shaped .part n := by
  refine .after fun _ => .after fun newline => .ite ?_ (simpleStatements_shaped sound).inside
  exact .after fun indent => .ite (blockStatements_shaped sound) (.failWith _)

theorem elseBlock_shaped (sound : Sound g) :
    Yields (elseBlock g) fun ns => ∀ n ∈ ns, Shaped .part n :=
  .after fun _ => .ite (block_shaped sound).inside (.done (by simp))

/-- A condition is an expression, and its block has statements. -/
def BranchShaped (branch : Info × Node × List Node) : Prop :=
  Shaped .expression branch.2.1 ∧ ∀ n ∈ branch.2.2, Shaped .part n

theorem condition_shaped (sound : Sound g) (info : Info) :
    Yields (condition g info) BranchShaped :=
  .bind (namedExpression_shaped sound).inside fun _ first =>
    .bind (block_shaped sound).inside fun _ inner => .done ⟨first, inner⟩

theorem conditions_shaped (sound : Sound g) {first : Info × Node × List Node}
    (shaped : BranchShaped first) :
    Yields (conditions g first) fun branches => ∀ branch ∈ branches, BranchShaped branch := by
  refine .iterate (fun found given => .after fun info => .after fun isElif => .ite ?_ .none)
    (List.forall_mem_singleton.mpr shaped)
  exact .bind (condition_shaped sound info).inside fun next second =>
    .found (List.forall_mem_cons.mpr ⟨second, given⟩)

theorem ifNode_shaped {otherwise : List Node} {branches : List (Info × Node × List Node)}
    (last : ∀ n ∈ otherwise, Shaped .part n) (given : ∀ branch ∈ branches, BranchShaped branch) :
    ∀ n ∈ ifNode otherwise branches, Shaped .part n := by
  induction branches with
  | nil => exact last
  | cons branch rest ih =>
    obtain ⟨⟨first, inner⟩, given⟩ := List.forall_mem_cons.mp given
    refine List.forall_mem_singleton.mpr (.block ?_)
    exact List.forall_mem_append.mpr
      ⟨List.forall_mem_cons.mpr ⟨.ofExpression first, inner⟩, ih given⟩

theorem ifStatement_shaped (sound : Sound g) (info : Info) :
    Yields (ifStatement g info) fun ns => ∀ n ∈ ns, Shaped .part n := by
  refine .bind (condition_shaped sound info) fun first shaped => ?_
  refine .bind (conditions_shaped sound shaped) fun found given => ?_
  refine .bind (elseBlock_shaped sound).inside fun otherwise last => .done ?_
  exact ifNode_shaped last fun branch member => given branch (List.mem_reverse.mp member)

theorem whileStatement_shaped (sound : Sound g) (info : Info) :
    Yields (whileStatement g info) (Shaped .part) := by
  refine .bind (namedExpression_shaped sound).inside fun test first => ?_
  refine .bind (block_shaped sound).inside fun body inner => ?_
  refine .bind (elseBlock_shaped sound).inside fun otherwise last => .done (.block ?_)
  exact List.forall_mem_append.mpr
    ⟨List.forall_mem_cons.mpr ⟨.ofExpression first, inner⟩, last⟩

theorem forStatement_shaped (sound : Sound g) (info : Info) (async : Bool) :
    Yields (forStatement g info async) (Shaped .part) := by
  refine .bind (targetList_shaped (primary_shaped sound)).inside fun target bound =>
    .after fun _ => ?_
  refine .bind (starExpressions_shaped sound).inside fun iter second => ?_
  refine .bind (block_shaped sound).inside fun body inner => ?_
  refine .bind (elseBlock_shaped sound).inside fun otherwise last => .done (.block ?_)
  have changed : Shaped .part target := .ofTarget (by simp) bound
  exact List.forall_mem_append.mpr ⟨List.forall_mem_cons.mpr
    ⟨changed, List.forall_mem_cons.mpr ⟨.ofExpression second, inner⟩⟩, last⟩

theorem withItem_shaped (sound : Sound g) : Yields (withItem g) (Shaped .part) := by
  refine .bind (expression_shaped sound).inside fun value first => .after fun isAs => ?_
  refine .ite ?_ (.done (.ofExpression (.around first)))
  refine .bind (targetItem_shaped (primary_shaped sound)).inside fun item shaped => ?_
  refine .bind (P := Shaped (.target .store))
    (.orReject fun t found => Node.shaped_target? shaped found) fun target bound => ?_
  refine .after fun comma => .after fun bracket => .after fun colon => .ite .fail_bind (.done ?_)
  have changed : Shaped .part target := .ofTarget (by simp) bound
  exact .block (by simpa using ⟨.ofExpression first, changed⟩)

theorem bracketedWithItems_shaped (sound : Sound g) :
    Yields (bracketedWithItems g) fun ns => ∀ n ∈ ns, Shaped .part n := by
  have item := withItem_shaped sound
  refine .after fun _ => ?_
  refine .bind (.commaList item.inside item.inside) fun found inner => ?_
  exact .after fun _ => .after fun colon => .ite (.done inner) .fail

theorem withStatement_shaped (sound : Sound g) (info : Info) (async : Bool) :
    Yields (withStatement g info async) (Shaped .part) := by
  have whole (items : List Node) (contexts : ∀ n ∈ items, Shaped .part n) : Yields (do
      let body ← inside 1 (block g)
      return .plain info (if async then .asyncWithStmt else .withStmt) (items ++ body))
      (Shaped .part) :=
    .bind (block_shaped sound).inside fun body inner =>
      .done (.block (List.forall_mem_append.mpr ⟨contexts, inner⟩))
  have item := withItem_shaped sound
  have unbracketed :=
    Yields.bind (.commaSeparated (item.inside (n := 2)) (item.inside (n := 3))) whole
  refine .after fun bracket => .ite ?_ unbracketed
  refine .bind (.attempt (bracketedWithItems_shaped sound)) fun found given => ?_
  cases found with
  | none => exact unbracketed
  | some items => exact whole items (given items rfl)

theorem exceptHandler_shaped (sound : Sound g) (info : Info) (star : Bool) :
    Yields (exceptHandler g info star) (Shaped .part) := by
  refine .after fun colon => .ite ?_ ?_
  · exact .bind (block_shaped sound).inside fun body inner =>
      .done (.exceptHandler (by simp) inner nofun)
  · refine .bind (expression_shaped sound).inside fun type caught => ?_
    refine .bind asName_component fun label named => ?_
    exact .bind (block_shaped sound).inside fun body inner =>
      .done (.exceptHandler (List.forall_mem_singleton.mpr caught) inner named)

theorem exceptHandlers_shaped (sound : Sound g) :
    Yields (exceptHandlers g) fun found => ∀ handler ∈ found, Shaped .part handler.1 := by
  refine .many (.after fun info => .after fun isExcept => .ite (.after fun star => ?_) .none)
  exact .bind (exceptHandler_shaped sound info star).inside fun handler shaped => .found shaped

theorem tryStatement_shaped (sound : Sound g) (info : Info) :
    Yields (tryStatement g info) (Shaped .part) := by
  refine .bind (block_shaped sound).inside fun body first => ?_
  refine .bind (exceptHandlers_shaped sound) fun handlers second => .ite .reject_bind ?_
  have ended (otherwise final : List Node) (hasFinal : Bool)
      (third : ∀ n ∈ otherwise, Shaped .part n) (fourth : ∀ n ∈ final, Shaped .part n) :
      Yields (do
        if handlers.isEmpty && !hasFinal then reject
        return .plain info (if handlers.any Prod.snd then .tryStarStmt else .tryStmt)
          (body ++ handlers.map Prod.fst ++ otherwise ++ final)) (Shaped .part) := by
    refine .ite .reject_bind (.done (.block ?_))
    simp only [List.forall_mem_append, List.forall_mem_map]
    exact ⟨⟨⟨first, second⟩, third⟩, fourth⟩
  have rest (otherwise : List Node) (third : ∀ n ∈ otherwise, Shaped .part n) : Yields (do
      let hasFinal ← acceptWord "finally"
      let final ← if hasFinal then inside 2 (block g) else pure []
      if handlers.isEmpty && !hasFinal then reject
      return .plain info (if handlers.any Prod.snd then .tryStarStmt else .tryStmt)
        (body ++ handlers.map Prod.fst ++ otherwise ++ final)) (Shaped .part) := by
    refine .after fun hasFinal => .ite ?_ (ended otherwise [] hasFinal third (by simp))
    exact .bind (block_shaped sound).inside fun final fourth =>
      ended otherwise final _ third fourth
  exact .ite (rest [] (by simp)) (.bind (elseBlock_shaped sound).inside rest)

/-! ## Definitions and matching -/

theorem functionDef_shaped (sound : Sound g) (info : Info) (async : Bool) {decorators : List Node}
    (before : ∀ n ∈ decorators, Shaped .expression n) :
    Yields (functionDef g info async decorators) (Shaped .part) := by
  refine .bind .name fun label named => .after fun _ => ?_
  refine .bind (parameters_shaped sound true ")") fun args parameters => .after fun _ => ?_
  have body (returns : Option Node) (result : ∀ n ∈ returns.toList, Shaped .expression n) :
      Yields (do
        return .functionDef info async label args (← inside 1 (block g)) decorators returns)
        (Shaped .part) :=
    .bind (block_shaped sound).inside fun body statements =>
      .done (.functionDef parameters statements before result named)
  refine .after fun arrow => .ite ?_ (body none (by simp))
  exact .bind (expression_shaped sound).inside fun returns result =>
    body (some returns) (List.forall_mem_singleton.mpr result)

theorem classDef_shaped (sound : Sound g) (info : Info) {decorators : List Node}
    (before : ∀ n ∈ decorators, Shaped .expression n) :
    Yields (classDef g info decorators) (Shaped .part) := by
  refine .bind .name fun label named => .after fun bracket => ?_
  have body (found : CallArguments) (given : found.Shaped) : Yields (do
      return .classDef info label found.args found.keywords (← inside 1 (block g)) decorators)
      (Shaped .part) :=
    .bind (block_shaped sound).inside fun body statements =>
      .done (.classDef given.args given.keywords statements before named)
  refine .ite (.bind (callArguments_shaped sound (.one (sound .factor)) info false) body) ?_
  exact body {} .empty

theorem decorators_shaped (sound : Sound g) :
    Yields (decorators g) fun ns => ∀ n ∈ ns, Shaped .expression n := by
  refine .many (.after fun sign => .ite ?_ .none)
  exact .bind (namedExpression_shaped sound).inside fun value shaped =>
    .after fun _ => .found shaped

theorem decorated_shaped (sound : Sound g) : Yields (decorated g) (Shaped .part) := by
  refine .bind (decorators_shaped sound) fun found before => .after fun info => ?_
  refine .after fun isClass => .ite (classDef_shaped sound info before).inside ?_
  exact .after fun async => .after fun _ => (functionDef_shaped sound info async before).inside

theorem matchSubject_shaped (sound : Sound g) : Yields (matchSubject g) (Shaped .expression) := by
  have item := starNamed_shaped sound
  refine .after fun info => .after fun star => .bind item.inside fun first shaped => ?_
  refine .after fun comma => .ite ?_ (.ite .fail_bind (.done shaped))
  refine .after fun ended => .ite (.done (.around shaped)) ?_
  exact .bind (.commaList item.inside item.inside) fun found inner =>
    .done (.compound (List.forall_mem_cons.mpr ⟨shaped, inner⟩))

theorem matchHead_shaped (sound : Sound g) : Yields (matchHead g) (Shaped .expression) := by
  refine .after fun _ => ?_
  refine .bind (matchSubject_shaped sound).inside fun subject shaped => ?_
  exact .after fun _ => .after fun _ => .done shaped

theorem matchCase_shaped (sound : Sound g) : Yields (matchCase g) (Shaped .part) := by
  refine .after fun _ => .bind (topPattern_shaped sound) fun found first => ?_
  have body (guard : List Node) (second : ∀ n ∈ guard, Shaped .part n) : Yields (do
      return .plain { line := 0 } .matchCase (found :: guard ++ (← inside 1 (block g))))
      (Shaped .part) :=
    .bind (block_shaped sound).inside fun body inner => .done (.block
      (List.forall_mem_append.mpr ⟨List.forall_mem_cons.mpr ⟨first, second⟩, inner⟩))
  refine .after fun isIf => .ite ?_ (body [] (by simp))
  exact .bind (namedExpression_shaped sound).inside fun guard shaped =>
    body [guard] (List.forall_mem_singleton.mpr (.ofExpression shaped))

theorem matchCases_shaped (sound : Sound g) :
    Yields (matchCases g) fun ns => ∀ n ∈ ns, Shaped .part n := by
  refine .bind (matchCase_shaped sound).inside fun first shaped => ?_
  refine .bind (P := fun ns : List Node => ∀ n ∈ ns, Shaped .part n)
    (.many (.after fun ended => .ite .none ?_)) fun others inner => .after fun _ =>
      .done (List.forall_mem_cons.mpr ⟨shaped, inner⟩)
  exact .bind (matchCase_shaped sound).inside fun next second => .found second

theorem matchStatement_shaped (sound : Sound g) :
    Yields (matchStatement g) fun o => ∀ n ∈ o, Shaped .part n := by
  refine .after fun info => .bind (.attempt (matchHead_shaped sound)) fun found given => ?_
  cases found with
  | none => exact .none
  | some subject =>
    refine .after fun indent => .ite ?_ (.failWith _)
    exact .bind (matchCases_shaped sound) fun cases inner =>
      .found (.block (List.forall_mem_cons.mpr ⟨.ofExpression (given subject rfl), inner⟩))

/-! ## The grammar -/

theorem compoundStatement?_shaped (sound : Sound g) (info : Info) (word : String) :
    Yields (compoundStatement? g info word) fun o => ∀ ns ∈ o, ∀ n ∈ ns, Shaped .part n := by
  have single {p : Parser Node} (given : Yields p (Shaped .part)) :
      Yields (do return some [← p]) fun o => ∀ ns ∈ o, ∀ n ∈ ns, Shaped .part n :=
    .bind given fun n shaped => .found (List.forall_mem_singleton.mpr shaped)
  have undecorated : ∀ n ∈ ([] : List Node), Shaped .expression n := by simp
  unfold compoundStatement?
  split
  · exact .after fun _ => .bind (ifStatement_shaped sound info).inside fun found inner =>
      .found inner
  · exact .after fun _ => single (whileStatement_shaped sound info).inside
  · exact .after fun _ => single (forStatement_shaped sound info false).inside
  · exact .after fun _ => single (tryStatement_shaped sound info).inside
  · exact .after fun _ => single (withStatement_shaped sound info false).inside
  · exact .after fun _ => single (functionDef_shaped sound info false undecorated).inside
  · exact .after fun _ => single (classDef_shaped sound info undecorated).inside
  · refine .after fun _ => .after fun isDef => .ite ?_ <| .after fun isFor => .ite ?_ ?_
    · exact single (functionDef_shaped sound info true undecorated).inside
    · exact single (forStatement_shaped sound info true).inside
    · exact .after fun isWith => .ite (single (withStatement_shaped sound info true).inside) .fail
  · exact .none

theorem wholeStatement_shaped (sound : Sound g) :
    Yields (wholeStatement g) fun ns => ∀ n ∈ ns, Shaped .part n := by
  refine .after fun info => .after fun token => ?_
  split
  · exact .bind (decorated_shaped sound).inside fun found shaped =>
      .done (List.forall_mem_singleton.mpr shaped)
  · refine .bind (compoundStatement?_shaped sound info _) fun o given => ?_
    cases o with
    | none => exact (simpleStatements_shaped sound).inside
    | some found => exact .done (given found rfl)
  · refine .bind (matchStatement_shaped sound).inside fun o given => ?_
    cases o with
    | none => exact (simpleStatements_shaped sound).inside
    | some found => exact .done (List.forall_mem_singleton.mpr (given found rfl))
  · exact (simpleStatements_shaped sound).inside

/-- All rules of the grammar are sound, however deep they may be nested. -/
theorem grammar_sound (fuel : Nat) : Sound (grammar fuel) := by
  induction fuel with
  | zero => exact fun rule => .reject
  | succ fuel ih =>
    have single {p : Parser Node} {c : Category} (given : Yields p (Shaped c)) :
        Yields (do return [← p]) fun ns => ∀ n ∈ ns, Shaped c n :=
      .bind given fun n shaped => .done (List.forall_mem_singleton.mpr shaped)
    intro rule
    cases rule with
    | expression => exact single (wholeExpression_shaped ih)
    | starExpressions => exact single (starExpressions_shaped ih)
    | inversion => exact single (inversion_shaped ih)
    | factor => exact single (factor_shaped ih)
    | pattern => exact single (wholePattern_shaped ih)
    | statement => exact wholeStatement_shaped ih

theorem allStatements_shaped (sound : Sound g) :
    Yields (allStatements g) fun ns => ∀ n ∈ ns, Shaped .part n := by
  refine .bind (.many (statementsUpTo_shaped sound .endMarker)) fun found inner => ?_
  exact .after fun _ => .done (flatten_shaped inner)

end Parser

namespace Module

theorem shaped_statements {source : String} {body : List Node}
    (read : statements source = .ok body) : ∀ n ∈ body, Shaped .part n := by
  unfold statements at read
  split at read
  · cases read
  · dsimp only at read
    split at read
    · rename_i found next ran
      cases read
      have proper : Input.IsProper { tokens := (tokens source).toArray } :=
        fun token member => Lexer.isProper_run _ _ token (List.mem_toArray.mp member)
      exact Parser.allStatements_shaped (Parser.grammar_sound _) _ 0 body next proper ran
    · cases read

/-- A module is the numbered form of a list of statements. -/
theorem exists_of_parse {source : String} {m : Module} (parsed : parse source = .ok m) :
    ∃ body : List Node, (∀ n ∈ body, Shaped .part n) ∧ m = numbered { body } := by
  unfold parse at parsed
  split at parsed
  · cases parsed
  · rename_i body read
    dsimp only at parsed
    split at parsed
    · cases parsed
    · cases parsed
      exact ⟨body, shaped_statements read, rfl⟩

theorem shaped_of_parse {source : String} {m : Module} (parsed : parse source = .ok m) :
    ∀ n ∈ m.body, Shaped .part n := by
  obtain ⟨body, shaped, rfl⟩ := exists_of_parse parsed
  exact Shaped.numberList (fun n member k => (shaped n member).number k) 1

/-- No two nodes of a module, nor the module and a node, have the same number. -/
theorem nodup_ids_of_parse {source : String} {m : Module} (parsed : parse source = .ok m) :
    (id :: (Node.preorder m.body).map Node.id).Nodup := by
  obtain ⟨body, shaped, rfl⟩ := exists_of_parse parsed
  rw [ids_numbered]
  refine List.nodup_cons.mpr ⟨?_, List.nodup_range' ..⟩
  intro member
  obtain ⟨k, _, same⟩ := List.mem_range'.mp member
  simp [id] at same
  omega

end Module

end Catalog.Syntax
