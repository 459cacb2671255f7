import Catalog.Command.Run

/-!
# Contracts of runs

A contract says what holds when a run has given its value, and what holds when it has failed. The
second part matters as much as the first: a run that fails keeps what it did to the world before.
Contracts are put together along the steps of a run, so that nothing that follows has to look
into a step again.
-/

namespace Catalog.Run

variable {α β : Type} {context : Context}

/-- The outcome of a run, and the world after it, from any world. -/
def exec (run : Run α) (context : Context) (w : World) : Except Failure α × World :=
  StateT.run (ExceptT.run (ReaderT.run run context)) w

theorem start_eq_exec (run : Run α) (context : Context) (tree : FileTree) :
    run.start context tree = run.exec context { tree } := rfl

theorem exec_bind (run : Run α) (next : α → Run β) (context : Context) (w : World) :
    (run >>= next).exec context w =
      match run.exec context w with
      | (.ok a, w) => (next a).exec context w
      | (.error e, w) => (.error e, w) := by
  simp only [exec, ReaderT.run_bind, ExceptT.run_bind, StateT.run_bind]
  change (match StateT.run (ExceptT.run (ReaderT.run run context)) w with
    | (outcome, w) => _ : Except Failure β × World) = _
  rcases StateT.run (ExceptT.run (ReaderT.run run context)) w with ⟨_ | _, _⟩ <;> rfl

/-- From every world with `P`, the run ends with a value and `Q`, or it fails with `E`. -/
def Contract (context : Context) (P : World → Prop) (run : Run α) (Q : α → World → Prop)
    (E : Failure → World → Prop) : Prop :=
  ∀ w, P w →
    match run.exec context w with
    | (.ok a, w) => Q a w
    | (.error e, w) => E e w

namespace Contract

variable {P P' : World → Prop} {Q Q' : α → World → Prop} {E E' : Failure → World → Prop}

theorem consequence {run : Run α} (h : Contract context P run Q E)
    (pre : ∀ w, P' w → P w) (post : ∀ a w, Q a w → Q' a w) (fails : ∀ e w, E e w → E' e w) :
    Contract context P' run Q' E' := by
  intro w hw
  have outcome := h w (pre w hw)
  revert outcome
  rcases run.exec context w with ⟨e | a, w⟩
  · exact fails e w
  · exact post a w

theorem bind {run : Run α} {next : α → Run β} {R : α → World → Prop} {Q : β → World → Prop}
    (first : Contract context P run R E) (second : ∀ a, Contract context (R a) (next a) Q E) :
    Contract context P (run >>= next) Q E := by
  intro w hw
  have outcome := first w hw
  rw [exec_bind]
  revert outcome
  rcases run.exec context w with ⟨e | a, w⟩
  · exact id
  · exact second a w

theorem pure {a : α} (post : ∀ w, P w → Q a w) : Contract context P (pure a) Q E := post

theorem throw {e : Failure} (fails : ∀ w, P w → E e w) :
    Contract context P (throw e : Run α) Q E := fails

theorem read {Q : Context → World → Prop} (post : ∀ w, P w → Q context w) :
    Contract context P read Q E := post

theorem tree {Q : FileTree → World → Prop} (post : ∀ w, P w → Q w.tree w) :
    Contract context P tree Q E := post

theorem ofExcept {result : Except Failure α}
    (post : ∀ a w, result = .ok a → P w → Q a w)
    (fails : ∀ e w, result = .error e → P w → E e w) :
    Contract context P (ofExcept result) Q E := by
  cases result with
  | ok a => exact fun w => post a w rfl
  | error e => exact fun w => fails e w rfl

theorem report {message : String} {done : Bool} {Q : Unit → World → Prop}
    (post : ∀ w log, P w → Q () { w with log }) :
    Contract context P (report message done) Q E := fun w => post w _

theorem reportAll {log : List Progress} {Q : Unit → World → Prop}
    (post : ∀ w log, P w → Q () { w with log }) :
    Contract context P (reportAll log) Q E := fun w => post w _

/-- An operation on the tree leaves the tree that it gives, also when it fails. -/
theorem change {step : FileTree → FileTree × Except Failure Unit} {Q : Unit → World → Prop}
    (post : ∀ w after, step w.tree = (after, .ok ()) → P w → Q () { w with tree := after })
    (fails : ∀ e w after, step w.tree = (after, .error e) → P w → E e { w with tree := after }) :
    Contract context P (change step) Q E := by
  refine bind (R := fun t w => P w ∧ t = w.tree) (tree fun w hw => ⟨hw, rfl⟩) ?_
  rintro t w ⟨hw, rfl⟩
  rcases outcome : step w.tree with ⟨after, e | ⟨⟩⟩
  · exact fails e w after outcome hw
  · exact post w after outcome hw

end Contract

/-- The run only reads the tree `t`: it leaves the tree as it is, whether it fails or not. -/
def Reads (context : Context) (t : FileTree) (run : Run α) (Q : α → Prop) : Prop :=
  Contract context (fun w => w.tree = t) run (fun a w => w.tree = t ∧ Q a)
    (fun _ w => w.tree = t)

namespace Reads

variable {t : FileTree} {Q R : α → Prop} {run : Run α} {next : α → Run β}

/-- A run that only reads comes before one with any contract on the same tree. -/
theorem andThen {Q : β → World → Prop} {E : Failure → World → Prop}
    (first : Reads context t run R)
    (second : ∀ a, R a → Contract context (fun w => w.tree = t) (next a) Q E)
    (fails : ∀ e w, w.tree = t → E e w) :
    Contract context (fun w => w.tree = t) (run >>= next) Q E :=
  (first.consequence (fun _ => id) (fun _ _ => id) fails).bind fun a w hw => second a hw.2 w hw.1

theorem bind {Q : β → Prop} (first : Reads context t run R)
    (second : ∀ a, R a → Reads context t (next a) Q) : Reads context t (run >>= next) Q :=
  first.andThen second fun _ _ => id

/-- The value of a run that only reads is one that the run gives on the same tree. -/
theorem outcome (h : Reads context t run Q) :
    Reads context t run fun a => Q a ∧ ∃ w, w.tree = t ∧ (run.exec context w).1 = .ok a := by
  intro w hw
  have result := h w hw
  revert result
  rcases executed : run.exec context w with ⟨e | a, w'⟩
  · exact id
  · exact fun result => ⟨result.1, result.2, w, hw, by rw [executed]⟩

theorem pure {a : α} (post : Q a) : Reads context t (pure a) Q :=
  Contract.pure fun _ hw => ⟨hw, post⟩

theorem throw {e : Failure} : Reads context t (throw e : Run α) Q :=
  Contract.throw fun _ => id

theorem read : Reads context t read (· = context) :=
  Contract.read fun _ hw => ⟨hw, rfl⟩

theorem tree : Reads context t tree (· = t) :=
  Contract.tree fun _ hw => ⟨hw, hw⟩

theorem report {message : String} {done : Bool} :
    Reads context t (report message done) fun _ => True :=
  Contract.report fun _ _ hw => ⟨hw, trivial⟩

theorem reportAll {log : List Progress} : Reads context t (reportAll log) fun _ => True :=
  Contract.reportAll fun _ _ hw => ⟨hw, trivial⟩

theorem ofExcept {result : Except Failure α} :
    Reads context t (ofExcept result) (result = .ok ·) :=
  Contract.ofExcept (fun _ _ value hw => ⟨hw, value⟩) (fun _ _ _ => id)

theorem ofFault {result : Except Fault α} :
    Reads context t (ofFault result) (result = .ok ·) := by
  cases result with
  | ok a => exact Contract.pure fun _ hw => ⟨hw, rfl⟩
  | error e => exact Contract.throw fun _ => id

theorem ofSystem {result : Except SystemError α} :
    Reads context t (ofSystem result) (result = .ok ·) := by
  cases result with
  | ok a => exact Contract.pure fun _ hw => ⟨hw, rfl⟩
  | error e => exact Contract.throw fun _ => id

end Reads

end Catalog.Run
