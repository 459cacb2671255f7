import Catalog.Failure
import Catalog.Source.Unit

/-!
# Queries

What a name denotes may depend on modules that are not part of the repository. A query is a
computation that may ask for such modules, one after another, where each question may depend on
the answers before. It ends with a value, or fails.

What a query gives for fixed answers is `Query.answer`. The program itself answers questions from a
cache and reads files for the rest; that both agree is a fact about the cache alone.
-/

namespace Catalog

/-- A computation that may ask for modules outside of the repository. -/
inductive Query (α : Type) where
  | done (value : α)
  | fail (cause : Fault)
  /-- Asks for the unit of a module and goes on with the answer. -/
  | ask (module : String) (next : Option SourceUnit → Query α)

namespace Query

variable {α β : Type}

/-- Goes on with the value of a query. -/
def bind : Query α → (α → Query β) → Query β
  | done a, f => f a
  | fail cause, _ => fail cause
  | ask m next, f => ask m fun answer => (next answer).bind f

instance : Monad Query where
  pure := done
  bind := bind

/-- The query whose failure is a value. -/
def attempt : Query α → Query (Except Fault α)
  | done a => done (.ok a)
  | fail cause => done (.error cause)
  | ask m next => ask m fun answer => (next answer).attempt

/-- The unit of a module outside of the repository. -/
def outside (m : String) : Query (Option SourceUnit) := ask m done

@[simp] theorem pure_eq (a : α) : (pure a : Query α) = done a := rfl

@[simp] theorem bind_eq (q : Query α) (f : α → Query β) : (q >>= f) = q.bind f := rfl

theorem bind_done (q : Query α) : q.bind done = q := by
  induction q with
  | done | fail => rfl
  | ask m next ih => simp only [bind, ih]

theorem bind_assoc {γ : Type} (q : Query α) (f : α → Query β) (g : β → Query γ) :
    (q.bind f).bind g = q.bind fun a => (f a).bind g := by
  induction q with
  | done | fail => rfl
  | ask m next ih => simp only [bind, ih]

instance : LawfulMonad Query :=
  LawfulMonad.mk' Query bind_done (fun _ _ => rfl) bind_assoc

end Query

end Catalog
