import Catalog.Resolve.Query

/-!
# Tracing

Tracing is made of queries, and leaves warnings. The warnings that were left before a failure are
kept.
-/

namespace Catalog

/-- A computation that asks for modules and leaves warnings. -/
abbrev Tracing := ExceptT Fault (StateT (List String) Query)

namespace Tracing

/-- Leaves a warning. -/
def warn (warning : String) : Tracing Unit :=
  ExceptT.lift (modify fun warnings => warnings ++ [warning])

/-- A query as a part of tracing. -/
def query {α : Type} (q : Query α) : Tracing α :=
  ExceptT.mk (StateT.lift q.attempt)

/-- The outcome and the warnings of tracing. -/
def collect {α : Type} (t : Tracing α) : Query (Except Fault α × List String) :=
  t.run.run []

end Tracing

/-- The first value that is found for an item of a list. -/
def Query.firstSome {α β : Type} (find : α → Query (Option β)) : List α → Query (Option β)
  | [] => return none
  | a :: rest => do
    match ← find a with
    | some b => return some b
    | none => firstSome find rest

end Catalog
