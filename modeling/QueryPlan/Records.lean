import QueryPlan.EntityType

/-!
# Records

A handle on the records that a plan selects. Nothing runs until the handle is asked for something,
and every request runs the plan anew. Executors may work in any monad; `TableStore` is one that
serves a fixed list of rows and notes each call.
-/

namespace QueryPlan
set_option autoImplicit false

/-- One row, by column name. -/
abbrev Record := List (String × Json)

/-- Runs plans against a store. -/
structure Executor (m : Type → Type) where
  /-- The rows of a table that a plan selects, within its window. -/
  fetch : String → Plan → m (Except QueryError (List Record))
  /-- The number of rows of a table that pass a plan's filters. -/
  count : String → Plan → m (Except QueryError Nat)

/-- A plan bound to an executor. -/
structure Records (m : Type → Type) where
  /-- What runs the plan. -/
  executor : Executor m
  table : String
  plan : Plan

namespace Records
variable {m : Type → Type} [Monad m]

/-- The rows of the page. -/
def load (r : Records m) : m (Except QueryError (List Record)) := r.executor.fetch r.table r.plan

/-- The first row of the page. -/
def first (r : Records m) : m (Except QueryError (Option Record)) := do
  let rows ← r.executor.fetch r.table r.plan.firstRow
  pure (rows.map List.head?)

/-- The number of rows on all pages. -/
def count (r : Records m) : m (Except QueryError Nat) := r.executor.count r.table r.plan

/-- The page with the number of rows on all pages, which is asked for only if the page could be
loaded. -/
def paginate (r : Records m) : m (Except QueryError (Page Record)) := do
  match ← r.load with
  | .error e => pure (.error e)
  | .ok data =>
    let total ← r.count
    pure (total.map fun n => Page.ofWindow data r.plan.window n)

/-- The rows of the page one by one; a failure is the only item. -/
def stream (r : Records m) : m (List (Except QueryError Record)) := do
  match ← r.load with
  | .error e => pure [.error e]
  | .ok rows => pure (rows.map .ok)

end Records

/-- The records of a request for an entity type. -/
def EntityType.search {m : Type → Type} (e : EntityType) (executor : Executor m)
    (settings : Settings) (request : Request) : Except QueryError (Records m) := do
  let plan ← e.compile settings request
  .ok ⟨executor, e.schema.table, plan⟩

/-- A call that an executor received. -/
inductive ExecutorCall where
  | fetch (table : String) (limit offset : Nat)
  | count (table : String) (limit offset : Nat)
  deriving DecidableEq, Repr

/-- A store of one list of rows that may be out of order for a while. -/
structure TableStore where
  rows : List Record
  /-- Whether every call fails. -/
  failing : Bool := false
  /-- The calls received, oldest first. -/
  calls : List ExecutorCall := []

namespace TableStore

/-- The failure of a store that is out of order. -/
def unavailable : QueryError := (Cause.database "unavailable").toError

/-- What a call answers, and the store with the call noted. -/
def answer {α : Type} (call : ExecutorCall) (result : List Record → α) :
    StateM TableStore (Except QueryError α) := fun s =>
  (if s.failing then .error unavailable else .ok (result s.rows),
    { s with calls := s.calls ++ [call] })

/-- Serves the rows: a fetch skips the offset and takes the limit, a count counts all rows. -/
def executor : Executor (StateM TableStore) where
  fetch table plan :=
    answer (.fetch table plan.window.limit plan.window.offset) fun rows =>
      (rows.drop plan.window.offset).take plan.window.limit
  count table plan :=
    answer (.count table plan.window.limit plan.window.offset) List.length

end TableStore
end QueryPlan
