import QueryPlan.Proofs.Walk

/-!
# Handles start over

A handle on records keeps nothing of what it was asked before. Whatever a caller asks of it, in any
order and while the store fails and recovers, each reply is told from the plan, the rows and whether
the store is out of order at that time (`Step.answer`), and so are the calls that the store receives
(`Step.calls`). Making the handle is no call at all (`search_restartable`).
-/

namespace QueryPlan
set_option autoImplicit false

/-! ### Stores that may be out of order -/

section
variable {σ : Type}

/-- A store of rows over any state, with what can be seen of the state: the rows, whether the store
is out of order, and the calls received. -/
structure RowStore (σ : Type) where
  executor : Executor (StateM σ)
  view : σ → TableStore
  /-- The error of every call while the store is out of order. -/
  failure : QueryError
  fail : σ → σ
  recover : σ → σ
  /-- A fetch skips the offset and takes the limit. -/
  fetch_reply : ∀ table plan s, (executor.fetch table plan s).1 =
    if (view s).failing then .error failure
    else .ok (((view s).rows.drop plan.window.offset).take plan.window.limit)
  /-- A count counts all rows. -/
  count_reply : ∀ table plan s, (executor.count table plan s).1 =
    if (view s).failing then .error failure else .ok (view s).rows.length
  /-- A call is noted and changes nothing else. -/
  fetch_view : ∀ table plan s, view (executor.fetch table plan s).2 =
    { view s with calls := (view s).calls ++ [.fetch table plan.window.limit plan.window.offset] }
  count_view : ∀ table plan s, view (executor.count table plan s).2 =
    { view s with calls := (view s).calls ++ [.count table plan.window.limit plan.window.offset] }
  fail_view : ∀ s, view (fail s) = { view s with failing := true }
  recover_view : ∀ s, view (recover s) = { view s with failing := false }

/-- The store of a table is one, as it is. -/
def TableStore.rowStore : RowStore TableStore where
  executor := executor
  view s := s
  failure := unavailable
  fail s := { s with failing := true }
  recover s := { s with failing := false }
  fetch_reply _ _ _ := rfl
  count_reply _ _ _ := rfl
  fetch_view _ _ _ := rfl
  count_view _ _ _ := rfl
  fail_view _ := rfl
  recover_view _ := rfl

/-! ### Steps -/

namespace Records

/-- What a caller may ask of a handle, and what may befall its store in between. -/
inductive Step where
  | load
  | first
  | count
  | paginate
  | stream
  | fail
  | recover
  deriving DecidableEq, Repr

/-- What comes of a step. -/
inductive Reply where
  | rows (outcome : Except QueryError (List Record))
  | row (outcome : Except QueryError (Option Record))
  | total (outcome : Except QueryError Nat)
  | page (outcome : Except QueryError (Page Record))
  | items (items : List (Except QueryError Record))
  | silence

/-- One step with a handle and its store. -/
def perform (store : RowStore σ) (records : Records (StateM σ)) : Step → StateM σ Reply
  | .load => Reply.rows <$> records.load
  | .first => Reply.row <$> records.first
  | .count => Reply.total <$> records.count
  | .paginate => Reply.page <$> records.paginate
  | .stream => Reply.items <$> records.stream
  | .fail => fun s => (.silence, store.fail s)
  | .recover => fun s => (.silence, store.recover s)

/-- Steps one after the other. -/
def run (store : RowStore σ) (records : Records (StateM σ)) (steps : List Step) :
    StateM σ (List Reply) :=
  steps.mapM (perform store records)

/-! ### What is expected of them -/

/-- The page of a plan, unless the store is out of order. -/
def loaded (failure : QueryError) (rows : List Record) (plan : Plan) (failing : Bool) :
    Except QueryError (List Record) :=
  if failing then .error failure
  else .ok ((rows.drop plan.window.offset).take plan.window.limit)

/-- The number of all rows, unless the store is out of order. -/
def counted (failure : QueryError) (rows : List Record) (failing : Bool) : Except QueryError Nat :=
  if failing then .error failure else .ok rows.length

/-- Rows one by one; an error is the only item. -/
def streamed : Except QueryError (List Record) → List (Except QueryError Record)
  | .error e => [.error e]
  | .ok rows => rows.map .ok

/-- A page with the number of rows on all pages. -/
def paginated (plan : Plan) (data : Except QueryError (List Record))
    (total : Except QueryError Nat) : Except QueryError (Page Record) := do
  let data ← data
  let n ← total
  .ok (Page.ofWindow data plan.window n)

namespace Step

/-- The reply to a step, told from the plan, the rows and whether the store is out of order. -/
def answer (failure : QueryError) (rows : List Record) (plan : Plan) (failing : Bool) : Step → Reply
  | load => .rows (loaded failure rows plan failing)
  | first => .row ((loaded failure rows plan failing).map List.head?)
  | count => .total (counted failure rows failing)
  | paginate =>
    .page (paginated plan (loaded failure rows plan failing) (counted failure rows failing))
  | stream => .items (streamed (loaded failure rows plan failing))
  | fail | recover => .silence

/-- The calls that a step makes: nothing is counted for a page that could not be loaded. -/
def calls (table : String) (plan : Plan) (failing : Bool) : Step → List ExecutorCall
  | load | stream => [.fetch table plan.window.limit plan.window.offset]
  | first => [.fetch table 1 plan.window.offset]
  | count => [.count table plan.window.limit plan.window.offset]
  | paginate =>
    .fetch table plan.window.limit plan.window.offset ::
      if failing then [] else [.count table plan.window.limit plan.window.offset]
  | fail | recover => []

/-- Whether the store is out of order after a step. -/
def failingAfter (failing : Bool) : Step → Bool
  | fail => true
  | recover => false
  | _ => failing

/-- The store after a step. -/
def after (table : String) (plan : Plan) (seen : TableStore) (step : Step) : TableStore :=
  { seen with
    failing := step.failingAfter seen.failing
    calls := seen.calls ++ step.calls table plan seen.failing }

/-- Each step with whether the store is out of order when it is taken. -/
def moments (failing : Bool) : List Step → List (Step × Bool)
  | [] => []
  | step :: steps => (step, failing) :: moments (step.failingAfter failing) steps

end Step

end Records

/-! ### Computations with a store -/

/-- The store with more calls noted. -/
def TableStore.noting (seen : TableStore) (calls : List ExecutorCall) : TableStore :=
  { seen with calls := seen.calls ++ calls }

namespace RowStore
variable {store : RowStore σ} {s : σ} {α β : Type}

/-- What a computation returns in a state and the calls that the store receives from it. -/
structure Replies (store : RowStore σ) (s : σ) (action : StateM σ α) (reply : α)
    (calls : List ExecutorCall) : Prop where
  reply : (action s).1 = reply
  view : store.view (action s).2 = (store.view s).noting calls

theorem Replies.map {action : StateM σ α} {reply : α} {calls : List ExecutorCall}
    (h : store.Replies s action reply calls) (f : α → β) :
    store.Replies s (f <$> action) (f reply) calls :=
  ⟨congrArg f h.reply, h.view⟩

theorem Replies.pure (reply : α) : store.Replies s (Pure.pure reply) reply [] where
  reply := rfl
  view := by rw [TableStore.noting, List.append_nil]; rfl

/-- The second of two computations starts in the state that the first one leaves, which looks the
same but for its calls. -/
theorem Replies.bind {action : StateM σ α} {next : α → StateM σ β} {reply : α} {result : β}
    {calls later : List ExecutorCall} (h : store.Replies s action reply calls)
    (rest : ∀ t, store.view t = (store.view s).noting calls →
      store.Replies t (next reply) result later) :
    store.Replies s (action >>= next) result (calls ++ later) := by
  have rest := rest (action s).2 h.view
  rw [← h.reply] at rest
  refine ⟨rest.reply, rest.view.trans ?_⟩
  rw [h.view, TableStore.noting, TableStore.noting, TableStore.noting, List.append_assoc]

variable {records : Records (StateM σ)}

theorem replies_fetch (bound : records.executor = store.executor) (plan : Plan) :
    store.Replies s (records.executor.fetch records.table plan)
      (Records.loaded store.failure (store.view s).rows plan (store.view s).failing)
      [.fetch records.table plan.window.limit plan.window.offset] := by
  rw [bound]
  exact ⟨store.fetch_reply _ _ s, store.fetch_view _ _ s⟩

theorem replies_count (bound : records.executor = store.executor) :
    store.Replies s records.count
      (Records.counted store.failure (store.view s).rows (store.view s).failing)
      [.count records.table records.plan.window.limit records.plan.window.offset] := by
  rw [Records.count, bound]
  exact ⟨store.count_reply _ _ s, store.count_view _ _ s⟩

end RowStore

/-! ### One step -/

namespace Records
variable {store : RowStore σ} {records : Records (StateM σ)} {s : σ}

/-- Taking one row takes the first row of the page, which has room for it. -/
theorem map_head?_firstRow {failure : QueryError} {rows : List Record} {plan : Plan}
    (room : 1 ≤ plan.window.limit) (failing : Bool) :
    (loaded failure rows plan.firstRow failing).map List.head? =
      (loaded failure rows plan failing).map List.head? := by
  cases failing with
  | true => rfl
  | false =>
    apply congrArg Except.ok
    show ((rows.drop plan.window.offset).take 1).head? =
      ((rows.drop plan.window.offset).take plan.window.limit).head?
    rw [List.head?_take, List.head?_take, if_neg Nat.one_ne_zero, if_neg (by omega)]

theorem replies_first (bound : records.executor = store.executor)
    (room : 1 ≤ records.plan.window.limit) :
    store.Replies s records.first
      ((loaded store.failure (store.view s).rows records.plan (store.view s).failing).map
        List.head?)
      [.fetch records.table 1 records.plan.window.offset] := by
  rw [← map_head?_firstRow room]
  exact (store.replies_fetch bound records.plan.firstRow).map (Except.map List.head?)

/-- A page is counted only if it could be loaded. -/
theorem replies_paginate (bound : records.executor = store.executor) :
    store.Replies s records.paginate
      (paginated records.plan
        (loaded store.failure (store.view s).rows records.plan (store.view s).failing)
        (counted store.failure (store.view s).rows (store.view s).failing))
      (Step.paginate.calls records.table records.plan (store.view s).failing) := by
  have fetched : store.Replies s records.load _ _ := store.replies_fetch bound records.plan
  cases failing : (store.view s).failing with
  | true =>
    rw [failing] at fetched
    exact fetched.bind fun t _ => .pure _
  | false =>
    rw [failing] at fetched
    refine fetched.bind fun t same => ?_
    have total : store.Replies t records.count _ _ := store.replies_count bound
    rw [same, TableStore.noting, failing] at total
    exact total.bind fun _ _ => .pure _

theorem replies_stream (bound : records.executor = store.executor) :
    store.Replies s records.stream
      (streamed (loaded store.failure (store.view s).rows records.plan (store.view s).failing))
      [.fetch records.table records.plan.window.limit records.plan.window.offset] := by
  have fetched : store.Replies s records.load _ _ := store.replies_fetch bound records.plan
  refine fetched.bind fun t _ => ?_
  cases loaded store.failure (store.view s).rows records.plan (store.view s).failing with
  | error e => exact .pure _
  | ok rows => exact .pure _

/-- The first row, the rows one by one and the counted page are all made of what loading and
counting return in the same state. -/
theorem replies_agree (bound : records.executor = store.executor)
    (room : 1 ≤ records.plan.window.limit) (s : σ) :
    (records.first s).1 = (records.load s).1.map List.head? ∧
      (records.stream s).1 = streamed (records.load s).1 ∧
      (records.paginate s).1 =
        paginated records.plan (records.load s).1 (records.count s).1 := by
  have loaded : (records.load s).1 = _ := (store.replies_fetch bound records.plan).reply
  rw [(replies_first bound room).reply, (replies_stream bound).reply,
    (replies_paginate bound).reply, loaded, (store.replies_count bound).reply]
  exact ⟨rfl, rfl, rfl⟩

/-- A step returns and leaves behind what is expected of it. -/
theorem perform_eq (bound : records.executor = store.executor)
    (room : 1 ≤ records.plan.window.limit) (step : Step) (s : σ) :
    (perform store records step s).1 =
        step.answer store.failure (store.view s).rows records.plan (store.view s).failing ∧
      store.view (perform store records step s).2 =
        step.after records.table records.plan (store.view s) := by
  have settle {action : StateM σ Reply} {reply : Reply} {calls : List ExecutorCall}
      (h : store.Replies s action reply calls) :
      (action s).1 = reply ∧ store.view (action s).2 = (store.view s).noting calls :=
    ⟨h.reply, h.view⟩
  -- Only the two steps that befall the store change more of it than its calls.
  cases step with
  | load => exact settle ((store.replies_fetch bound records.plan).map Reply.rows)
  | first => exact settle ((replies_first bound room).map Reply.row)
  | count => exact settle ((store.replies_count bound).map Reply.total)
  | paginate => exact settle ((replies_paginate bound).map Reply.page)
  | stream => exact settle ((replies_stream bound).map Reply.items)
  | fail =>
    refine ⟨rfl, (store.fail_view s).trans ?_⟩
    simp [Step.after, Step.failingAfter, Step.calls]
  | recover =>
    refine ⟨rfl, (store.recover_view s).trans ?_⟩
    simp [Step.after, Step.failingAfter, Step.calls]

/-! ### Many steps -/

theorem run_nil (s : σ) : run store records [] s = ([], s) := rfl

theorem run_cons (step : Step) (steps : List Step) (s : σ) :
    run store records (step :: steps) s =
      ((perform store records step s).1 ::
          (run store records steps (perform store records step s).2).1,
        (run store records steps (perform store records step s).2).2) := by
  rw [run, List.mapM_cons]
  rfl

/-- What comes of steps one after the other: at each of them only whether the store is out of order
is left of the earlier ones. -/
theorem run_eq (bound : records.executor = store.executor)
    (room : 1 ≤ records.plan.window.limit) (steps : List Step) (s : σ) :
    (run store records steps s).1 = (Step.moments (store.view s).failing steps).map
        (fun m => m.1.answer store.failure (store.view s).rows records.plan m.2) ∧
      store.view (run store records steps s).2 =
        { rows := (store.view s).rows
          failing := steps.foldl Step.failingAfter (store.view s).failing
          calls := (store.view s).calls ++ (Step.moments (store.view s).failing steps).flatMap
            fun m => m.1.calls records.table records.plan m.2 } := by
  induction steps generalizing s with
  | nil =>
    rw [run_nil]
    simp [Step.moments]
  | cons step steps ih =>
    obtain ⟨reply, view⟩ := perform_eq bound room step s
    obtain ⟨replies, final⟩ := ih (perform store records step s).2
    rw [view] at replies final
    rw [run_cons]
    constructor
    · rw [reply, replies]
      rfl
    · rw [final]
      simp [Step.after, Step.moments]

end Records

/-! ### Sessions -/

namespace EntityType
variable {store : RowStore σ} {e : EntityType} {settings : Settings} {request : Request}

/-- A handle is made for a request, and then steps are taken with it. -/
def session (e : EntityType) (store : RowStore σ) (settings : Settings) (request : Request)
    (steps : List Records.Step) : StateM σ (Except QueryError (List Records.Reply)) :=
  match e.search store.executor settings request with
  | .error err => pure (.error err)
  | .ok records => .ok <$> records.run store steps

/-- The handle of a plan. -/
theorem search_of_compile {m : Type → Type} (executor : Executor m) {plan : Plan}
    (compiled : e.compile settings request = .ok plan) :
    e.search executor settings request = .ok ⟨executor, e.schema.table, plan⟩ :=
  bind_eq_ok_iff.2 ⟨plan, compiled, rfl⟩

/-- A compiled page has room for a row. -/
theorem limit_pos_of_compile {plan : Plan} (compiled : e.compile settings request = .ok plan) :
    1 ≤ plan.window.limit := by
  obtain ⟨a, stages⟩ := compile_eq_ok_iff.1 compiled
  obtain ⟨-, -, window⟩ := PageLimits.window_eq_ok_iff.1 stages.window
  rw [window]
  exact settings.pagination.pageSize_pos request.perPage

end EntityType

/-- **Handles start over.** For a request that compiles, a store that serves rows by skipping the
offset and taking the limit, and any steps with the handle, among which the store fails and
recovers: the reply to each step is told from the plan, the rows and whether the store is out of
order at that step. The store receives the calls of the steps and no others, so none from making the
handle, and its rows stay as they are. In any state the first row is the first one of the page, what
is streamed is the page or else one error, and the page with the number of all rows is made of what
loading and counting return. -/
theorem search_restartable (store : RowStore σ) {e : EntityType} {settings : Settings}
    {request : Request} {plan : Plan} (compiled : e.compile settings request = .ok plan) :
    (∀ steps s,
      (e.session store settings request steps s).1 =
        .ok ((Records.Step.moments (store.view s).failing steps).map
          fun m => m.1.answer store.failure (store.view s).rows plan m.2) ∧
      store.view (e.session store settings request steps s).2 =
        { rows := (store.view s).rows
          failing := steps.foldl Records.Step.failingAfter (store.view s).failing
          calls := (store.view s).calls ++
            (Records.Step.moments (store.view s).failing steps).flatMap
              fun m => m.1.calls e.schema.table plan m.2 }) ∧
    ∃ records, e.search store.executor settings request = .ok records ∧ ∀ s,
      (records.first s).1 = (records.load s).1.map List.head? ∧
      (records.stream s).1 = Records.streamed (records.load s).1 ∧
      (records.paginate s).1 = Records.paginated plan (records.load s).1 (records.count s).1 := by
  have bound := EntityType.search_of_compile store.executor compiled
  have room := EntityType.limit_pos_of_compile compiled
  constructor
  · intro steps s
    obtain ⟨replies, view⟩ :=
      @Records.run_eq _ store ⟨store.executor, e.schema.table, plan⟩ rfl room steps s
    rw [EntityType.session, bound]
    exact ⟨congrArg Except.ok replies, view⟩
  · exact ⟨_, bound, Records.replies_agree rfl room⟩

open Sample in
/-- The second page of a store of five rows, asked for before, while and after it is out of
order. -/
theorem shelf_restarts :
    (∃ plan, articles.compile threePages { page := some 2 } = .ok plan) ∧
    ∃ final,
      articles.session TableStore.rowStore threePages { page := some 2 }
          [.load, .fail, .paginate, .stream, .recover, .first, .paginate] shelf =
        (.ok [.rows (.ok [[("id", .int 2)], [("id", .int 3)]]), .silence,
          .page (.error TableStore.unavailable), .items [.error TableStore.unavailable], .silence,
          .row (.ok (some [("id", .int 2)])),
          .page (.ok ⟨[[("id", .int 2)], [("id", .int 3)]], 2, 2, 5⟩)], final) ∧
      final.calls = shelf.calls ++ [.fetch "articles" 2 2, .fetch "articles" 2 2,
        .fetch "articles" 2 2, .fetch "articles" 1 2, .fetch "articles" 2 2,
        .count "articles" 2 2] := by
  have compiled : ∃ plan, articles.compile threePages { page := some 2 } = .ok plan := ⟨_, rfl⟩
  obtain ⟨plan, made⟩ := compiled
  obtain ⟨replies, view⟩ := (search_restartable TableStore.rowStore made).1
    [.load, .fail, .paginate, .stream, .recover, .first, .paginate] shelf
  cases made
  exact ⟨⟨_, rfl⟩, _, Prod.ext replies rfl, congrArg TableStore.calls view⟩

end
end QueryPlan
