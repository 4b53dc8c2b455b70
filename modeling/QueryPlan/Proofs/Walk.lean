import Mathlib.Data.List.Basic
import QueryPlan.Proofs.Stages
import QueryPlan.Proofs.Window
import QueryPlan.Records

/-!
# Walking through the pages

A caller who wants every row asks for the first page and for the next one as long as there is one.
The offset of a page, the number of pages and whether there is a next one are computed apart, but
they agree: there is a next page if rows are left behind this one (`Page.hasNext_iff`). So the walk
ends on the last page, and its pages are the rows, each of them once and in their order
(`walk_visits_each_row`).
-/

namespace QueryPlan
set_option autoImplicit false
open Number

/-! ### The number of pages -/

namespace Page
variable {α : Type} {p : Page α}

/-- A number of pages is too small for all records if some are left over. -/
theorem lt_totalPages_iff (room : 1 ≤ p.perPage) (n : Nat) :
    n < p.totalPages ↔ n * p.perPage < p.totalCount := by
  unfold totalPages
  rw [if_neg (by omega)]
  split
  next full =>
    obtain ⟨pages, all⟩ := Nat.dvd_of_mod_eq_zero full
    rw [all, Nat.add_zero, Nat.mul_div_cancel_left _ room, Nat.mul_comm p.perPage]
    exact (Nat.mul_lt_mul_right room).symm
  next partly =>
    have apart : n * p.perPage ≠ p.totalCount := by
      intro same
      apply partly
      rw [← same]
      exact Nat.mul_mod_left ..
    rw [Nat.lt_succ_iff, Nat.le_div_iff_mul_le room]
    omega

/-- There is a next page if there are records behind this one. -/
theorem hasNext_iff (room : 1 ≤ p.perPage) :
    p.hasNext = true ↔ p.page * p.perPage < p.totalCount := by
  rw [← lt_totalPages_iff room, hasNext, decide_eq_true_iff]

/-- What lies behind a page is what its window neither skips nor takes. -/
theorem hasNext_ofWindow {limits : PageLimits} {number perPage : Option Int} {w : PageWindow}
    (window : limits.window number perPage = .ok w) (data : List α) (count : Nat) :
    (ofWindow data w count).hasNext = true ↔ w.offset + w.limit < count := by
  obtain ⟨⟨counted, -⟩, -, rfl⟩ := PageLimits.window_eq_ok_iff.1 window
  have behind : (number.getD 1).toNat * limits.pageSize perPage =
      ((number.getD 1).toNat - 1) * limits.pageSize perPage + limits.pageSize perPage := by
    rw [← Nat.succ_mul]
    congr 1
    omega
  rw [hasNext_iff (limits.pageSize_pos perPage)]
  show (number.getD 1).toNat * limits.pageSize perPage < count ↔
    ((number.getD 1).toNat - 1) * limits.pageSize perPage + limits.pageSize perPage < count
  rw [behind]

end Page

/-! ### Executors that serve rows -/

section
variable {σ : Type}

/-- Whether an executor serves a list of rows while its state is sound: a fetch skips the offset of
the plan and takes its limit, a count counts all rows, and the state stays sound. -/
structure Executor.Serves (executor : Executor (StateM σ)) (sound : σ → Prop) (rows : List Record) :
    Prop where
  fetch : ∀ table plan s, sound s → ∃ t, sound t ∧ executor.fetch table plan s =
    (.ok ((rows.drop plan.window.offset).take plan.window.limit), t)
  count : ∀ table plan s, sound s → ∃ t, sound t ∧
    executor.count table plan s = (.ok rows.length, t)

/-- A store serves its rows unless it is out of order. -/
theorem TableStore.executor_serves (rows : List Record) :
    TableStore.executor.Serves (fun s => s.rows = rows ∧ s.failing = false) rows := by
  constructor
  all_goals
    rintro table plan ⟨held, failing, calls⟩ ⟨rfl, working⟩
    cases working
    refine ⟨_, ?_, rfl⟩
    exact ⟨rfl, rfl⟩

namespace Records
variable {records : Records (StateM σ)} {sound : σ → Prop} {rows : List Record} {s : σ}

/-- The same records on another page. -/
def onWindow {m : Type → Type} (r : Records m) (w : PageWindow) : Records m :=
  { r with plan := { r.plan with window := w } }

/-- Loading a page from an executor that serves rows. -/
theorem paginate_of_serves (serves : records.executor.Serves sound rows) (working : sound s)
    (w : PageWindow) :
    ∃ t, sound t ∧ (records.onWindow w).paginate s =
      (.ok (Page.ofWindow ((rows.drop w.offset).take w.limit) w rows.length), t) := by
  obtain ⟨between, still, fetched⟩ :=
    serves.fetch records.table (records.onWindow w).plan s working
  obtain ⟨t, sound_t, counted⟩ :=
    serves.count records.table (records.onWindow w).plan between still
  refine ⟨t, sound_t, ?_⟩
  have loaded : (records.onWindow w).load s =
      (.ok ((rows.drop w.offset).take w.limit), between) := fetched
  have total : (records.onWindow w).count between = (.ok rows.length, t) := counted
  simp only [paginate, bind, StateT.bind, loaded, total]
  rfl

/-- The page under a number, within limits on pages. -/
def pageAt {m : Type → Type} [Monad m] (r : Records m) (limits : PageLimits)
    (perPage number : Option Int) : m (Except QueryError (Page Record)) :=
  match limits.window number perPage with
  | .error e => pure (.error e)
  | .ok w => (r.onWindow w).paginate

/-- A request for a page hands out the records of that page. -/
theorem search_withPage {m : Type → Type} {e : EntityType} {executor : Executor m}
    {settings : Settings} {request : Request} {found : Records m}
    (compiled : e.search executor settings request = .ok found) {number : Int} {w : PageWindow}
    (window : settings.pagination.window (some number) request.perPage = .ok w) :
    e.search executor settings (request.withPage number) = .ok (found.onWindow w) := by
  obtain ⟨plan, made, bound⟩ := bind_eq_ok_iff.1 compiled
  obtain ⟨a, stages⟩ := EntityType.compile_eq_ok_iff.1 made
  have turned : e.compile settings (request.withPage number) = .ok { plan with window := w } :=
    EntityType.compile_eq_ok_iff.2 ⟨a, stages.admitted, stages.sized, stages.known,
      stages.conditions, stages.groups, stages.order, window, stages.dropped⟩
  cases bound
  exact bind_eq_ok_iff.2 ⟨_, turned, rfl⟩

/-! ### The walk -/

/-- The pages that a caller gets who asks for the page under a number and then for the next one as
long as there is one. -/
inductive Walk (ask : Nat → StateM σ (Except QueryError (Page Record))) :
    Nat → σ → List (Page Record) → σ → Prop
  | last {n : Nat} {s t : σ} {page : Page Record} :
      ask n s = (.ok page, t) → page.hasNext = false → Walk ask n s [page] t
  | next {n : Nat} {s t u : σ} {page : Page Record} {rest : List (Page Record)} :
      ask n s = (.ok page, t) → page.hasNext = true → Walk ask (n + 1) t rest u →
      Walk ask n s (page :: rest) u

/-- There is only one way to walk. -/
theorem Walk.unique {ask : Nat → StateM σ (Except QueryError (Page Record))} {n : Nat} {s t u : σ}
    {pages others : List (Page Record)} (h : Walk ask n s pages t) (other : Walk ask n s others u) :
    pages = others ∧ t = u := by
  induction h generalizing others u with
  | last answer done =>
    cases other with
    | last again _ =>
      cases answer.symm.trans again
      exact ⟨rfl, rfl⟩
    | next again more _ =>
      cases answer.symm.trans again
      rw [done] at more
      cases more
  | next answer more _ ih =>
    cases other with
    | last again done =>
      cases answer.symm.trans again
      rw [done] at more
      cases more
    | next again _ rest =>
      cases answer.symm.trans again
      obtain ⟨rfl, rfl⟩ := ih rest
      exact ⟨rfl, rfl⟩

/-- The page of rows under a number, with `size` rows on each page. -/
def nthPage (rows : List Record) (size n : Nat) : Page Record where
  data := (rows.drop ((n - 1) * size)).take size
  page := n
  perPage := size
  totalCount := rows.length

/-- The number of the last page, which is the first one if there are no rows. -/
def lastNumber (rows : List Record) (size : Nat) : Nat := max 1 (nthPage rows size 1).totalPages

/-- Rows are left behind a page just if it is not the last one. -/
theorem lt_lastNumber_iff {rows : List Record} {size : Nat} (room : 1 ≤ size) {n : Nat}
    (counted : 1 ≤ n) : n < lastNumber rows size ↔ n * size < rows.length := by
  have total := Page.lt_totalPages_iff (p := nthPage rows size 1) room n
  have later : n < lastNumber rows size ↔ n < (nthPage rows size 1).totalPages := by
    unfold lastNumber
    omega
  exact later.trans total

theorem hasNext_nthPage {rows : List Record} {size : Nat} (room : 1 ≤ size) {n : Nat}
    (counted : 1 ≤ n) : (nthPage rows size n).hasNext = decide (n < lastNumber rows size) := by
  rw [Bool.eq_iff_iff, decide_eq_true_iff, lt_lastNumber_iff room counted]
  exact Page.hasNext_iff (p := nthPage rows size n) room

/-- The pages from one number on hold the rows from there on, if nothing is left over. -/
theorem data_nthPages {rows : List Record} {size : Nat} (k n : Nat) (counted : 1 ≤ n)
    (covered : rows.length ≤ (n + k) * size) :
    ((List.range' n (k + 1)).map (nthPage rows size)).flatMap Page.data =
      rows.drop ((n - 1) * size) := by
  have here : (n - 1) * size + size = n * size := by
    rw [← Nat.succ_mul, Nat.succ_eq_add_one, Nat.sub_add_cancel counted]
  induction k generalizing n with
  | zero =>
    have rest : (rows.drop ((n - 1) * size)).length ≤ size := by
      rw [List.length_drop]
      rw [Nat.add_zero] at covered
      omega
    show (rows.drop ((n - 1) * size)).take size ++ [] = _
    rw [List.append_nil, List.take_of_length_le rest]
  | succ k ih =>
    have later := ih (n + 1) (by omega) (by rwa [Nat.add_assoc, Nat.add_comm 1 k])
      (by rw [Nat.add_sub_cancel, Nat.succ_mul])
    rw [Nat.add_sub_cancel] at later
    rw [List.range'_succ, List.map_cons, List.flatMap_cons, later, ← here, ← List.drop_drop]
    exact List.take_append_drop size _

section
variable {limits : PageLimits} {perPage : Option Int}

/-- A page with a window is loaded from it. -/
theorem pageAt_of_window (serves : records.executor.Serves sound rows) (working : sound s)
    {number : Option Int} {w : PageWindow} (window : limits.window number perPage = .ok w) :
    ∃ t, sound t ∧ records.pageAt limits perPage number s =
      (.ok (Page.ofWindow ((rows.drop w.offset).take w.limit) w rows.length), t) := by
  obtain ⟨t, still, loaded⟩ := paginate_of_serves serves working w
  refine ⟨t, still, ?_⟩
  unfold pageAt
  rw [window]
  exact loaded

/-- The pages up to the last one can be had if their numbers are within range. -/
theorem pageAt_of_le_lastNumber (serves : records.executor.Serves sound rows) (working : sound s)
    (few : rows.length ≤ maxUnsigned)
    (enough : lastNumber rows (limits.pageSize perPage) ≤ limits.maxPage) {n : Nat}
    (counted : 1 ≤ n) (inside : n ≤ lastNumber rows (limits.pageSize perPage)) :
    ∃ t, sound t ∧ records.pageAt limits perPage (some (n : Int)) s =
      (.ok (nthPage rows (limits.pageSize perPage) n), t) := by
  have near : (n - 1) * limits.pageSize perPage ≤ maxUnsigned := by
    rcases Nat.eq_or_lt_of_le counted with first | later
    · rw [← first, Nat.sub_self, Nat.zero_mul]
      exact Nat.zero_le _
    · -- A later page has rows before it, and there are only so many.
      have before : n - 1 < lastNumber rows (limits.pageSize perPage) := by omega
      have behind := (lt_lastNumber_iff (limits.pageSize_pos perPage) (by omega)).1 before
      omega
  have low : (n : Int) ≤ limits.maxPage := Int.ofNat_le.2 (Nat.le_trans inside enough)
  have window : limits.window (some (n : Int)) perPage = .ok (limits.windowOf perPage n) :=
    PageLimits.window_eq_ok_iff.2 ⟨⟨Int.ofNat_le.2 counted, low⟩, near, rfl⟩
  exact pageAt_of_window serves working window

/-- The walk from a page on, by induction on the number of pages that are left behind it. -/
theorem walk_of_serves (serves : records.executor.Serves sound rows) (working : sound s)
    (few : rows.length ≤ maxUnsigned)
    (enough : lastNumber rows (limits.pageSize perPage) ≤ limits.maxPage)
    (k n : Nat) (counted : 1 ≤ n) (left : n + k = lastNumber rows (limits.pageSize perPage)) :
    ∃ t, Walk (fun n => records.pageAt limits perPage (some (n : Int))) n s
      ((List.range' n (k + 1)).map (nthPage rows (limits.pageSize perPage))) t := by
  have room := limits.pageSize_pos perPage
  obtain ⟨between, still, answer⟩ :=
    pageAt_of_le_lastNumber serves working few enough counted (by omega)
  induction k generalizing n s between with
  | zero =>
    refine ⟨between, .last answer ?_⟩
    rw [hasNext_nthPage room counted]
    exact decide_eq_false (by omega)
  | succ k ih =>
    obtain ⟨after, sound_after, next⟩ :=
      pageAt_of_le_lastNumber serves still few enough (n := n + 1) (by omega) (by omega)
    obtain ⟨t, rest⟩ := ih still (n + 1) (by omega) (by omega) after sound_after next
    refine ⟨t, .next answer ?_ rest⟩
    rw [hasNext_nthPage room counted]
    exact decide_eq_true (by omega)

end
end Records

/-- **Walking through the pages.** Under settings that are accepted, whatever page size is asked
for, an executor that serves rows tells of a next page if there are rows behind the window of the
one that was asked for. If the pages are no more than the largest page number, asking for the first
one and for the next one as long as there is one comes to an end, on the last page, and hands out
every row once and in its order. A request that led to the records gets these pages too, each if the
request asks for its number. -/
theorem walk_visits_each_row {records : Records (StateM σ)} {sound : σ → Prop} {rows : List Record}
    (serves : records.executor.Serves sound rows) (few : rows.length ≤ maxUnsigned)
    {settings : Settings} (accepted : settings.validate = .ok settings) (perPage : Option Int)
    {start : σ} (working : sound start) :
    (∀ number w, settings.pagination.window number perPage = .ok w →
      ∃ page next, records.pageAt settings.pagination perPage number start = (.ok page, next) ∧
        (page.hasNext = true ↔ ∃ i, w.offset + w.limit ≤ i ∧ i < rows.length)) ∧
    (∃ first next, records.pageAt settings.pagination perPage (some 1) start = (.ok first, next) ∧
      (first.totalPages ≤ settings.pagination.maxPage →
        ∃ pages final,
          Records.Walk (fun n => records.pageAt settings.pagination perPage (some (n : Int))) 1
            start pages final ∧
          (∀ others last,
            Records.Walk (fun n => records.pageAt settings.pagination perPage (some (n : Int))) 1
              start others last → others = pages) ∧
          pages.flatMap Page.data = rows ∧
          pages.map Page.page = List.range' 1 (max 1 first.totalPages))) ∧
    ∀ (e : EntityType) (request : Request), request.perPage = perPage →
      e.search records.executor settings request = .ok records → ∀ number w,
        settings.pagination.window (some number) perPage = .ok w →
        ∃ found, e.search records.executor settings (request.withPage number) = .ok found ∧
          found.paginate = records.pageAt settings.pagination perPage (some number) := by
  have usable := (Settings.validate_eq_ok_iff.1 accepted).1
  have room := settings.pagination.pageSize_pos perPage
  refine ⟨?_, ?_, ?_⟩
  · intro number w window
    obtain ⟨next, -, answer⟩ := Records.pageAt_of_window serves working window
    refine ⟨_, next, answer, ?_⟩
    rw [Page.hasNext_ofWindow window]
    constructor
    · intro some_left
      exact ⟨_, Nat.le_refl _, some_left⟩
    · rintro ⟨i, behind, inside⟩
      exact Nat.lt_of_le_of_lt behind inside
  · have first := PageLimits.window_first usable.maxPage perPage
    obtain ⟨next, -, answer⟩ := Records.pageAt_of_window serves working first
    refine ⟨_, next, answer, fun enough => ?_⟩
    have within := Nat.max_le.2 ⟨usable.maxPage, enough⟩
    obtain ⟨k, length⟩ : ∃ k, 1 + k = Records.lastNumber rows
        (settings.pagination.pageSize perPage) := ⟨_, Nat.add_sub_cancel' (Nat.le_max_left ..)⟩
    obtain ⟨final, walk⟩ :=
      Records.walk_of_serves serves working few within k 1 (Nat.le_refl 1) length
    refine ⟨_, final, walk, fun others last other => (other.unique walk).1, ?_, ?_⟩
    · have covered : rows.length ≤ (1 + k) * settings.pagination.pageSize perPage := by
        apply Nat.le_of_not_lt
        intro left
        have more := (Records.lt_lastNumber_iff room (Nat.le_add_right 1 k)).2 left
        omega
      rw [Records.data_nthPages k 1 (Nat.le_refl 1) covered, Nat.sub_self, Nat.zero_mul]
      rfl
    · show _ = List.range' 1 (Records.lastNumber rows (settings.pagination.pageSize perPage))
      rw [List.map_map, ← length, Nat.add_comm 1 k]
      exact List.map_id _
  · rintro e request rfl compiled number w window
    refine ⟨records.onWindow w, Records.search_withPage compiled window, ?_⟩
    rw [Records.pageAt, window]

namespace Sample

/-- A store of five rows that has answered a call before. -/
def shelf : TableStore where
  rows := [[("id", .int 0)], [("id", .int 1)], [("id", .int 2)], [("id", .int 3)], [("id", .int 4)]]
  calls := [.count "articles" 2 0]

/-- Settings with as many pages as the store fills, two rows on each. -/
def threePages : Settings where
  pagination := ⟨2, 2, 3⟩

/-- All rows of the store, to be had in pages. -/
def shelfRecords : Records (StateM TableStore) where
  executor := TableStore.executor
  table := "articles"
  plan := ⟨[], [], [], ⟨1, 2, 2, 0⟩, []⟩

end Sample

open Sample in
/-- The fifth row is alone on the third page, which is the last one though it is not full. A request
for the third page gets it. -/
theorem shelf_walk :
    threePages.validate = .ok threePages ∧
      articles.search TableStore.executor threePages {} = .ok shelfRecords ∧ (∃ pages final,
      Records.Walk (fun n => shelfRecords.pageAt threePages.pagination none (some (n : Int))) 1
        shelf pages final ∧
      pages.flatMap Page.data = shelf.rows ∧ pages.map Page.page = [1, 2, 3]) ∧
      ∃ found,
        articles.search TableStore.executor threePages (Request.withPage {} 3) = .ok found ∧
        found.paginate = shelfRecords.pageAt threePages.pagination none (some 3) := by
  have accepted : threePages.validate = .ok threePages := by decide
  have serves : shelfRecords.executor.Serves
      (fun s => s.rows = shelf.rows ∧ s.failing = false) shelf.rows :=
    TableStore.executor_serves shelf.rows
  have searched : articles.search TableStore.executor threePages {} = .ok shelfRecords := rfl
  obtain ⟨-, ⟨first, next, answer, walk⟩, turned⟩ :=
    walk_visits_each_row serves (by decide) accepted none ⟨rfl, rfl⟩
  have total : first.totalPages = 3 := by
    cases answer
    rfl
  obtain ⟨pages, final, walked, -, rows, numbers⟩ := walk (by rw [total]; decide)
  rw [total] at numbers
  refine ⟨accepted, searched, ⟨pages, final, walked, rows, numbers⟩, ?_⟩
  exact turned articles {} rfl searched 3 ⟨3, 2, 2, 4⟩ rfl

end
end QueryPlan
