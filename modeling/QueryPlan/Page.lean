import QueryPlan.Error
import QueryPlan.Sql.Statement

/-!
# Page windows

A requested page number and page size become a window of rows within configured limits. The page
must lie between one and the ceiling; the size is clamped; the offset must fit 64 bits.
-/

namespace QueryPlan
set_option autoImplicit false
open Number

/-- The limits on page sizes and page numbers. -/
structure PageLimits where
  /-- The size of a page when the request names none. -/
  defaultPerPage : Nat := 25
  /-- The largest page size. -/
  maxPerPage : Nat := 100
  /-- The largest page number. -/
  maxPage : Nat := 10000
  deriving DecidableEq, Repr

/-- The rows of one page. -/
structure PageWindow where
  /-- The number of the page, counted from one. -/
  page : Nat
  /-- The size of the page. -/
  perPage : Nat
  /-- The number of rows to take. -/
  limit : Nat
  /-- The number of rows to skip. -/
  offset : Nat
  deriving DecidableEq, Repr

/-- The clause that takes the rows of a window, after skipping those before it. -/
def PageWindow.clause (w : PageWindow) : String :=
  "LIMIT " ++ Nat.repr w.limit ++ (if 0 < w.offset then " OFFSET " ++ Nat.repr w.offset else "")

namespace PageLimits

/-- The page size that a request gets: at least one and at most the largest. -/
def pageSize (limits : PageLimits) (requested : Option Int) : Nat :=
  let greatest := max limits.maxPerPage 1
  match requested with
  | some n => if n < 1 then 1 else min n.toNat greatest
  | none => min (max limits.defaultPerPage 1) greatest

/-- The window of a requested page and page size. -/
def window (limits : PageLimits) (page perPage : Option Int) : Except QueryError PageWindow :=
  let number := page.getD 1
  if number < 1 ∨ limits.maxPage < number.toNat then
    .error (Cause.pageOutOfRange number limits.maxPage).toError
  else
    let number := number.toNat
    let size := limits.pageSize perPage
    let offset := (number - 1) * size
    if maxUnsigned < offset then .error (Cause.offsetOverflow number size).toError
    else .ok ⟨number, size, size, offset⟩

end PageLimits

/-- One page of records with the number of records on all pages. -/
structure Page (α : Type) where
  /-- The records of the page. -/
  data : List α
  /-- The number of the page. -/
  page : Nat
  /-- The size of a page. -/
  perPage : Nat
  /-- The number of records on all pages. -/
  totalCount : Nat

namespace Page
variable {α : Type}

/-- The page of a window. -/
def ofWindow (data : List α) (w : PageWindow) (totalCount : Nat) : Page α :=
  ⟨data, w.page, w.perPage, totalCount⟩

/-- The number of pages that all records fill; none if a page has no room. -/
def totalPages (p : Page α) : Nat :=
  if p.perPage = 0 then 0
  else p.totalCount / p.perPage + if p.totalCount % p.perPage = 0 then 0 else 1

/-- Whether there are records after these. -/
def hasNext (p : Page α) : Bool := p.page < p.totalPages

/-- Whether there are records before these. -/
def hasPrevious (p : Page α) : Bool := 1 < p.page

end Page
end QueryPlan
