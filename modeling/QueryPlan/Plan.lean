import QueryPlan.Condition
import QueryPlan.Order.Term
import QueryPlan.Page

/-!
# Plans

A plan is a compiled request: conditions that must all hold, groups of which one must hold, an
ordering and a window of rows. Rendering it gives a statement in each dialect:

    SELECT * FROM "articles"
     WHERE <and_1> AND <and_2> AND ((<g1_1> AND <g1_2>) OR (<g2_1>))
     ORDER BY <order_1>, <order_2>
     LIMIT n OFFSET m
-/

namespace QueryPlan
set_option autoImplicit false
open Sql

/-- A key that lenient compilation left out. -/
structure DroppedKey where
  /-- The key as it was supplied. -/
  key : String
  /-- The code of the error that it would have been. -/
  code : ErrorCode
  /-- The index of the OR-group that it stood in. -/
  group : Option Nat
  deriving DecidableEq, Repr

/-- A compiled request. -/
structure Plan where
  /-- The conditions that must all hold. -/
  conditions : List Condition
  /-- The groups of conditions of which one must hold, if there is any. -/
  groups : List (List Condition)
  /-- The ordering, the most significant term first. -/
  order : List OrderTerm
  /-- The rows to take and to skip. -/
  window : PageWindow
  /-- The keys that were left out. -/
  dropped : List DroppedKey
  deriving DecidableEq, Repr

namespace Plan

/-- Every condition of the plan, those of the groups last. -/
def allConditions (p : Plan) : List Condition := p.conditions ++ p.groups.flatten

/-- Whether the plan filters at all. -/
def hasConditions (p : Plan) : Bool := !p.conditions.isEmpty || !p.groups.isEmpty

/-- The number of conditions. -/
def conditionCount (p : Plan) : Nat := p.allConditions.length

/-- The number of values that the operands hold. -/
def paramCount (p : Plan) : Nat := (p.allConditions.flatMap fun c => c.operand.values).length

/-- The plan for the first of its rows. -/
def firstRow (p : Plan) : Plan := { p with window := { p.window with limit := 1 } }

/-- Conditions that must all hold. -/
def conjunction (conditions : List Condition) : Statement :=
  Statement.joined " AND " (conditions.map Condition.pieces)

/-- A statement in parentheses. -/
def parenthesized (s : Statement) : Statement := .text "(" :: s ++ [.text ")"]

/-- Groups of which one must hold. -/
def disjunction (groups : List (List Condition)) : Statement :=
  parenthesized
    (Statement.joined " OR " (groups.map fun group => parenthesized (conjunction group)))

/-- What must all hold of a row: each condition, and one of the groups if there is any. -/
def filters (p : Plan) : List Statement :=
  p.conditions.map Condition.pieces ++ if p.groups.isEmpty then [] else [disjunction p.groups]

/-- The `WHERE` clause, with a space before it; nothing if the plan does not filter. -/
def whereClause (p : Plan) : Statement :=
  if p.hasConditions then .text " WHERE " :: Statement.joined " AND " p.filters else []

/-- The `ORDER BY` clause, with a space before it; nothing if the plan does not order. -/
def orderClause (p : Plan) (d : Dialect) : Statement :=
  if p.order.isEmpty then []
  else .text " ORDER BY " :: Statement.joined ", " (p.order.map (OrderTerm.pieces d))

/-- The `LIMIT` clause, with a space before it, and the `OFFSET` clause if rows are skipped. -/
def limitClause (p : Plan) : Statement :=
  [.text " LIMIT ", .text (Nat.repr p.window.limit)] ++
    if 0 < p.window.offset then [.text " OFFSET ", .text (Nat.repr p.window.offset)] else []

/-- The statement that selects the rows of the window. -/
def select (p : Plan) (table : String) (d : Dialect) : Statement :=
  [.text "SELECT * FROM ", .ident table] ++ p.whereClause ++ p.orderClause d ++ p.limitClause

/-- The statement that counts every row that passes the filters. -/
def count (p : Plan) (table : String) : Statement :=
  [.text "SELECT COUNT(*) FROM ", .ident table] ++ p.whereClause

end Plan
end QueryPlan
