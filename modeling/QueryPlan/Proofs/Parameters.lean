import Mathlib.Data.List.Basic
import QueryPlan.Plan

/-!
# The parameters of a statement

A plan binds the values of its well-formed conditions, those at the top level first, and nothing
else (`params_select`, `params_count`): keywords, parentheses, orderings and the window bind
nothing. So all renderings of a plan bind the same list, and one without malformed conditions binds
as many values as its operands hold (`length_boundValues`).
-/

namespace QueryPlan
set_option autoImplicit false
open Sql Statement

/-- An ordering binds nothing. -/
theorem OrderTerm.params_pieces (t : OrderTerm) (d : Dialect) : params (t.pieces d) = [] := by
  unfold OrderTerm.pieces
  cases t.nulls <;> cases t.ignoringCase <;> cases d.placesNulls <;> rfl

/-- The values that conditions bind, in the order of the conditions. -/
def boundValues (conditions : List Condition) : List Value :=
  conditions.flatMap fun c => params c.pieces

theorem boundValues_append (conditions others : List Condition) :
    boundValues (conditions ++ others) = boundValues conditions ++ boundValues others :=
  List.flatMap_append

theorem boundValues_flatten (groups : List (List Condition)) :
    boundValues groups.flatten = (groups.map boundValues).flatten := by
  induction groups with
  | nil => rfl
  | cons group groups ih =>
    rw [List.flatten_cons, boundValues_append, ih]
    rfl

namespace Plan

theorem params_parenthesized (s : Statement) : params (parenthesized s) = params s := by
  simp [parenthesized, params]

theorem params_conjunction (conditions : List Condition) :
    params (conjunction conditions) = boundValues conditions := by
  rw [conjunction, params_joined, List.map_map]
  rfl

theorem params_disjunction (groups : List (List Condition)) :
    params (disjunction groups) = boundValues groups.flatten := by
  rw [disjunction, params_parenthesized, params_joined, List.map_map, boundValues_flatten]
  refine congrArg List.flatten (List.map_congr_left fun group _ => ?_)
  exact (params_parenthesized _).trans (params_conjunction group)

/-- Without filters there are no groups either. -/
theorem params_filters (p : Plan) :
    (p.filters.map params).flatten = boundValues p.allConditions := by
  have conditions : ((p.conditions.map Condition.pieces).map params).flatten =
      boundValues p.conditions := by
    rw [List.map_map]
    rfl
  unfold filters allConditions
  rw [List.map_append, List.flatten_append, conditions, boundValues_append]
  refine congrArg (boundValues p.conditions ++ ·) ?_
  cases groups : p.groups with
  | nil => rfl
  | cons group rest =>
    have alone : (([disjunction (group :: rest)] : List Statement).map params).flatten =
        params (disjunction (group :: rest)) := by simp
    exact alone.trans (params_disjunction _)

theorem params_whereClause (p : Plan) : params p.whereClause = boundValues p.allConditions := by
  unfold whereClause
  split
  next => exact (params_joined " AND " p.filters).trans p.params_filters
  next none =>
    -- A plan without a clause has neither conditions nor groups.
    have empty : p.conditions = [] ∧ p.groups = [] := by
      simpa [hasConditions] using none
    rw [allConditions, empty.1, empty.2]
    rfl

theorem params_orderClause (p : Plan) (d : Dialect) : params (p.orderClause d) = [] := by
  have terms : (p.order.map (OrderTerm.pieces d)).map params = p.order.map fun _ => [] := by
    rw [List.map_map]
    exact List.map_congr_left fun t _ => t.params_pieces d
  unfold orderClause
  split
  next => rfl
  next =>
    refine (params_joined ", " _).trans ?_
    rw [terms]
    simp

theorem params_limitClause (p : Plan) : params p.limitClause = [] := by
  unfold limitClause
  split <;> rfl

/-- The statement that selects rows binds the values of the conditions and no others. -/
theorem params_select (p : Plan) (table : String) (d : Dialect) :
    params (p.select table d) = boundValues p.allConditions := by
  simp only [select, params_append, params_whereClause, params_orderClause, params_limitClause]
  simp [params]

/-- Counting binds what selecting binds. -/
theorem params_count (p : Plan) (table : String) :
    params (p.count table) = boundValues p.allConditions := by
  simp only [count, params_append, params_whereClause]
  simp [params]

/-- A plan without malformed conditions binds every value that its operands hold. -/
theorem boundValues_eq {p : Plan} (h : ∀ c ∈ p.allConditions, c.isWellFormed = true) :
    boundValues p.allConditions = p.allConditions.flatMap fun c => c.operand.values := by
  refine List.flatMap_congr fun c member => ?_
  rw [Condition.params_pieces, if_pos (h c member)]

theorem length_boundValues {p : Plan} (h : ∀ c ∈ p.allConditions, c.isWellFormed = true) :
    (boundValues p.allConditions).length = p.paramCount :=
  congrArg List.length (boundValues_eq h)

end Plan
end QueryPlan
