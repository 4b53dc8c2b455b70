import QueryPlan.Plan

/-!
# Rendering moves values without looking at them

Replacing the values of a plan and then rendering it gives the statement of the plan with its
parameters replaced (`select_rebind`, `count_rebind`), and the text of a statement does not
change when its parameters are replaced (`textFrom_rebind`). So two plans that differ in their
values only have the same text.
-/

namespace QueryPlan
set_option autoImplicit false
open Sql

/-- The piece with the value that it binds replaced. -/
def Sql.Piece.rebind (f : Value → Value) : Piece → Piece
  | .param v => .param (f v)
  | piece => piece

/-- The statement with the values that it binds replaced. -/
def Sql.Statement.rebind (f : Value → Value) (s : Statement) : Statement :=
  s.map (Piece.rebind f)

/-- The operand with its values replaced. -/
def Operand.rebind (f : Value → Value) : Operand → Operand
  | .none => .none
  | .one v => .one (f v)
  | .range low high => .range (f low) (f high)
  | .list values => .list (values.map f)

/-- The condition with the values of its operand replaced. -/
def Condition.rebind (f : Value → Value) (c : Condition) : Condition :=
  { c with operand := c.operand.rebind f }

/-- The plan with the values of its conditions replaced. -/
def Plan.rebind (f : Value → Value) (p : Plan) : Plan :=
  { p with
    conditions := p.conditions.map (Condition.rebind f)
    groups := p.groups.map (List.map (Condition.rebind f)) }

namespace Sql.Statement
variable (f : Value → Value)

@[simp] theorem rebind_nil : rebind f [] = [] := rfl

@[simp] theorem rebind_cons (piece : Piece) (s : Statement) :
    rebind f (piece :: s) = piece.rebind f :: rebind f s := rfl

@[simp] theorem rebind_append (s t : Statement) :
    rebind f (s ++ t) = rebind f s ++ rebind f t := List.map_append

@[simp] theorem rebind_joined (separator : String) (parts : List Statement) :
    rebind f (joined separator parts) = joined separator (parts.map (rebind f)) := by
  unfold joined
  induction parts with
  | nil => rfl
  | cons s rest ih =>
    cases rest with
    | nil => simp [List.intercalate]
    | cons t rest =>
      simp only [List.intercalate, List.intersperse, List.map_cons, List.flatten_cons,
        rebind_append] at ih ⊢
      rw [ih]
      rfl

/-- The text shows a parameter as its placeholder alone. -/
theorem textFrom_rebind (d : Dialect) (count : Nat) (s : Statement) :
    textFrom d count (rebind f s) = textFrom d count s := by
  induction s generalizing count with
  | nil => rfl
  | cons piece s ih => cases piece <;> simp [textFrom, Piece.rebind, ih]

theorem params_rebind (s : Statement) : params (rebind f s) = (params s).map f := by
  induction s with
  | nil => rfl
  | cons piece s ih => cases piece <;> simp [params, Piece.rebind, ih]

end Sql.Statement

/-- A condition is rendered by its kind and the form of its operand. -/
theorem Condition.pieces_rebind (f : Value → Value) (c : Condition) :
    (c.rebind f).pieces = Statement.rebind f c.pieces := by
  obtain ⟨field, kind, operand⟩ := c
  cases kind <;> cases operand <;>
    simp [Condition.rebind, Operand.rebind, pieces, comparison, likeMatch, lowered, membership,
      blankTest, never, Piece.rebind, Function.comp_def]

namespace Plan
variable (f : Value → Value) (p : Plan)

theorem map_pieces_rebind (conditions : List Condition) :
    (conditions.map (Condition.rebind f)).map Condition.pieces =
      (conditions.map Condition.pieces).map (Statement.rebind f) := by
  simp only [List.map_map]
  exact List.map_congr_left fun c _ => c.pieces_rebind f

theorem conjunction_rebind (conditions : List Condition) :
    conjunction (conditions.map (Condition.rebind f)) =
      Statement.rebind f (conjunction conditions) := by
  rw [conjunction, map_pieces_rebind, conjunction, Statement.rebind_joined]

theorem disjunction_rebind (groups : List (List Condition)) :
    disjunction (groups.map (List.map (Condition.rebind f))) =
      Statement.rebind f (disjunction groups) := by
  simp [disjunction, parenthesized, conjunction_rebind, Piece.rebind, Function.comp_def]

theorem whereClause_rebind : (p.rebind f).whereClause = Statement.rebind f p.whereClause := by
  have conditions := map_pieces_rebind f p.conditions
  have groups := disjunction_rebind f p.groups
  simp only [List.map_map] at conditions
  unfold whereClause hasConditions filters Plan.rebind
  simp only [List.isEmpty_map]
  split
  · split
    · simp [conditions, Piece.rebind]
    · simp [conditions, groups, Piece.rebind]
  · rfl

/-- An ordering binds nothing. -/
theorem orderClause_rebind (d : Dialect) :
    Statement.rebind f (p.orderClause d) = p.orderClause d := by
  have term (t : OrderTerm) : Statement.rebind f (t.pieces d) = t.pieces d := by
    unfold OrderTerm.pieces
    cases t.nulls <;> cases t.ignoringCase <;> cases d <;> simp [Dialect.placesNulls, Piece.rebind]
  unfold orderClause
  split
  · rfl
  · simp [term, Piece.rebind, Function.comp_def]

theorem limitClause_rebind : Statement.rebind f p.limitClause = p.limitClause := by
  unfold limitClause
  split <;> rfl

theorem select_rebind (table : String) (d : Dialect) :
    (p.rebind f).select table d = Statement.rebind f (p.select table d) := by
  simp only [select, whereClause_rebind, Statement.rebind_append, orderClause_rebind,
    limitClause_rebind]
  rfl

theorem count_rebind (table : String) :
    (p.rebind f).count table = Statement.rebind f (p.count table) := by
  simp only [count, whereClause_rebind, Statement.rebind_append]
  rfl

end Plan
end QueryPlan
