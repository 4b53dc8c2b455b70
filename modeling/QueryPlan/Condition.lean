import QueryPlan.Predicate.Kind
import QueryPlan.Sql.Statement

/-!
# Conditions

A condition is a column, a predicate kind and an operand of bound values; it holds no SQL text.
Rendering one is total: an operand of the wrong shape gives the false condition `1 = 0`, which
binds nothing (`params_pieces`).
-/

namespace QueryPlan
set_option autoImplicit false
open Sql

/-- The bound values of a condition. -/
inductive Operand where
  | none
  | one (value : Value)
  | range (low high : Value)
  | list (values : List Value)
  deriving DecidableEq, Repr

/-- The values of an operand in the order in which they are bound. -/
def Operand.values : Operand → List Value
  | .none => []
  | .one value => [value]
  | .range low high => [low, high]
  | .list values => values

/-- A column, a predicate kind and an operand. -/
structure Condition where
  /-- The column that the condition is about. -/
  field : String
  /-- The operator. -/
  kind : PredicateKind
  /-- The bound values. -/
  operand : Operand
  deriving DecidableEq, Repr

/-- Whether an operand has a shape. -/
def OperandShape.admits : OperandShape → Operand → Bool
  | .scalar, .one _ | .pattern, .one _ => true
  | .range, .range _ _ => true
  | .list, .list _ => true
  | .flag, .none => true
  | _, _ => false

namespace Condition

/-- Whether the operand has the shape that the kind takes. -/
def isWellFormed (c : Condition) : Bool := c.kind.shape.admits c.operand

/-- The number of values that the operand holds. -/
def paramCount (c : Condition) : Nat := c.operand.values.length

/-- A comparison of the column with one value. -/
def comparison (field operator : String) (value : Value) : Statement :=
  [.ident field, .text (" " ++ operator ++ " "), .param value]

/-- The column in lower case. -/
def lowered (field : String) : Statement := [.text "LOWER(", .ident field, .text ")"]

/-- A pattern match, on the lower-cased column and pattern if case does not matter. -/
def likeMatch (field : String) (ignoringCase : Bool) (value : Value) : Statement :=
  if ignoringCase then
    lowered field ++ [.text " LIKE LOWER(", .param value, .text ")", .escapeClause]
  else [.ident field, .text " LIKE ", .param value, .escapeClause]

/-- Membership in a list. -/
def membership (field operator : String) (values : List Value) : Statement :=
  [.ident field, .text (" " ++ operator ++ " (")] ++
    Statement.joined ", " (values.map fun value => [.param value]) ++ [.text ")"]

/-- A test of the column and of the column without outer blanks. -/
def blankTest (field first second : String) : Statement :=
  [.text "(", .ident field, .text first, .ident field, .text second]

/-- The condition that no row meets. -/
def never : Statement := [.text "1 = 0"]

/-- The condition as a piece of a statement. -/
def pieces (c : Condition) : Statement :=
  match c.kind, c.operand with
  | .eq, .one v => comparison c.field "=" v
  | .notEq, .one v => comparison c.field "<>" v
  | .lt, .one v => comparison c.field "<" v
  | .lte, .one v => comparison c.field "<=" v
  | .gt, .one v => comparison c.field ">" v
  | .gte, .one v => comparison c.field ">=" v
  | .iEq, .one v => lowered c.field ++ [.text " = LOWER(", .param v, .text ")"]
  | .contains, .one v | .startsWith, .one v | .endsWith, .one v => likeMatch c.field false v
  | .iContains, .one v | .iStartsWith, .one v | .iEndsWith, .one v => likeMatch c.field true v
  | .between, .range low high =>
    [.ident c.field, .text " BETWEEN ", .param low, .text " AND ", .param high]
  | .notBetween, .range low high =>
    [.ident c.field, .text " NOT BETWEEN ", .param low, .text " AND ", .param high]
  | .isIn, .list values => membership c.field "IN" values
  | .notIn, .list values => membership c.field "NOT IN" values
  | .null, .none => [.ident c.field, .text " IS NULL"]
  | .notNull, .none => [.ident c.field, .text " IS NOT NULL"]
  | .present, .none => blankTest c.field " IS NOT NULL AND TRIM(" ") <> '')"
  | .blank, .none => blankTest c.field " IS NULL OR TRIM(" ") = '')"
  | _, _ => never

theorem params_membership (field operator : String) (values : List Value) :
    Statement.params (membership field operator values) = values := by
  simp [membership, Statement.params, Statement.flatten_params_singletons]

/-- A well-formed condition binds the values of its operand, and any other binds nothing. -/
theorem params_pieces (c : Condition) :
    Statement.params c.pieces = if c.isWellFormed then c.operand.values else [] := by
  obtain ⟨field, kind, operand⟩ := c
  cases kind <;> cases operand <;>
    simp [pieces, isWellFormed, OperandShape.admits, PredicateKind.shape, Operand.values,
      comparison, likeMatch, lowered, params_membership, blankTest, never, Statement.params]

end Condition
end QueryPlan
