import QueryPlan.Sql.Dialect
import QueryPlan.Value

/-!
# Statements

A statement is a sequence of pieces: trusted text, identifiers, bound parameters and escape
clauses. The text of a statement shows a parameter as its placeholder alone; the values are a list
beside it, in the order of the placeholders.
-/

namespace QueryPlan.Sql
set_option autoImplicit false

/-- A piece of a statement. -/
inductive Piece where
  /-- Trusted SQL text. -/
  | text (s : String)
  /-- An identifier, to be quoted. -/
  | ident (name : String)
  /-- A bound parameter. -/
  | param (value : Value)
  /-- The clause that names the escape character of a pattern. -/
  | escapeClause
  deriving DecidableEq, Repr

/-- A sequence of pieces. -/
abbrev Statement := List Piece

namespace Statement

/-- The text of a statement in a dialect, after `count` parameters. -/
def textFrom (d : Dialect) : Nat → Statement → String
  | _, [] => ""
  | count, .text s :: rest => s ++ textFrom d count rest
  | count, .ident name :: rest => d.quote name ++ textFrom d count rest
  | count, .param _ :: rest => d.placeholder (count + 1) ++ textFrom d (count + 1) rest
  | count, .escapeClause :: rest => d.escapeClause ++ textFrom d count rest

/-- The text of a statement in a dialect. -/
def text (d : Dialect) (s : Statement) : String := textFrom d 0 s

/-- The parameters of a statement, in the order of their placeholders. -/
def params : Statement → List Value
  | [] => []
  | .param value :: rest => value :: params rest
  | _ :: rest => params rest

/-- Statements one after the other with a separator between them. -/
def joined (separator : String) (parts : List Statement) : Statement :=
  List.intercalate [.text separator] parts

@[simp] theorem params_nil : params [] = [] := rfl

@[simp] theorem params_append (s t : Statement) : params (s ++ t) = params s ++ params t := by
  induction s with
  | nil => rfl
  | cons p s ih => cases p <;> simp [params, ih]

theorem params_intercalate (separator : String) (parts : List Statement) :
    params (List.intercalate [.text separator] parts) = (parts.map params).flatten := by
  induction parts with
  | nil => rfl
  | cons s rest ih =>
    cases rest with
    | nil => simp [List.intercalate]
    | cons t rest =>
      simp only [List.intercalate, List.intersperse, List.flatten_cons, params_append] at ih ⊢
      simp [ih, params]

/-- Separators bind nothing. -/
@[simp] theorem params_joined (separator : String) (parts : List Statement) :
    params (joined separator parts) = (parts.map params).flatten :=
  params_intercalate separator parts

/-- One parameter after another. -/
theorem flatten_params_singletons (values : List Value) :
    (values.map (params ∘ fun value => [Piece.param value])).flatten = values := by
  induction values with
  | nil => rfl
  | cons v rest ih => simpa [params] using ih

/-- The text of two statements, the second one counting on from the first. -/
theorem textFrom_append (d : Dialect) (count : Nat) (s t : Statement) :
    textFrom d count (s ++ t) = textFrom d count s ++ textFrom d (count + (params s).length) t := by
  induction s generalizing count with
  | nil => simp [textFrom]
  | cons p s ih =>
    cases p <;>
      simp [textFrom, params, ih, String.append_assoc, Nat.add_right_comm, ← Nat.add_assoc]

end Statement
end QueryPlan.Sql
