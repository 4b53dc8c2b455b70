import QueryPlan.Proofs.Parameters
import QueryPlan.Proofs.Quoting
import QueryPlan.Proofs.Sql.Denotation

/-!
# The six renderings of a plan

A plan is rendered in three dialects, to select rows and to count them. All six statements bind the
same list, and in each dialect both of them filter by the same text, whose tokens are those of the
other dialects up to the numbers of the placeholders (`renderings_agree`). This holds of every plan,
whether or not it could have been compiled: a condition with an operand of the wrong shape is
rendered as `1 = 0`, and the values that it holds are the only ones that are not bound
(`length_values`).
-/

namespace QueryPlan
set_option autoImplicit false
open Sql Statement

/-! ### Values that are not bound -/

/-- A condition with an operand of the wrong shape is rendered as the false one. -/
theorem Condition.pieces_of_malformed {c : Condition} (h : c.isWellFormed = false) :
    c.pieces = never := by
  obtain ⟨field, kind, operand⟩ := c
  cases kind <;> cases operand <;> first | rfl | cases h

/-- The values of the conditions whose operands have the right shape, in order. -/
def wellFormedValues (conditions : List Condition) : List Value :=
  (conditions.filter Condition.isWellFormed).flatMap fun c => c.operand.values

/-- The values of the other conditions. -/
def malformedValues (conditions : List Condition) : List Value :=
  (conditions.filter fun c => !c.isWellFormed).flatMap fun c => c.operand.values

theorem boundValues_eq_wellFormedValues (conditions : List Condition) :
    boundValues conditions = wellFormedValues conditions := by
  unfold boundValues wellFormedValues
  induction conditions with
  | nil => rfl
  | cons c conditions ih =>
    rw [List.flatMap_cons, ih, Condition.params_pieces]
    cases formed : c.isWellFormed with
    | true => rw [List.filter_cons_of_pos formed, List.flatMap_cons, if_pos rfl]
    | false =>
      rw [List.filter_cons_of_neg (by simp [formed]), if_neg Bool.false_ne_true, List.nil_append]

/-- Each value that an operand holds is counted on one of the two sides. -/
theorem length_values (conditions : List Condition) :
    (conditions.flatMap fun c => c.operand.values).length =
      (wellFormedValues conditions).length + (malformedValues conditions).length := by
  unfold wellFormedValues malformedValues
  induction conditions with
  | nil => rfl
  | cons c conditions ih =>
    rw [List.flatMap_cons, List.length_append, ih]
    cases formed : c.isWellFormed with
    | true =>
      rw [List.filter_cons_of_pos formed, List.filter_cons_of_neg (by simp [formed]),
        List.flatMap_cons, List.length_append]
      omega
    | false =>
      rw [List.filter_cons_of_neg (by simp [formed]), List.filter_cons_of_pos (by simp [formed]),
        List.flatMap_cons, List.length_append]
      omega

theorem malformedValues_eq_nil_iff {conditions : List Condition} :
    malformedValues conditions = [] ↔
      ∀ c ∈ conditions, c.isWellFormed = false → c.operand.values = [] := by
  unfold malformedValues
  rw [List.flatMap_eq_nil_iff]
  constructor
  · intro none c member malformed
    exact none c (List.mem_filter.2 ⟨member, by simp [malformed]⟩)
  · intro none c member
    obtain ⟨member, malformed⟩ := List.mem_filter.1 member
    exact none c member (by simpa using malformed)

/-! ### Text -/

/-- Statements that bind nothing read the same after any number of parameters. -/
theorem Sql.Statement.textFrom_of_params_eq_nil {s : Statement} (d : Dialect) (h : params s = [])
    (count : Nat) : textFrom d count s = text d s := by
  unfold text
  induction s with
  | nil => rfl
  | cons piece s ih =>
    cases piece with
    | param value => cases h
    | _ => simp only [textFrom, ih h]

/-- The name of a table shifts no placeholder. -/
theorem Sql.Statement.text_table (d : Dialect) (head table : String) (rest : Statement) :
    text d ([.text head, .ident table] ++ rest) = head ++ d.quote table ++ text d rest := by
  simp [text, textFrom, String.append_assoc]

namespace Plan
variable (p : Plan) (table : String) (d : Dialect)

/-- Selecting writes the clause of the window. -/
theorem text_limitClause : p.limitClause.text d = " " ++ p.window.clause := by
  have spaced : " " ++ "LIMIT " = " LIMIT " := rfl
  unfold limitClause PageWindow.clause
  rw [← String.append_assoc, ← String.append_assoc, spaced]
  split
  · simp [text, textFrom, String.append_assoc]
  · simp [text, textFrom]

theorem text_select : (p.select table d).text d =
    "SELECT * FROM " ++ d.quote table ++ p.whereClause.text d ++ (p.orderClause d).text d ++ " " ++
      p.window.clause := by
  have order := textFrom_of_params_eq_nil d (p.params_orderClause d)
  have limit := textFrom_of_params_eq_nil d p.params_limitClause
  unfold select
  rw [List.append_assoc, List.append_assoc, text_table, text, textFrom_append, textFrom_append,
    order, limit, text_limitClause]
  simp [text, String.append_assoc]

theorem text_count : (p.count table).text d =
    "SELECT COUNT(*) FROM " ++ d.quote table ++ p.whereClause.text d :=
  text_table d "SELECT COUNT(*) FROM " table p.whereClause

end Plan

/-- **The renderings of a plan agree.** All of them bind the values of the well-formed conditions in
order; a malformed condition is rendered as `1 = 0` and binds nothing. In each dialect, selecting
and counting have the same `WHERE` clause after the table, and its tokens are the same in all
dialects once the placeholders are numbered. As many values are bound as the operands hold unless a
malformed condition holds one. -/
theorem renderings_agree (p : Plan) (table : String) :
    (∀ d, (p.select table d).params = wellFormedValues p.allConditions ∧
      (p.count table).params = wellFormedValues p.allConditions) ∧
    (∀ c ∈ p.allConditions, c.isWellFormed = false →
      c.pieces.params = [] ∧ ∀ d, c.pieces.text d = "1 = 0") ∧
    (∀ d page perPage,
      (p.select table d).text d =
        "SELECT * FROM " ++ d.quote table ++ p.whereClause.text d ++ (p.orderClause d).text d ++
          " " ++ (PageWindow.mk page perPage p.window.limit p.window.offset).clause ∧
      (p.count table).text d =
        "SELECT COUNT(*) FROM " ++ d.quote table ++ p.whereClause.text d) ∧
    (∃ tokens, ∀ d, (tokens? d (p.whereClause.text d)).map (numberedFrom 0) = some tokens) ∧
    ((wellFormedValues p.allConditions).length = p.paramCount ↔
      ∀ c ∈ p.allConditions, c.isWellFormed = false → c.operand.values = []) := by
  refine ⟨fun d => ?_, fun c _ malformed => ?_, fun d page perPage => ?_, ?_, ?_⟩
  · rw [p.params_select, p.params_count, boundValues_eq_wellFormedValues]
    exact ⟨rfl, rfl⟩
  · rw [Condition.pieces_of_malformed malformed]
    exact ⟨rfl, fun _ => rfl⟩
  · exact ⟨p.text_select table d, p.text_count table d⟩
  · have lexical := p.lexical_whereClause
    refine ⟨tokensFrom .postgres 0 p.whereClause, fun d => ?_⟩
    rw [lexical.tokens?_text d, Option.map_some, numberedFrom_tokensFrom lexical.plain]
  · have total : p.paramCount = _ := length_values p.allConditions
    rw [← malformedValues_eq_nil_iff, ← List.length_eq_zero_iff]
    omega

namespace Sample

/-- A plan that no request has: two operands have the wrong shape, one of them without a value, a
list is empty and so is a group. -/
def botched : Plan where
  conditions := [⟨"title", .eq, .none⟩, ⟨"views", .between, .one (.int 3)⟩,
    ⟨"views", .isIn, .list []⟩]
  groups := [[], [⟨"title", .contains, .one (.text "%Lean%")⟩]]
  order := [⟨"views", .desc, some .last, false⟩]
  window := ⟨2, 25, 25, 25⟩
  dropped := []

end Sample

open Sample in
/-- The value of the range without a second bound is lost in every rendering. -/
theorem botched_renderings :
    (∀ d, (botched.select "articles" d).params = [.text "%Lean%"] ∧
      (botched.count "articles").params = [.text "%Lean%"]) ∧
    (botched.select "articles" .postgres).text .postgres =
      "SELECT * FROM \"articles\" WHERE 1 = 0 AND 1 = 0 AND \"views\" IN () AND (() OR " ++
        "(\"title\" LIKE $1 ESCAPE '\\')) ORDER BY \"views\" DESC NULLS LAST LIMIT 25 OFFSET 25" ∧
    botched.paramCount = 2 ∧
    ∃ c ∈ botched.allConditions, c.isWellFormed = false ∧ c.operand.values = [.int 3] := by
  obtain ⟨bound, -, texts, -, -⟩ := renderings_agree botched "articles"
  refine ⟨bound, ?_, rfl, ⟨"views", .between, .one (.int 3)⟩, by decide, rfl, rfl⟩
  rw [(texts .postgres 2 25).1]
  rfl

end QueryPlan
