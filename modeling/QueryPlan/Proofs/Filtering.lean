import QueryPlan.Proofs.Quoting
import QueryPlan.Proofs.Sql.Denotation
import QueryPlan.Proofs.Stages

/-!
# The text filters like the plan

What a plan says of a row is told without SQL: every condition holds, and all conditions of one
group if there is any (`Plan.Holds`). Reading the text of a statement back gives a filter that
selects just these rows once the parameters of the statement are bound, whatever the database does
with values (`statement_selects`). Every condition is read as one operand (`Condition.isFilter`), so
no `AND` or `OR` next to it can reach inside.
-/

namespace QueryPlan
set_option autoImplicit false
open Sql Sql.Statement

/-! ### What a plan says -/

/-- A property of the value in a column; of null it is said apart. -/
def Satisfies (row : Row) (field : String) (null : Prop) (accepts : Value → Prop) : Prop :=
  match row field with
  | some x => accepts x
  | none => null

namespace Condition
variable (engine : Engine)

/-- Whether a condition holds of a value that is not null. -/
def Accepts (c : Condition) (x : Value) : Prop :=
  match c.kind, c.operand with
  | .eq, .one v => engine.compare .eq x v = some true
  | .notEq, .one v => engine.compare .ne x v = some true
  | .lt, .one v => engine.compare .lt x v = some true
  | .lte, .one v => engine.compare .le x v = some true
  | .gt, .one v => engine.compare .gt x v = some true
  | .gte, .one v => engine.compare .ge x v = some true
  | .iEq, .one v => engine.compare .eq (engine.lower x) (engine.lower v) = some true
  | .contains, .one v | .startsWith, .one v | .endsWith, .one v =>
    engine.like (some "\x5c") x v = some true
  | .iContains, .one v | .iStartsWith, .one v | .iEndsWith, .one v =>
    engine.like (some "\x5c") (engine.lower x) (engine.lower v) = some true
  | .between, .range low high =>
    engine.compare .ge x low = some true ∧ engine.compare .le x high = some true
  | .notBetween, .range low high =>
    engine.compare .ge x low = some false ∨ engine.compare .le x high = some false
  | .isIn, .list values => ∃ v ∈ values, engine.compare .eq x v = some true
  | .notIn, .list values => ∀ v ∈ values, engine.compare .eq x v = some false
  | .notNull, .none => True
  | .present, .none => engine.compare .ne (engine.trim x) (.text "") = some true
  | .blank, .none => engine.compare .eq (engine.trim x) (.text "") = some true
  | _, _ => False

/-- Whether a condition holds of null. -/
def AcceptsNull (c : Condition) : Prop :=
  match c.kind, c.operand with
  | .null, .none | .blank, .none => True
  | _, _ => False

/-- Whether a condition holds of a row. -/
def Holds (row : Row) (c : Condition) : Prop :=
  Satisfies row c.field c.AcceptsNull (c.Accepts engine)

end Condition

/-- Whether a plan lets a row pass: every condition holds, and all those of one group if there is
any. -/
def Plan.Holds (engine : Engine) (row : Row) (p : Plan) : Prop :=
  (∀ c ∈ p.conditions, c.Holds engine row) ∧
    (p.groups ≠ [] → ∃ group ∈ p.groups, ∀ c ∈ group, c.Holds engine row)

/-! ### Conditions -/

namespace Condition
variable {engine : Engine}

theorem paramValue_append {before : List Value} {count : Nat} (length : before.length = count)
    (v : Value) (after : List Value) :
    paramValue (before ++ v :: after) (count + 1) = some v := by
  simp [paramValue, ← length]

theorem paramValue_append_cons {before : List Value} {count : Nat} (length : before.length = count)
    (v w : Value) (after : List Value) :
    paramValue (before ++ v :: w :: after) (count + 2) = some w := by
  simp [paramValue, ← length]

/-- A comparison is read as one. -/
theorem isFilter_comparison {sign : String} {op : Comparison}
    (separates : wordsOf (" " ++ sign ++ " ") = [.operator sign])
    (compares : Reader.comparison? sign = some op) (inner : Reader Filter) (field : String)
    (v : Value) :
    IsFilter engine (Reader.operand inner) [] (comparison field sign v) fun row =>
      Satisfies row field False fun x => engine.compare op x v = some true := by
  intro count
  refine ⟨.compare op (.column field) (.param (count + 1)), fun rest _ => ?_,
    fun row before after length => ?_⟩
  · have tokens : tokensFrom .postgres count (comparison field sign v) =
        [.ident field, .operator sign, .placeholder (some (count + 1))] := by
      simp [comparison, tokensFrom, Piece.tokensAfter, Piece.binds, separates, Dialect.number?]
    rw [tokens]
    show (Reader.comparison? sign).bind (fun op =>
      some (Filter.compare op (.column field) (.param (count + 1)), rest)) = _
    rw [compares]
    rfl
  · have param := paramValue_append length v after
    cases h : row field <;> simp [comparison, params, Filter.Selects, Satisfies, h, param]

/-- A comparison of lower-cased values is read as one. -/
theorem isFilter_lowered (inner : Reader Filter) (field : String) (v : Value) :
    IsFilter engine (Reader.operand inner) []
      (lowered field ++ [.text " = LOWER(", .param v, .text ")"]) fun row =>
        Satisfies row field False fun x =>
          engine.compare .eq (engine.lower x) (engine.lower v) = some true := by
  intro count
  -- The tokens are known but for the name and the number, so reading them is a computation.
  refine ⟨.compare .eq (.lower (.column field)) (.lower (.param (count + 1))), fun rest _ => rfl,
    fun row before after length => ?_⟩
  have param := paramValue_append length v after
  cases h : row field <;> simp [lowered, params, Filter.Selects, Satisfies, h, param]

/-- A pattern is read with its escape character. -/
theorem isFilter_likeMatch (inner : Reader Filter) (field : String) (v : Value) :
    IsFilter engine (Reader.operand inner) [] (likeMatch field false v) fun row =>
      Satisfies row field False fun x => engine.like (some "\x5c") x v = some true := by
  intro count
  refine ⟨.like (.column field) (.param (count + 1)) (some "\x5c"), fun rest _ => rfl,
    fun row before after length => ?_⟩
  have param := paramValue_append length v after
  cases h : row field <;> simp [likeMatch, params, Filter.Selects, Satisfies, h, param]

theorem isFilter_likeMatch_lowered (inner : Reader Filter) (field : String) (v : Value) :
    IsFilter engine (Reader.operand inner) [] (likeMatch field true v) fun row =>
      Satisfies row field False fun x =>
        engine.like (some "\x5c") (engine.lower x) (engine.lower v) = some true := by
  intro count
  refine ⟨.like (.lower (.column field)) (.lower (.param (count + 1))) (some "\x5c"),
    fun rest _ => rfl, fun row before after length => ?_⟩
  have param := paramValue_append length v after
  cases h : row field <;>
    simp [likeMatch, lowered, params, Filter.Selects, Satisfies, h, param]

/-- The `AND` between the bounds is no conjunction. -/
theorem isFilter_between (inner : Reader Filter) (field : String) (low high : Value) :
    IsFilter engine (Reader.operand inner) []
      [.ident field, .text " BETWEEN ", .param low, .text " AND ", .param high] fun row =>
        Satisfies row field False fun x =>
          engine.compare .ge x low = some true ∧ engine.compare .le x high = some true := by
  intro count
  refine ⟨.between (.column field) (.param (count + 1)) (.param (count + 2)), fun rest _ => rfl,
    fun row before after length => ?_⟩
  have first := paramValue_append length low (high :: after)
  have second := paramValue_append_cons length low high after
  cases h : row field <;>
    simp [params, Filter.Selects, Satisfies, h, first, second, Truth.and_eq_true]

theorem isFilter_notBetween (inner : Reader Filter) (field : String) (low high : Value) :
    IsFilter engine (Reader.operand inner) []
      [.ident field, .text " NOT BETWEEN ", .param low, .text " AND ", .param high] fun row =>
        Satisfies row field False fun x =>
          engine.compare .ge x low = some false ∨ engine.compare .le x high = some false := by
  intro count
  refine ⟨.not (.between (.column field) (.param (count + 1)) (.param (count + 2))),
    fun rest _ => rfl, fun row before after length => ?_⟩
  have first := paramValue_append length low (high :: after)
  have second := paramValue_append_cons length low high after
  cases h : row field <;>
    simp [params, Filter.Selects, Satisfies, h, first, second,
      Truth.not_eq_true, Truth.and_eq_false]

/-- The members of a list are read one by one, each with its own parameter. -/
theorem members_joined (engine : Engine) (field : String) {values : List Value}
    (nonempty : values ≠ []) (count : Nat) :
    ∃ items : List Scalar,
      (∀ rest, Reader.members (.column field) (.mark '(' :: (tokensFrom .postgres count
        (joined ", " (values.map fun v => [.param v])) ++ .mark ')' :: rest)) =
          some (.isIn (.column field) items, rest)) ∧
      ∀ row before after, before.length = count →
        Filter.truth engine row (before ++ values ++ after) (.isIn (.column field) items) =
          Truth.any (values.map fun v => onValues (engine.compare .eq) (row field) (some v)) := by
  have separates : wordsOf ", " = [.mark ','] := rfl
  have each (v : Value) : Denotes Reader.scalar (fun a row params => a.value engine row params) []
      [.param v] fun _ => some v := by
    intro count
    refine ⟨.param (count + 1), fun rest _ => rfl, fun row before after length => ?_⟩
    simpa [params, Scalar.value] using paramValue_append length v after
  have all := Denotes.items separates (by simp) (List.map_eq_nil_iff.not.2 nonempty)
    (forall₂_map_map fun v (_ : v ∈ values) => each v)
  obtain ⟨⟨first, more⟩, taken, meant⟩ := all count
  refine ⟨first :: more, fun rest => ?_, fun row before after length => ?_⟩
  · have inside := taken (.mark ')' :: rest) (by rintro t ⟨⟩; simp)
    simp [Reader.members, Reader.expect, inside]
  · have same := meant row before after length
    rw [params_joined, List.map_map, flatten_params_singletons] at same
    have lifted := congrArg (List.map (onValues (engine.compare .eq) (row field))) same
    simp only [List.map_map] at lifted
    exact congrArg Truth.any lifted

theorem isFilter_isIn (inner : Reader Filter) (field : String) {values : List Value}
    (nonempty : values ≠ []) :
    IsFilter engine (Reader.operand inner) [] (membership field "IN" values) fun row =>
      Satisfies row field False fun x => ∃ v ∈ values, engine.compare .eq x v = some true := by
  intro count
  obtain ⟨items, taken, meant⟩ := members_joined engine field nonempty count
  refine ⟨.isIn (.column field) items, fun rest _ => ?_, fun row before after length => ?_⟩
  · rw [membership, tokensFrom_append, List.append_assoc]
    exact taken rest
  · refine propext ?_
    show Filter.truth engine row _ _ = some true ↔ _
    rw [params_membership, meant row before after length, Truth.any_eq_true]
    cases h : row field <;> simp [Satisfies, h]

theorem isFilter_notIn (inner : Reader Filter) (field : String) {values : List Value}
    (nonempty : values ≠ []) :
    IsFilter engine (Reader.operand inner) [] (membership field "NOT IN" values) fun row =>
      Satisfies row field False fun x => ∀ v ∈ values, engine.compare .eq x v = some false := by
  intro count
  obtain ⟨items, taken, meant⟩ := members_joined engine field nonempty count
  refine ⟨.not (.isIn (.column field) items), fun rest _ => ?_, fun row before after length => ?_⟩
  · rw [membership, tokensFrom_append, List.append_assoc]
    exact congrArg (Option.bind · fun x : Filter × List Token => some (Filter.not x.1, x.2))
      (taken rest)
  · refine propext ?_
    show Truth.not (Filter.truth engine row _ _) = some true ↔ _
    rw [params_membership, meant row before after length, Truth.not_eq_true, Truth.any_eq_false]
    cases h : row field <;> simp [Satisfies, h, nonempty]

/-- A test for null takes no value. -/
theorem isFilter_null (inner : Reader Filter) (field : String) :
    IsFilter engine (Reader.operand inner) [] [.ident field, .text " IS NULL"] fun row =>
      Satisfies row field True fun _ => False := by
  intro count
  refine ⟨.isNull (.column field), fun rest _ => rfl, fun row before after _ => ?_⟩
  cases h : row field <;> simp [Filter.Selects, Satisfies, h]

theorem isFilter_notNull (inner : Reader Filter) (field : String) :
    IsFilter engine (Reader.operand inner) [] [.ident field, .text " IS NOT NULL"] fun row =>
      Satisfies row field False fun _ => True := by
  intro count
  refine ⟨.not (.isNull (.column field)), fun rest _ => rfl, fun row before after _ => ?_⟩
  cases h : row field <;> simp [Filter.Selects, Satisfies, h, Truth.not]

/-- The tests for blanks are in parentheses, so the connective between them stays inside. -/
theorem isFilter_present (depth : Nat) (field : String) :
    IsFilter engine (Reader.operand (Reader.filter (depth + 1))) []
      (blankTest field " IS NOT NULL AND TRIM(" ") <> '')") fun row =>
        Satisfies row field False fun x =>
          engine.compare .ne (engine.trim x) (.text "") = some true := by
  intro count
  refine ⟨.and (.not (.isNull (.column field)))
    (.compare .ne (.trim (.column field)) (.literal "")), fun rest _ => rfl,
    fun row before after _ => ?_⟩
  cases h : row field <;>
    simp [Filter.Selects, Satisfies, h, Truth.not, Truth.and_eq_true]

theorem isFilter_blank (depth : Nat) (field : String) :
    IsFilter engine (Reader.operand (Reader.filter (depth + 1))) []
      (blankTest field " IS NULL OR TRIM(" ") = '')") fun row =>
        Satisfies row field True fun x =>
          engine.compare .eq (engine.trim x) (.text "") = some true := by
  intro count
  refine ⟨.or (.isNull (.column field)) (.compare .eq (.trim (.column field)) (.literal "")),
    fun rest _ => rfl, fun row before after _ => ?_⟩
  cases h : row field <;> simp [Filter.Selects, Satisfies, h, Truth.or_eq_true]

/-- Every well-formed condition is read as one operand and selects the rows that it holds of. -/
theorem isFilter {c : Condition} (wellFormed : c.isWellFormed = true)
    (nonempty : c.operand ≠ .list []) (depth : Nat) :
    IsFilter engine (Reader.operand (Reader.filter (depth + 1))) [] c.pieces
      fun row => c.Holds engine row := by
  obtain ⟨field, kind, operand⟩ := c
  cases operand with
  | none =>
    cases kind with
    | null => exact isFilter_null _ field
    | notNull => exact isFilter_notNull _ field
    | present => exact isFilter_present depth field
    | blank => exact isFilter_blank depth field
    | _ => cases wellFormed
  | one v =>
    cases kind with
    | eq | notEq | lt | lte | gt | gte => exact isFilter_comparison rfl rfl _ field v
    | iEq => exact isFilter_lowered _ field v
    | contains | startsWith | endsWith => exact isFilter_likeMatch _ field v
    | iContains | iStartsWith | iEndsWith => exact isFilter_likeMatch_lowered _ field v
    | _ => cases wellFormed
  | range low high =>
    cases kind with
    | between => exact isFilter_between _ field low high
    | notBetween => exact isFilter_notBetween _ field low high
    | _ => cases wellFormed
  | list values =>
    have some_value : values ≠ [] := fun h => nonempty (congrArg Operand.list h)
    cases kind with
    | isIn => exact isFilter_isIn _ field some_value
    | notIn => exact isFilter_notIn _ field some_value
    | _ => cases wellFormed

end Condition

/-! ### Plans -/

namespace Plan

/-- Conditions of the right shape, lists with members and groups with conditions: what every
compiled plan has. -/
structure Readable (p : Plan) : Prop where
  wellFormed : ∀ c ∈ p.allConditions, c.isWellFormed = true
  lists : ∀ c ∈ p.allConditions, c.operand ≠ .list []
  groups : [] ∉ p.groups

variable (engine : Engine) {p : Plan}

theorem isFilter_conjunction {conditions : List Condition} (nonempty : conditions ≠ [])
    (wellFormed : ∀ c ∈ conditions, c.isWellFormed = true)
    (lists : ∀ c ∈ conditions, c.operand ≠ .list []) (depth : Nat) :
    IsFilter engine (Reader.filter (depth + 2)) [.word "OR", .word "AND"] (conjunction conditions)
      fun row => ∀ c ∈ conditions, c.Holds engine row := by
  have each : (conditions.map Condition.pieces).Forall₂
      (IsFilter engine (Reader.operand (Reader.filter (depth + 1))) [])
      (conditions.map fun c row => c.Holds engine row) :=
    forall₂_map_map fun c hc => Condition.isFilter (wellFormed c hc) (lists c hc) depth
  have all := IsFilter.conjunction (List.map_eq_nil_iff.not.2 nonempty) each
  simp only [List.forall_mem_map] at all
  exact all.to_disjunction

theorem isFilter_disjunction (h : p.Readable) (nonempty : p.groups ≠ []) (depth : Nat) :
    IsFilter engine (Reader.operand (Reader.filter (depth + 3))) [] (disjunction p.groups)
      fun row => ∃ group ∈ p.groups, ∀ c ∈ group, c.Holds engine row := by
  have each : (p.groups.map fun group => parenthesized (conjunction group)).Forall₂
      (IsFilter engine (Reader.conjunction (Reader.filter (depth + 2))) [.word "AND"])
      (p.groups.map fun group row => ∀ c ∈ group, c.Holds engine row) := by
    refine forall₂_map_map fun group hg => ?_
    have inside (c : Condition) (hc : c ∈ group) : c ∈ p.allConditions :=
      List.mem_append_right _ (List.mem_flatten.2 ⟨group, hg, hc⟩)
    have some_condition : group ≠ [] := by
      rintro rfl
      exact h.groups hg
    exact ((isFilter_conjunction engine some_condition (fun c hc => h.wellFormed c (inside c hc))
      (fun c hc => h.lists c (inside c hc)) depth).parenthesized (by simp)).to_conjunction
  have any := IsFilter.disjunction (List.map_eq_nil_iff.not.2 nonempty) each
  simp only [exists_mem_map] at any
  have inside : IsFilter engine (Reader.filter (depth + 3)) [.word "OR", .word "AND"]
      (joined " OR " (p.groups.map fun group => parenthesized (conjunction group)))
      fun row => ∃ group ∈ p.groups, ∀ c ∈ group, c.Holds engine row := any
  exact inside.parenthesized (by simp)

/-- The filters of a plan, with `AND` between them. -/
theorem isFilter_filters (h : p.Readable) (some_condition : p.hasConditions = true) (depth : Nat) :
    IsFilter engine (Reader.filter (depth + 4)) [.word "OR", .word "AND"] (joined " AND " p.filters)
      fun row => p.Holds engine row := by
  have conditions : (p.conditions.map Condition.pieces).Forall₂
      (IsFilter engine (Reader.operand (Reader.filter (depth + 3))) [])
      (p.conditions.map fun c row => c.Holds engine row) := by
    refine forall₂_map_map fun c hc => ?_
    have inside : c ∈ p.allConditions := List.mem_append_left _ hc
    exact Condition.isFilter (h.wellFormed c inside) (h.lists c inside) (depth + 2)
  rw [Reader.filter]
  unfold filters Holds
  cases hg : p.groups with
  | nil =>
    have nonempty : p.conditions ≠ [] := by
      rintro hc
      simp [hasConditions, hc, hg] at some_condition
    have all := IsFilter.conjunction (List.map_eq_nil_iff.not.2 nonempty) conditions
    simpa [List.forall_mem_map] using all.to_disjunction
  | cons group groups =>
    have groups_filter := isFilter_disjunction engine h (by simp [hg]) depth
    rw [hg] at groups_filter
    have all := IsFilter.conjunction (by simp)
      (List.rel_append conditions (.cons groups_filter .nil))
    simp only [List.forall_mem_append, List.forall_mem_map, List.forall_mem_singleton] at all
    simpa using all.to_disjunction

theorem endsFilter_tail (p : Plan) (d : Dialect) (count : Nat) :
    endsFilter (tokensFrom .postgres count (p.orderClause d ++ p.limitClause)) = true := by
  unfold orderClause
  split
  · rw [List.nil_append, tokensFrom_limitClause]
    rfl
  · rfl

/-- What follows a filter does not go on with it. -/
theorem not_mem_of_endsFilter {rest : List Token} (h : endsFilter rest = true) :
    ∀ t ∈ rest.head?, t ∉ [Token.word "OR", .word "AND"] := by
  intro t ht
  rw [endsFilter, Option.mem_def.1 ht] at h
  simp only [Option.all_some, Bool.or_eq_true, decide_eq_true_eq] at h
  obtain rfl | rfl := h <;> simp

/-- Without conditions every row passes. -/
theorem holds_of_not_hasConditions (h : p.hasConditions = false) (row : Row) :
    p.Holds engine row := by
  simp only [hasConditions, Bool.or_eq_false_iff, Bool.not_eq_false', List.isEmpty_iff] at h
  simp [Holds, h]

theorem filterAfterTable?_of_ends {rest : List Token} (h : endsFilter rest = true) (depth : Nat) :
    filterAfterTable? depth rest = some none := by
  unfold filterAfterTable?
  split
  · simp [endsFilter] at h
  · rw [if_pos h]

theorem where?_append {before : List Token} (fresh : .word "FROM" ∉ before) (table : String)
    (rest : List Token) :
    where? (before ++ .word "FROM" :: .ident table :: rest) =
      filterAfterTable? (before.length + rest.length + 2) rest := by
  have others : ∀ t ∈ before, decide (t ≠ .word "FROM") = true :=
    fun t ht => decide_eq_true fun same => fresh (same ▸ ht)
  rw [where?, List.dropWhile_append_of_pos others]
  simp [Nat.add_assoc]

/-- The filter of a statement that has the `WHERE` clause of a plan between its table and a tail
with which no filter goes on. -/
theorem where?_statement (h : p.Readable) {head : String} {before : List Token}
    (ends_head : wordsOf head = before ++ [.word "FROM"]) (fresh : .word "FROM" ∉ before)
    (nonempty : before ≠ []) (table : String) {tail : Statement}
    (ends : ∀ count, endsFilter (tokensFrom .postgres count tail) = true) :
    ∃ filter, where? (tokensFrom .postgres 0
        ([.text head, .ident table] ++ p.whereClause ++ tail)) = some filter ∧
      filter.isSome = p.hasConditions ∧
      ∀ row, (∀ f ∈ filter, f.Selects engine row
        (params ([.text head, .ident table] ++ p.whereClause ++ tail))) ↔ p.Holds engine row := by
  have tokens : tokensFrom .postgres 0 ([.text head, .ident table] ++ p.whereClause ++ tail) =
      before ++ .word "FROM" :: .ident table :: (tokensFrom .postgres 0 p.whereClause ++
        tokensFrom .postgres (params p.whereClause).length tail) := by
    simp [tokensFrom, Piece.tokensAfter, Piece.binds, ends_head, tokensFrom_append]
  have tail_ends := ends (params p.whereClause).length
  rw [tokens, where?_append fresh]
  cases filtered : p.hasConditions with
  | false =>
    have nothing : p.whereClause = [] := by simp [whereClause, filtered]
    rw [nothing] at tail_ends ⊢
    exact ⟨none, filterAfterTable?_of_ends tail_ends _, rfl,
      fun row => by simpa using holds_of_not_hasConditions engine filtered row⟩
  | true =>
    have clause : p.whereClause = .text " WHERE " :: joined " AND " p.filters := by
      simp [whereClause, filtered]
    have where_tokens : tokensFrom .postgres 0 p.whereClause =
      .word "WHERE" :: tokensFrom .postgres 0 (joined " AND " p.filters) := by rw [clause]; rfl
    have enough : 0 < before.length := List.length_pos_iff.2 nonempty
    rw [where_tokens]
    -- The filters of a plan are nested four deep, and at least four tokens stand around them.
    obtain ⟨depth, deep⟩ : ∃ depth, before.length +
        (.word "WHERE" :: tokensFrom .postgres 0 (joined " AND " p.filters) ++
          tokensFrom .postgres (params p.whereClause).length tail).length + 2 = depth + 4 := by
      refine ⟨before.length - 1 + (tokensFrom .postgres 0 (joined " AND " p.filters)).length +
        (tokensFrom .postgres (params p.whereClause).length tail).length, ?_⟩
      simp only [List.cons_append, List.length_cons, List.length_append]
      omega
    rw [deep]
    obtain ⟨f, taken, meant⟩ := isFilter_filters engine h filtered depth 0
    refine ⟨some f, ?_, rfl, fun row => ?_⟩
    · rw [List.cons_append, filterAfterTable?, taken _ (not_mem_of_endsFilter tail_ends)]
      exact if_pos tail_ends
    · have selected := meant row [] (params tail) rfl
      have same : params ([.text head, .ident table] ++ p.whereClause ++ tail) =
          [] ++ params (joined " AND " p.filters) ++ params tail := by
        simp [clause, params]
      simp only [Option.mem_def, Option.some.injEq, forall_eq', same]
      exact iff_of_eq selected

theorem filterOf?_text {s : Statement} (h : Lexical s) (d : Dialect) :
    filterOf? d (text d s) = where? (tokensFrom .postgres 0 s) := by
  rw [filterOf?, h.tokens?_text, Option.bind_some, numberedFrom_tokensFrom h.plain]

end Plan

/-! ### Compiled plans -/

/-- What an operand is coerced to has the form of its kind, and a list keeps its length. -/
theorem KnownKey.Compiles.readable {limits : RequestLimits} {k : KnownKey} {c : Condition}
    (h : k.Compiles limits c) : c.isWellFormed = true ∧ c.operand ≠ .list [] := by
  cases h with
  | scalar form _ | pattern form _ | range form _ _ _ =>
    exact ⟨by rw [Condition.isWellFormed, holding, PredicateKind.shape_eq, form]; rfl,
      by simp [holding]⟩
  | @list items values form _ nonempty _ coerced =>
    refine ⟨by rw [Condition.isWellFormed, holding, PredicateKind.shape_eq, form]; rfl,
      fun same => ?_⟩
    have length := (mapM_eq_ok_iff.1 coerced).length_eq
    simp only [holding, Operand.list.injEq] at same
    rw [same] at length
    exact nonempty (List.length_eq_zero_iff.1 length)
  | @flag opposite on form _ =>
    refine ⟨?_, by simp [holding]⟩
    rw [Condition.isWellFormed, holding, PredicateKind.shape_eq]
    cases on with
    | true =>
      rw [if_pos rfl, form]
      rfl
    | false =>
      -- The opposite of a flag is a flag.
      have back := PredicateKind.opposite?_opposite? (PredicateKind.form_eq_flag_iff.1 form)
      rw [if_neg Bool.false_ne_true, PredicateKind.form_eq_flag_iff.2 back]
      rfl

theorem conditionsOf_readable {limits : RequestLimits} {keys : List KnownKey}
    {conditions : List Condition} (h : conditionsOf limits keys = .ok conditions) :
    ∀ c ∈ conditions, c.isWellFormed = true ∧ c.operand ≠ .list [] := by
  intro c hc
  obtain ⟨k, -, compiled⟩ := mem_of_mapM_ok h hc
  exact (KnownKey.condition_eq_ok compiled).readable

/-- A successful compilation leaves conditions of the right shape, and no empty list or group. -/
theorem readable_of_stages {c : Catalog} {settings : Settings} {r : Request} {a : Admitted}
    {p : Plan} (h : c.Stages settings r a p) : p.Readable := by
  have each : ∀ c ∈ p.allConditions, c.isWellFormed = true ∧ c.operand ≠ .list [] := by
    intro c hc
    obtain here | there := List.mem_append.1 hc
    · exact conditionsOf_readable h.conditions c here
    · obtain ⟨group, hg, hc⟩ := List.mem_flatten.1 there
      obtain ⟨keys, -, compiled⟩ := mem_of_mapM_ok h.groups hg
      exact conditionsOf_readable compiled c hc
  refine ⟨fun c hc => (each c hc).1, fun c hc => (each c hc).2, fun hg => ?_⟩
  obtain ⟨keys, some_key, compiled⟩ := mem_of_mapM_ok h.groups hg
  have length := (mapM_eq_ok_iff.1 compiled).length_eq
  rw [List.length_nil, List.length_eq_zero_iff] at length
  subst length
  simp at some_key

/-- **The text filters like the plan.** The filter that a statement has, read back from its text,
selects just the rows that the plan lets pass, once the parameters of the statement are bound; there
is none if the plan has no conditions. Every compiled plan can be read back like this. -/
theorem statement_selects (engine : Engine) :
    (∀ p : Plan, p.Readable → ∀ (table : String) (d : Dialect),
      (∃ filter, filterOf? d ((p.select table d).text d) = some filter ∧
        filter.isSome = p.hasConditions ∧
        ∀ row, (∀ f ∈ filter, f.Selects engine row (p.select table d).params) ↔
          p.Holds engine row) ∧
      ∃ filter, filterOf? d ((p.count table).text d) = some filter ∧
        filter.isSome = p.hasConditions ∧
        ∀ row, (∀ f ∈ filter, f.Selects engine row (p.count table).params) ↔
          p.Holds engine row) ∧
    ∀ (e : EntityType) (settings : Settings) (r : Request) (p : Plan),
      e.compile settings r = .ok p → p.Readable := by
  refine ⟨fun p h table d => ⟨?_, ?_⟩, fun e settings r p h => ?_⟩
  · have ends_head : wordsOf "SELECT * FROM " = [.word "SELECT", .mark '*'] ++ [.word "FROM"] := rfl
    have read := Plan.where?_statement engine h ends_head (by simp) (by simp) table
      (p.endsFilter_tail d)
    rw [← List.append_assoc] at read
    rw [Plan.filterOf?_text (p.select_lexical table d)]
    exact read
  · have ends_head : wordsOf "SELECT COUNT(*) FROM " =
        [.word "SELECT", .word "COUNT", .mark '(', .mark '*', .mark ')'] ++ [.word "FROM"] := rfl
    have no_tail (count : Nat) : endsFilter (tokensFrom .postgres count []) = true := rfl
    have read := Plan.where?_statement engine h ends_head (by simp) (by simp) table
      no_tail
    rw [List.append_nil] at read
    rw [Plan.filterOf?_text (p.count_lexical table)]
    exact read
  · obtain ⟨a, stages⟩ := EntityType.compile_eq_ok_iff.1 h
    exact readable_of_stages stages

namespace Sample

/-- A database that compares integers, and texts by whether they are equal. -/
def engine : Engine where
  compare
    | .ge, .int m, .int n => some (n ≤ m)
    | .le, .int m, .int n => some (m ≤ n)
    | .eq, .int m, .int n => some (m = n)
    | .eq, .text s, .text t => some (s = t)
    | _, _, _ => none
  lower := id
  trim := id
  like _ _ _ := none

/-- A request for articles with a number of views between 3 and 7 that have either 4 views or no
title. -/
def viewed : Request where
  filters := [.inherent (.map [("views_between", .list [.int 3, .text "7"])])]
  groups := [.inherent (.map [("views_in", .list [.int 4])]),
    .inherent (.map [("title_blank", .bool true)])]

/-- The plan of `viewed`. -/
def viewedPlan : Plan where
  conditions := [⟨"views", .between, .range (.int 3) (.int 7)⟩]
  groups := [[⟨"views", .isIn, .list [.int 4]⟩], [⟨"title", .blank, .none⟩]]
  order := []
  window := ⟨1, 25, 25, 0⟩
  dropped := []

/-- An article with a title and a number of views. -/
def article (title : String) (views : Option Int) : Row := fun column =>
  if column = "title" then some (.text title)
  else if column = "views" then views.map Value.int
  else none

end Sample

open Sample in
/-- The text of a compiled plan selects an article without title, and not one of unknown views. -/
theorem viewed_selects :
    articles.compile {} viewed = .ok viewedPlan ∧
      ∃ filter, filterOf? .mysql ((viewedPlan.select "articles" .mysql).text .mysql) = some filter ∧
        (∀ f ∈ filter, f.Selects engine (article "" (some 7))
          (viewedPlan.select "articles" .mysql).params) ∧
        ¬ ∀ f ∈ filter, f.Selects engine (article "" none)
          (viewedPlan.select "articles" .mysql).params := by
  have compiled : articles.compile {} viewed = .ok viewedPlan := rfl
  have readable := (statement_selects engine).2 articles {} viewed viewedPlan compiled
  obtain ⟨filter, read, -, selects⟩ :=
    ((statement_selects engine).1 viewedPlan readable "articles" .mysql).1
  refine ⟨compiled, filter, read, (selects _).2 ⟨fun c hc => ?_, fun _ => ?_⟩, fun all => ?_⟩
  · obtain rfl := List.mem_singleton.1 hc
    exact ⟨rfl, rfl⟩
  · refine ⟨[⟨"title", .blank, .none⟩], by simp [viewedPlan], fun c hc => ?_⟩
    obtain rfl := List.mem_singleton.1 hc
    exact rfl
  · have unknown : Condition.Holds engine (article "" none) _ :=
      ((selects _).1 all).1 _ (List.mem_singleton_self _)
    exact unknown

end QueryPlan
