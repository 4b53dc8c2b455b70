import QueryPlan.Plan
import QueryPlan.Proofs.Sql.Lexical

/-!
# Names stay in their quotes

Every statement of a plan is lexical: its fixed texts are plain, and a separator stands between any
two tokens (`select_lexical`, `count_lexical`). So cutting its text into tokens by the rules of its
dialect gives back what was rendered. The identifiers are the table and the columns that the
conditions and the ordering write, the escape characters are backslashes, and there are as many
placeholders as parameters (`statement_tokens`). Nothing is assumed of names: they may hold quotes,
backslashes and placeholders.
-/

namespace QueryPlan
set_option autoImplicit false
open Sql

/-! ### The columns that are written -/

/-- The columns that a condition writes. A condition of the wrong shape has none, and the tests for
blanks have their column twice. -/
def Condition.columns (c : Condition) : List String :=
  if c.isWellFormed then
    match c.kind with
    | .present | .blank => [c.field, c.field]
    | _ => [c.field]
  else []

/-- The columns that a term of an ordering writes. MySQL has no words for the place of nulls, so the
column is tested for null there before it is ordered by. -/
def OrderTerm.columns (d : Dialect) (t : OrderTerm) : List String :=
  match d, t.nulls with
  | .mysql, some _ => [t.column, t.column]
  | _, _ => [t.column]

namespace Plan

/-- The columns that the conditions of a plan write. -/
def filterColumns (p : Plan) : List String := p.allConditions.flatMap Condition.columns

/-- The columns that the ordering of a plan writes. -/
def orderColumns (p : Plan) (d : Dialect) : List String := p.order.flatMap (OrderTerm.columns d)

end Plan

/-! ### Lexical statements -/

namespace Sql.Statement
variable {s t : Statement}

/-- Whether whatever comes before a statement is ended by it. -/
def Opens (s : Statement) : Prop := ∀ piece ∈ s.head?, piece.opensApart = true

theorem opens_nil : Opens [] := by
  rintro piece ⟨⟩

theorem opens_text {text : String} (h : startsApart text = true) (rest : Statement) :
    Opens (.text text :: rest) := by
  rintro piece ⟨⟩
  exact h

theorem Lexical.append_opens (hs : Lexical s) (ht : Lexical t) (opens : Opens t) :
    Lexical (s ++ t) :=
  hs.append ht fun _ _ q hq => .inr (opens q hq)

theorem Lexical.after_text {text : String} (fixed : isPlainText text = true)
    (closes : endsApart text = true) (h : Lexical s) : Lexical (.text text :: s) := by
  have first : Lexical [.text text] :=
    Lexical.of_check (by simp [isLexical, Piece.isPlain, fixed])
  refine first.append h ?_
  rintro p ⟨⟩ q _
  exact .inl closes

theorem Lexical.parenthesized (h : Lexical s) : Lexical (Plan.parenthesized s) :=
  (Lexical.after_text rfl rfl h).append_opens (Lexical.of_check rfl) (opens_text rfl [])

end Sql.Statement
open Sql.Statement

namespace Condition

theorem lexical_membership {operator : String} (field : String) (values : List Value)
    (fixed : isPlainText (" " ++ operator ++ " (") = true)
    (apart : endsApart (" " ++ operator ++ " (") = true) :
    Lexical (membership field operator values) := by
  have members : Lexical (joined ", " (values.map fun value => [.param value])) :=
    Lexical.joined_map rfl ⟨rfl, rfl⟩ fun value _ => Lexical.of_check rfl
  have opened : Lexical [.ident field, .text (" " ++ operator ++ " (")] := by
    refine (Lexical.of_check (s := [.ident field]) rfl).append_opens
      (Lexical.of_check (by simp [isLexical, Piece.isPlain, fixed])) (opens_text ?_ [])
    simp [startsApart, isSeparator]
  refine (opened.append members ?_).append_opens (Lexical.of_check rfl) (opens_text rfl [])
  rintro p ⟨⟩ q _
  exact .inl apart

/-- Every condition is lexical, also one whose operand has the wrong shape. -/
theorem lexical_pieces (c : Condition) : Lexical c.pieces := by
  obtain ⟨field, kind, operand⟩ := c
  cases operand with
  | list values =>
    cases kind with
    | isIn => exact lexical_membership field values rfl rfl
    | notIn => exact lexical_membership field values rfl rfl
    | _ => exact Lexical.of_check rfl
  | _ => cases kind <;> exact Lexical.of_check rfl

theorem idents_membership (field operator : String) (values : List Value) :
    idents (membership field operator values) = [field] := by
  simp [membership, List.flatMap_map]

theorem idents_pieces (c : Condition) : idents c.pieces = c.columns := by
  obtain ⟨field, kind, operand⟩ := c
  cases operand with
  | list values =>
    cases kind with
    | isIn => exact idents_membership field "IN" values
    | notIn => exact idents_membership field "NOT IN" values
    | _ => rfl
  | _ => cases kind <;> rfl

end Condition

namespace OrderTerm

theorem keyword_plain (direction : Direction) :
    isPlainText (" " ++ direction.keyword) = true := by
  cases direction <;> decide

theorem placement_plain (placement : NullPlacement) :
    isPlainText (" " ++ placement.keyword) = true := by
  cases placement <;> decide

theorem isNull_plain (placement : NullPlacement) :
    isPlainText (" IS NULL " ++ placement.direction.keyword ++ ", ") = true ∧
      endsApart (" IS NULL " ++ placement.direction.keyword ++ ", ") = true := by
  cases placement <;> decide

theorem lexical_pieces (d : Dialect) (t : OrderTerm) : Lexical (t.pieces d) := by
  obtain ⟨column, direction, nulls, ignoringCase⟩ := t
  have lower : isPlainText "LOWER(" = true ∧ endsApart "LOWER(" = true := by decide
  have close : isPlainText ")" = true := by decide
  refine Lexical.of_check ?_
  cases nulls <;> cases places : d.placesNulls <;> cases ignoringCase <;>
    simp [pieces, places, isLexical, Piece.isPlain, Piece.closesApart, Piece.opensApart,
      keyword_plain, placement_plain, isNull_plain, lower, close, startsApart, isSeparator]

theorem idents_pieces (d : Dialect) (t : OrderTerm) :
    idents (t.pieces d) = t.columns d := by
  obtain ⟨column, direction, nulls, ignoringCase⟩ := t
  cases d <;> cases ignoringCase <;> rcases nulls with _ | _ | _ <;> rfl

end OrderTerm

/-! ### Limits -/

/-- The tokens of a limit clause. -/
def limitTokens (limit offset : Nat) : List Token :=
  [.word "LIMIT", .word (Nat.repr limit)] ++
    if 0 < offset then [.word "OFFSET", .word (Nat.repr offset)] else []

theorem tokens?_repr (d : Dialect) (n : Nat) :
    tokens? d (Nat.repr n) = some [.word (Nat.repr n)] := by
  obtain ⟨m, scanned⟩ := Scans.numeral d n
  exact scanned.tokens?

theorem wordsOf_repr (n : Nat) : wordsOf (Nat.repr n) = [.word (Nat.repr n)] := by
  rw [wordsOf, tokens?_repr, Option.getD_some]

/-- The word of a number has digits only. -/
theorem repr_ne {word : String} {c : Char} (member : c ∈ word.toList) (other : c.isDigit = false)
    (n : Nat) : Nat.repr n ≠ word := fun same => by
  rw [← same, Nat.toList_repr] at member
  have digit := Nat.isDigit_of_mem_toDigits (by decide) (by decide) member
  exact Bool.false_ne_true (other.symm.trans digit)

theorem repr_plain (n : Nat) : PlainText (Nat.repr n) := by
  have not_escape : Nat.repr n ≠ "ESCAPE" := repr_ne (c := 'E') (by decide) rfl n
  refine ⟨fun d => by rw [wordsOf_repr, tokens?_repr], ?_⟩
  rw [wordsOf_repr]
  simp [Token.isPlain, not_escape]

theorem lexical_repr (n : Nat) : Lexical [.text (Nat.repr n)] :=
  ⟨List.forall_mem_singleton.2 (repr_plain n), .singleton _⟩

/-! ### Plans -/

namespace Plan
variable (p : Plan)

theorem lexical_conjunction (conditions : List Condition) : Lexical (conjunction conditions) :=
  Lexical.joined_map rfl ⟨rfl, rfl⟩ fun c _ => c.lexical_pieces

theorem lexical_disjunction (groups : List (List Condition)) : Lexical (disjunction groups) :=
  (Lexical.joined_map rfl ⟨rfl, rfl⟩ fun group _ =>
    (lexical_conjunction group).parenthesized).parenthesized

theorem lexical_whereClause : Lexical p.whereClause := by
  unfold whereClause
  split
  · refine Lexical.after_text rfl rfl (Lexical.joined rfl ⟨rfl, rfl⟩ fun s hs => ?_)
    unfold filters at hs
    obtain here | there := List.mem_append.1 hs
    · obtain ⟨c, -, rfl⟩ := List.mem_map.1 here
      exact c.lexical_pieces
    · split at there
      · cases there
      · obtain rfl := List.mem_singleton.1 there
        exact lexical_disjunction p.groups
  · exact Lexical.nil

theorem opens_whereClause : Opens p.whereClause := by
  unfold whereClause
  split
  · exact opens_text rfl _
  · exact opens_nil

theorem lexical_orderClause (d : Dialect) : Lexical (p.orderClause d) := by
  unfold orderClause
  split
  · exact Lexical.nil
  · exact Lexical.after_text rfl rfl
      (Lexical.joined_map rfl ⟨rfl, rfl⟩ fun t _ => t.lexical_pieces d)

theorem opens_orderClause (d : Dialect) : Opens (p.orderClause d) := by
  unfold orderClause
  split
  · exact opens_nil
  · exact opens_text rfl _

theorem tokensFrom_limitClause (d : Dialect) (count : Nat) :
    tokensFrom d count p.limitClause = limitTokens p.window.limit p.window.offset := by
  have limit_word : wordsOf " LIMIT " = [.word "LIMIT"] := rfl
  have offset_word : wordsOf " OFFSET " = [.word "OFFSET"] := rfl
  unfold limitClause limitTokens
  split <;> simp [tokensFrom, Piece.tokensAfter, limit_word, offset_word, wordsOf_repr]

theorem lexical_limitClause : Lexical p.limitClause := by
  have limit : Lexical [.text " LIMIT ", .text (Nat.repr p.window.limit)] :=
    Lexical.after_text rfl rfl (lexical_repr _)
  have offset : Lexical [.text " OFFSET ", .text (Nat.repr p.window.offset)] :=
    Lexical.after_text rfl rfl (lexical_repr _)
  unfold limitClause
  split
  · exact limit.append_opens offset (opens_text rfl _)
  · exact limit

theorem select_lexical (table : String) (d : Dialect) : Lexical (p.select table d) := by
  have head : Lexical [.text "SELECT * FROM ", .ident table] := Lexical.of_check rfl
  have filtered := head.append_opens p.lexical_whereClause p.opens_whereClause
  have ordered := filtered.append_opens (p.lexical_orderClause d) (p.opens_orderClause d)
  exact ordered.append_opens p.lexical_limitClause (opens_text rfl _)

theorem count_lexical (table : String) : Lexical (p.count table) := by
  have head : Lexical [.text "SELECT COUNT(*) FROM ", .ident table] := Lexical.of_check rfl
  exact head.append_opens p.lexical_whereClause p.opens_whereClause

theorem idents_parenthesized (s : Statement) : idents (parenthesized s) = idents s := by
  simp [parenthesized]

theorem idents_conjunction (conditions : List Condition) :
    idents (conjunction conditions) = conditions.flatMap Condition.columns := by
  simp [conjunction, List.flatMap_map, Condition.idents_pieces]

theorem idents_disjunction (groups : List (List Condition)) :
    idents (disjunction groups) = groups.flatten.flatMap Condition.columns := by
  rw [disjunction, idents_parenthesized, idents_joined, List.flatMap_map]
  simp only [idents_parenthesized, idents_conjunction, List.flatMap_def, List.map_flatten,
    List.flatten_flatten]
  rw [List.map_map]
  rfl

theorem idents_whereClause : idents p.whereClause = p.filterColumns := by
  unfold whereClause hasConditions filters filterColumns allConditions
  cases hc : p.conditions <;> cases hg : p.groups <;>
    simp [List.flatMap_map, idents_disjunction, Condition.idents_pieces]

theorem idents_limitClause : idents p.limitClause = [] := by
  unfold limitClause
  split <;> rfl

theorem idents_orderClause (d : Dialect) : idents (p.orderClause d) = p.orderColumns d := by
  unfold orderClause orderColumns
  cases h : p.order <;> simp [List.flatMap_map, OrderTerm.idents_pieces]

end Plan

/-- What cutting the text of a lexical statement into tokens gives. -/
theorem Sql.Statement.Lexical.safe {s : Statement} (h : Lexical s) (d : Dialect) :
    ∃ tokens, tokens? d (text d s) = some tokens ∧
      tokens.filterMap Token.ident? = idents s ∧
      (∀ next ∈ escapes tokens, next = some (.literal "\x5c")) ∧
      tokens.filterMap Token.placeholder? = (List.range' 1 (params s).length).map d.number? :=
  ⟨tokensFrom d 0 s, h.tokens?_text d, idents_tokensFrom h.plain d 0,
    escapes_tokensFrom h.plain d 0, placeholders_tokensFrom h.plain d 0⟩

/-- **Names stay in their quotes.** The text of every statement of a plan has tokens. The
identifiers among them decode to the table and the columns that are written, in order; every escape
character is a backslash; and the placeholders are those of the parameters, numbered from one where
the dialect numbers them. -/
theorem statement_tokens (p : Plan) (table : String) (d : Dialect) :
    (∃ tokens, tokens? d ((p.select table d).text d) = some tokens ∧
      tokens.filterMap Token.ident? = table :: (p.filterColumns ++ p.orderColumns d) ∧
      (∀ next ∈ escapes tokens, next = some (.literal "\x5c")) ∧
      tokens.filterMap Token.placeholder? =
        (List.range' 1 (p.select table d).params.length).map d.number?) ∧
    (∃ tokens, tokens? d ((p.count table).text d) = some tokens ∧
      tokens.filterMap Token.ident? = table :: p.filterColumns ∧
      (∀ next ∈ escapes tokens, next = some (.literal "\x5c")) ∧
      tokens.filterMap Token.placeholder? =
        (List.range' 1 (p.count table).params.length).map d.number?) := by
  have select : idents (p.select table d) = table :: (p.filterColumns ++ p.orderColumns d) := by
    simp [Plan.select, p.idents_whereClause, p.idents_orderClause, p.idents_limitClause]
  have count : idents (p.count table) = table :: p.filterColumns := by
    simp [Plan.count, p.idents_whereClause]
  rw [← select, ← count]
  exact ⟨(p.select_lexical table d).safe d, (p.count_lexical table).safe d⟩

end QueryPlan
