import QueryPlan.Schema.StorageType
import QueryPlan.Sql.Statement

/-!
# Ordering terms

One term of an `ORDER BY` clause, and the named variants of ordering that each storage type has.
Null placement is always spelled out. A dialect without `NULLS FIRST` and `NULLS LAST` sorts by
`IS NULL` first.
-/

namespace QueryPlan
set_option autoImplicit false
open Sql

/-- Ascending or descending. -/
inductive Direction where
  | asc
  | desc
  deriving DecidableEq, Repr, Inhabited

/-- The keyword of a direction. -/
def Direction.keyword : Direction → String
  | .asc => "ASC"
  | .desc => "DESC"

/-- Where nulls stand. -/
inductive NullPlacement where
  /-- Before all values. -/
  | first
  /-- After all values. -/
  | last
  deriving DecidableEq, Repr

/-- The keywords of a null placement. -/
def NullPlacement.keyword : NullPlacement → String
  | .first => "NULLS FIRST"
  | .last => "NULLS LAST"

/-- The direction in which `IS NULL` sorts for a null placement. -/
def NullPlacement.direction : NullPlacement → Direction
  | .first => .desc
  | .last => .asc

/-- One term of an ordering. -/
structure OrderTerm where
  /-- The column ordered by. -/
  column : String
  /-- The direction. -/
  direction : Direction
  /-- Where nulls stand, if that is asked for. -/
  nulls : Option NullPlacement
  /-- Whether lower-cased values are compared. -/
  ignoringCase : Bool
  deriving DecidableEq, Repr

namespace OrderTerm

/-- The term that orders by the plain values of a column. -/
def plain (column : String) (direction : Direction) : OrderTerm := ⟨column, direction, none, false⟩

/-- The term as a piece of a statement in a dialect. -/
def pieces (d : Dialect) (t : OrderTerm) : Statement :=
  let emulated : Statement := match t.nulls with
    | some placement =>
      if d.placesNulls then []
      else [.ident t.column, .text (" IS NULL " ++ placement.direction.keyword ++ ", ")]
    | none => []
  let column : Statement :=
    if t.ignoringCase then [.text "LOWER(", .ident t.column, .text ")"] else [.ident t.column]
  let placed : Statement := match t.nulls with
    | some placement => if d.placesNulls then [.text (" " ++ placement.keyword)] else []
    | none => []
  emulated ++ column ++ .text (" " ++ t.direction.keyword) :: placed

end OrderTerm

/-- A named way to order by a column. -/
inductive SortVariant where
  | asc
  | desc
  | ascCaseInsensitive
  | descCaseInsensitive
  | ascNullsFirst
  | ascNullsLast
  | descNullsFirst
  | descNullsLast
  | newest
  | oldest
  deriving DecidableEq, Repr

namespace SortVariant

/-- The part of a sort key that names the variant. -/
def name : SortVariant → String
  | asc => "asc"
  | desc => "desc"
  | ascCaseInsensitive => "asc_case_insensitive"
  | descCaseInsensitive => "desc_case_insensitive"
  | ascNullsFirst => "asc_nulls_first"
  | ascNullsLast => "asc_nulls_last"
  | descNullsFirst => "desc_nulls_first"
  | descNullsLast => "desc_nulls_last"
  | newest => "newest"
  | oldest => "oldest"

/-- The variants that columns of a storage type have. -/
def ofType : StorageType → List SortVariant
  | .string | .text => [asc, desc, ascCaseInsensitive, descCaseInsensitive]
  | .numeric => [asc, desc, ascNullsFirst, ascNullsLast, descNullsFirst, descNullsLast]
  | .date | .datetime => [asc, desc, newest, oldest]
  | .boolean => [asc, desc]

/-- The direction of a variant. -/
def direction : SortVariant → Direction
  | asc | ascCaseInsensitive | ascNullsFirst | ascNullsLast | oldest => .asc
  | desc | descCaseInsensitive | descNullsFirst | descNullsLast | newest => .desc

/-- Where a variant puts nulls. -/
def nulls : SortVariant → Option NullPlacement
  | ascNullsFirst | descNullsFirst => some .first
  | ascNullsLast | descNullsLast => some .last
  | _ => none

/-- Whether a variant compares lower-cased values. -/
def ignoresCase (v : SortVariant) : Bool := v = ascCaseInsensitive || v = descCaseInsensitive

/-- The term that a variant orders a column by. -/
def term (v : SortVariant) (column : String) : OrderTerm :=
  ⟨column, v.direction, v.nulls, v.ignoresCase⟩

theorem name_injective {v w : SortVariant} (h : v.name = w.name) : v = w := by
  revert h
  cases v <;> cases w <;> decide

end SortVariant
end QueryPlan
