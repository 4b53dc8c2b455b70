import QueryPlan.Order.Term
import QueryPlan.Proofs.Sql.Grammar

/-!
# Reading orderings

The grammar of `ORDER BY` clauses, as readers on the tokens of a statement. An item compares the
values of a term, or whether they are null. `NULLS FIRST` and `NULLS LAST` are words of PostgreSQL
and SQLite; to MySQL they mean nothing, and a text with them has no ordering there. `orderOf?` reads
the items of a whole statement.
-/

namespace QueryPlan.Sql
set_option autoImplicit false

/-! ### Items -/

/-- What an item of an ordering compares. -/
inductive SortKey where
  /-- The values of a term. -/
  | value (a : Scalar)
  /-- Whether the values of a term are null. -/
  | isNull (a : Scalar)
  deriving DecidableEq, Repr

/-- An item of an ordering. -/
structure SortItem where
  /-- What is compared. -/
  key : SortKey
  /-- The direction. -/
  direction : Direction
  /-- Where nulls stand, if that is said. -/
  nulls : Option NullPlacement
  deriving DecidableEq, Repr

/-- The term whose values an item compares, and its direction. -/
def SortItem.value? (i : SortItem) : Option (Scalar × Direction) :=
  match i.key with
  | .value a => some (a, i.direction)
  | .isNull _ => none

/-! ### Grammar -/

namespace Reader

/-- What an item compares. -/
def sortKey : Reader SortKey := fun tokens => do
  let (a, tokens) ← scalar tokens
  match tokens with
  | .word "IS" :: .word "NULL" :: rest => some (.isNull a, rest)
  | rest => some (.value a, rest)

/-- A direction; it is ascending if nothing is said. -/
def direction : List Token → Direction × List Token
  | .word "ASC" :: rest => (.asc, rest)
  | .word "DESC" :: rest => (.desc, rest)
  | rest => (.asc, rest)

/-- The words for the place of nulls. -/
def placementWords : List Token → Option NullPlacement × List Token
  | .word "NULLS" :: .word "FIRST" :: rest => (some .first, rest)
  | .word "NULLS" :: .word "LAST" :: rest => (some .last, rest)
  | rest => (none, rest)

/-- The place of nulls. MySQL has no words for it. -/
def placement (d : Dialect) (tokens : List Token) : Option NullPlacement × List Token :=
  match d with
  | .postgres | .sqlite => placementWords tokens
  | .mysql => (none, tokens)

/-- An item of an ordering. -/
def sortItem (d : Dialect) : Reader SortItem := fun tokens => do
  let (key, tokens) ← sortKey tokens
  let (direction, tokens) := direction tokens
  let (nulls, tokens) := placement d tokens
  some (⟨key, direction, nulls⟩, tokens)

end Reader

/-- Whether an `ORDER BY` clause can end before some tokens. -/
def endsOrder (rest : List Token) : Bool := rest.head?.all (· = .word "LIMIT")

/-- The items of a clause at the front of some tokens; none if there is no clause. -/
def orderBy? (d : Dialect) : List Token → Option (List SortItem)
  | [] => some []
  | .word "ORDER" :: .word "BY" :: rest => do
    let ((first, more), rest) ← Reader.items (.mark ',') (Reader.sortItem d) rest
    if endsOrder rest then some (first :: more) else none
  | _ => none

/-- The items by which the text of a statement puts rows in order. -/
def orderOf? (d : Dialect) (text : String) : Option (List SortItem) :=
  (tokens? d text).bind fun tokens =>
    orderBy? d ((numberedFrom 0 tokens).dropWhile (· ≠ .word "ORDER"))

end QueryPlan.Sql
