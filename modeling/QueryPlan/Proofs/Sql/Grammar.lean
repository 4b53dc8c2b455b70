import QueryPlan.Proofs.Sql.Filter
import QueryPlan.Proofs.Sql.Lexical

/-!
# Reading filters

The grammar of `WHERE` clauses, as readers that take something off the front of a list of tokens.
`AND` binds tighter than `OR`, the `AND` of `BETWEEN` belongs to it, and a pattern takes its
`ESCAPE` with it. `where?` reads the filter of a whole statement. Reading the text of a statement
is compositional: `Denotes` says what a part of it means wherever it stands (`Denotes.joined` for
lists, `Denotes.parenthesized` for parentheses).
-/

namespace QueryPlan.Sql
set_option autoImplicit false

/-- Takes something off the front of a list of tokens. -/
abbrev Reader (α : Type) := List Token → Option (α × List Token)

namespace Reader
variable {α : Type}

/-- Takes off one given token. -/
def expect (token : Token) : List Token → Option (List Token)
  | t :: rest => if t = token then some rest else none
  | [] => none

/-- Items with a separator between them; there is at least one. The fuel bounds their number. -/
def itemsFrom (separator : Token) (item : Reader α) : Nat → Reader (α × List α)
  | 0, _ => none
  | fuel + 1, tokens => do
    let (first, tokens) ← item tokens
    match expect separator tokens with
    | some tokens => do
      let ((second, more), tokens) ← itemsFrom separator item fuel tokens
      some ((first, second :: more), tokens)
    | none => some ((first, []), tokens)

/-- Items with a separator between them. Each separator is a token, so there is fuel for all. -/
def items (separator : Token) (item : Reader α) : Reader (α × List α) := fun tokens =>
  itemsFrom separator item (tokens.length + 1) tokens

/-- The function of a name. -/
def function? : String → Option (Scalar → Scalar)
  | "LOWER" => some .lower
  | "TRIM" => some .trim
  | _ => none

/-- A term for a value. -/
def scalar : Reader Scalar
  | .ident name :: rest => some (.column name, rest)
  | .placeholder (some number) :: rest => some (.param number, rest)
  | .literal s :: rest => some (.literal s, rest)
  | .word name :: .mark '(' :: rest => do
    let function ← function? name
    let (argument, rest) ← scalar rest
    let rest ← expect (.mark ')') rest
    some (function argument, rest)
  | _ => none

/-- The comparison of a sign. -/
def comparison? : String → Option Comparison
  | "=" => some .eq
  | "<>" => some .ne
  | "<" => some .lt
  | "<=" => some .le
  | ">" => some .gt
  | ">=" => some .ge
  | _ => none

/-- What follows `BETWEEN`. -/
def bounds (a : Scalar) : Reader Filter := fun tokens => do
  let (low, tokens) ← scalar tokens
  let tokens ← expect (.word "AND") tokens
  let (high, tokens) ← scalar tokens
  some (.between a low high, tokens)

/-- What follows `IN`. -/
def members (a : Scalar) : Reader Filter := fun tokens => do
  let tokens ← expect (.mark '(') tokens
  let ((first, more), tokens) ← items (.mark ',') scalar tokens
  let tokens ← expect (.mark ')') tokens
  some (.isIn a (first :: more), tokens)

/-- What follows `LIKE`. -/
def pattern (a : Scalar) : Reader Filter := fun tokens => do
  let (pattern, tokens) ← scalar tokens
  match tokens with
  | .word "ESCAPE" :: .literal escape :: rest => some (.like a pattern (some escape), rest)
  | rest => some (.like a pattern none, rest)

/-- A test that `NOT` may stand before. -/
def test (a : Scalar) : Reader Filter
  | .word "BETWEEN" :: rest => bounds a rest
  | .word "IN" :: rest => members a rest
  | .word "LIKE" :: rest => pattern a rest
  | _ => none

/-- A condition without connectives. -/
def predicate : Reader Filter := fun tokens => do
  let (a, tokens) ← scalar tokens
  match tokens with
  | .operator sign :: rest => do
    let op ← comparison? sign
    let (b, rest) ← scalar rest
    some (.compare op a b, rest)
  | .word "IS" :: .word "NULL" :: rest => some (.isNull a, rest)
  | .word "IS" :: .word "NOT" :: .word "NULL" :: rest => some (.not (.isNull a), rest)
  | .word "NOT" :: rest => do
    let (f, rest) ← test a rest
    some (.not f, rest)
  | rest => test a rest

/-- A filter in parentheses or a condition without connectives. -/
def operand (inner : Reader Filter) : Reader Filter
  | .mark '(' :: rest => do
    let (f, rest) ← inner rest
    let rest ← expect (.mark ')') rest
    some (f, rest)
  | tokens => predicate tokens

/-- Operands with `AND` between them. -/
def conjunction (inner : Reader Filter) : Reader Filter := fun tokens => do
  let ((first, more), rest) ← items (.word "AND") (operand inner) tokens
  some (more.foldl .and first, rest)

/-- Conjunctions with `OR` between them. -/
def disjunction (inner : Reader Filter) : Reader Filter := fun tokens => do
  let ((first, more), rest) ← items (.word "OR") (conjunction inner) tokens
  some (more.foldl .or first, rest)

/-- A filter with parentheses up to a depth. -/
def filter : Nat → Reader Filter
  | 0 => fun _ => none
  | depth + 1 => disjunction (filter depth)

end Reader

/-! ### Statements -/

/-- The tokens with a number for every placeholder that has none. -/
def numberedFrom : Nat → List Token → List Token
  | _, [] => []
  | count, .placeholder number :: rest =>
    .placeholder (some (number.getD (count + 1))) :: numberedFrom (count + 1) rest
  | count, t :: rest => t :: numberedFrom count rest

/-- Whether a `WHERE` clause can end before some tokens. -/
def endsFilter (rest : List Token) : Bool :=
  rest.head?.all fun t => t = .word "ORDER" || t = .word "LIMIT"

/-- The filter that stands after the table of a statement, nothing if there is no `WHERE`. -/
def filterAfterTable? (depth : Nat) : List Token → Option (Option Filter)
  | .word "WHERE" :: rest => do
    let (f, rest) ← Reader.filter depth rest
    if endsFilter rest then some (some f) else none
  | rest => if endsFilter rest then some none else none

/-- The filter of a statement. No filter is nested deeper than the statement is long. -/
def where? (tokens : List Token) : Option (Option Filter) :=
  match tokens.dropWhile (· ≠ .word "FROM") with
  | _ :: .ident _ :: rest => filterAfterTable? tokens.length rest
  | _ => none

/-- The filter that the text of a statement has. -/
def filterOf? (d : Dialect) (text : String) : Option (Option Filter) :=
  (tokens? d text).bind fun tokens => where? (numberedFrom 0 tokens)

end QueryPlan.Sql
