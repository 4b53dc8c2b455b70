/-!
# SQL dialects

What differs between the three dialects: placeholders, the quotes of identifiers, the spelling of
the escape clause, and whether null placement has a syntax of its own.
-/

namespace QueryPlan.Sql
set_option autoImplicit false

/-- A dialect that statements are rendered in. -/
inductive Dialect where
  | postgres
  | mysql
  | sqlite
  deriving DecidableEq, Repr, Inhabited

namespace Dialect

/-- Every dialect. -/
def all : List Dialect := [postgres, mysql, sqlite]

/-- The placeholder of the parameter with a number that counts from one. -/
def placeholder (d : Dialect) (number : Nat) : String :=
  match d with
  | postgres => "$" ++ Nat.repr number
  | mysql | sqlite => "?"

/-- The character that opens and closes a quoted identifier. -/
def quoteMark : Dialect → Char
  | mysql => '\x60'
  | postgres | sqlite => '\x22'

/-- The escape clause that makes a backslash escape in a pattern. In MySQL a backslash is an escape
inside string literals too. -/
def escapeClause : Dialect → String
  | mysql => " ESCAPE '\\\\'"
  | postgres | sqlite => " ESCAPE '\\'"

/-- Whether `NULLS FIRST` and `NULLS LAST` are understood. -/
def placesNulls (d : Dialect) : Bool := d != mysql

end Dialect

/-- Every occurrence of a character written twice. -/
def doubled (mark : Char) : List Char → List Char
  | [] => []
  | c :: s => if c = mark then c :: c :: doubled mark s else c :: doubled mark s

/-- A text between two marks, with the marks inside it written twice. -/
def quoted (mark : Char) (name : String) : String :=
  String.ofList (mark :: doubled mark name.toList ++ [mark])

/-- An identifier as a dialect quotes it. -/
def Dialect.quote (d : Dialect) (name : String) : String := quoted d.quoteMark name

end QueryPlan.Sql
