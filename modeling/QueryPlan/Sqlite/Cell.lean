import QueryPlan.Json
import QueryPlan.Text.Utf8
import QueryPlan.Value

/-!
# SQLite cells

The values that SQLite stores, how bound values become such values, and how the values of a row
become structured values.
-/

namespace QueryPlan.Sqlite
set_option autoImplicit false
open Number

/-- A value as SQLite stores it. -/
inductive Cell where
  | null
  | integer (n : Int)
  | real (x : Binary64)
  /-- A text, which need not be well-formed. -/
  | text (bytes : List UInt8)
  | blob (bytes : List UInt8)
  deriving DecidableEq, Repr

/-- A value as SQLite is given it as a parameter. -/
inductive Binding where
  | integer (n : Int)
  | real (x : Binary64)
  | text (s : String)
  deriving DecidableEq, Repr

/-- The parameter of a bound value; truth values are one and zero. -/
def Binding.ofValue : Value → Binding
  | .bool b => .integer (if b then 1 else 0)
  | .int n => .integer n
  | .float x => .real x
  | .text s => .text s

/-- A cell as a structured value. What is not finite becomes null, ill-formed text is mended, and
bytes become a string if they spell one and otherwise a list of numbers. -/
def Cell.toJson : Cell → Json
  | .null => .null
  | .integer n => .int n
  | .real x => if x.isFinite then .float x else .null
  | .text bytes => .text (Text.ofUtf8Lossy bytes)
  | .blob bytes =>
    match Text.ofUtf8? bytes with
    | some s => .text s
    | none => .list (bytes.map fun b => .int b.toNat)

end QueryPlan.Sqlite
