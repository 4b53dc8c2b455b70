import QueryPlan.Number.Binary64

/-!
# Bound values

The typed values that a statement binds as parameters.
-/

namespace QueryPlan
set_option autoImplicit false

/-- A typed value that can be bound as a parameter. -/
inductive Value where
  | bool (b : Bool)
  | int (n : Int)
  | float (x : Number.Binary64)
  /-- A string; dates and timestamps are bound as their canonical text. -/
  | text (s : String)
  deriving DecidableEq, Repr

/-- The string that a value carries, if it is one. -/
def Value.asText? : Value → Option String
  | .text s => some s
  | _ => none

end QueryPlan
