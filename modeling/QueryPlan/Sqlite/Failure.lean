import QueryPlan.Error

/-!
# SQLite failures

What can go wrong with a SQLite database, its wording, and how it is reported as a query error.
-/

namespace QueryPlan.Sqlite
set_option autoImplicit false

/-- What went wrong with a database. -/
inductive Failure where
  /-- The database library reported a failure. -/
  | driver (message : String)
  /-- Options make no sense. -/
  | configuration (message : String)
  /-- A plan ran longer than it may; the limit is in microseconds. -/
  | timeout (micros : Nat)
  /-- A value could not be converted. -/
  | conversion (message : String)
  deriving DecidableEq, Repr

namespace Failure

/-- The failure of using a connection that was closed. -/
def closed : Failure := .driver "ConnectionClosed"

/-- The wording of a failure. Times are given in whole milliseconds. -/
def message : Failure → String
  | driver message => "SQLite error: " ++ message
  | configuration message => "Configuration error: " ++ message
  | timeout micros => "Query timed out after " ++ Nat.repr (micros / 1000) ++ " ms"
  | conversion message => "Type conversion error: " ++ message

/-- Whether another error lies beneath. -/
def hasSource : Failure → Bool
  | driver _ => true
  | _ => false

/-- The failure as a query error: bad options are a configuration error of their own, any other
failure is one of the store. -/
def toQueryError : Failure → QueryError
  | configuration message => (Cause.invalidConfiguration (.described message)).toError
  | f => (Cause.database f.message).toError.withSource f.message

end Failure
end QueryPlan.Sqlite
