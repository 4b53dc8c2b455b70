/-!
# Storage types

How a column is stored, which decides the predicates and the orderings it gets.
-/

namespace QueryPlan
set_option autoImplicit false

/-- How a column is stored. -/
inductive StorageType where
  | string
  | text
  | numeric
  | date
  | datetime
  | boolean
  deriving DecidableEq, Repr

namespace StorageType

/-- Every storage type. -/
def all : List StorageType := [string, text, numeric, date, datetime, boolean]

/-- The lower-case name. -/
def name : StorageType → String
  | string => "string"
  | text => "text"
  | numeric => "numeric"
  | date => "date"
  | datetime => "datetime"
  | boolean => "boolean"

/-- The storage type of a name. -/
def ofName? (name : String) : Option StorageType := all.find? (·.name = name)

/-- Short or long text. -/
def isTextual (t : StorageType) : Bool := t = string || t = text

/-- A date or a point in time. -/
def isTemporal (t : StorageType) : Bool := t = date || t = datetime

/-- Types on which `<` is meaningful. -/
def isOrdered (t : StorageType) : Bool := t = numeric || t.isTemporal

/-- A value of the type with its article, and the written form where that is not evident. -/
def describe : StorageType → String
  | string => "a string"
  | text => "a text"
  | numeric => "a numeric"
  | date => "a date (YYYY-MM-DD)"
  | datetime => "a datetime (ISO-8601)"
  | boolean => "a boolean"

end StorageType
end QueryPlan
