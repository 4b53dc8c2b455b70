import QueryPlan.Json
import QueryPlan.Number.Word
import QueryPlan.Order.Term
import QueryPlan.Schema.StorageType
import QueryPlan.Value

/-!
# Choices and bound values as structured values

A choice is written as its name, or as a map of its name to null. A bound value is written as the
plain value, and read as the first of truth value, integer, floating-point number and string that
fits.
-/

namespace QueryPlan
set_option autoImplicit false
open Number

/-- The name that a choice is written by. -/
def Json.choiceName? : Json → Option String
  | .text name => some name
  | .map [(name, .null)] => some name
  | _ => none

/-- The first of several choices that goes by a name. -/
def choose? {α : Type} (name : α → String) (choices : List α) (v : Json) : Option α :=
  v.choiceName?.bind fun written => choices.find? fun choice => name choice = written

/-- The name that a storage type is written by, words joined by underscores. -/
def StorageType.tag : StorageType → String
  | .datetime => "date_time"
  | t => t.name

/-- The storage type that a value names. -/
def StorageType.ofJson? (v : Json) : Option StorageType := choose? tag all v

/-- The name that a direction is written by. -/
def Direction.tag : Direction → String
  | .asc => "Asc"
  | .desc => "Desc"

/-- The direction that a value names. -/
def Direction.ofJson? (v : Json) : Option Direction := choose? tag [.asc, .desc] v

/-- The name that a null placement is written by. -/
def NullPlacement.tag : NullPlacement → String
  | .first => "First"
  | .last => "Last"

/-- The null placement that a value names. -/
def NullPlacement.ofJson? (v : Json) : Option NullPlacement := choose? tag [.first, .last] v

/-- The bound value that a plain value stands for. An integer beyond a signed word is read as the
nearest floating-point number. -/
def Value.ofJson? : Json → Option Value
  | .bool b => some (.bool b)
  | .int n => some (if fitsSigned n then .int n else .float (Binary64.ofInt n))
  | .float x => some (.float x)
  | .text s => some (.text s)
  | _ => none

/-- A bound value as a plain value. -/
def Value.toJson : Value → Json
  | .bool b => .bool b
  | .int n => .int n
  | .float x => .float x
  | .text s => .text s

end QueryPlan
