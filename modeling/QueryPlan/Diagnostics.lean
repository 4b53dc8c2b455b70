import QueryPlan.Text.Search

/-!
# Diagnostics

How much is logged and in which format, as three environment variables say. Words count in any
case. An unknown level falls back on what the debug switch says, an unknown format on `json`.
-/

namespace QueryPlan
set_option autoImplicit false

/-- The values of the variables that control logging; none for one that is not set. -/
structure Diagnostics where
  /-- The value of `SIFT_DEBUG`. -/
  debug : Option String := none
  /-- The value of `SIFT_LOG_LEVEL`. -/
  level : Option String := none
  /-- The value of `SIFT_LOG_FORMAT`. -/
  format : Option String := none
  deriving DecidableEq, Repr

namespace Diagnostics

/-- The names of the variables, in the order of the fields. -/
def variableNames : List String := ["SIFT_DEBUG", "SIFT_LOG_LEVEL", "SIFT_LOG_FORMAT"]

/-- The words that switch debugging on. -/
def onWords : List String := ["true", "1", "yes"]

/-- The names of levels. -/
def levels : List String := ["trace", "debug", "info", "warn", "error"]

/-- The names of formats other than the usual one. -/
def otherFormats : List String := ["pretty", "compact"]

/-- The word of a value in lower case if it is among some words. -/
def wordAmong? (words : List String) (value : Option String) : Option String :=
  (value.map Text.lower).filter words.contains

/-- Whether debugging is switched on. -/
def isDebug (d : Diagnostics) : Bool := (wordAmong? onWords d.debug).isSome

/-- The level to log at. -/
def logLevel (d : Diagnostics) : String :=
  (wordAmong? levels d.level).getD (if d.isDebug then "debug" else "warn")

/-- The format to log in. -/
def logFormat (d : Diagnostics) : String := (wordAmong? otherFormats d.format).getD "json"

/-- The variables with debugging switched on. -/
def enableDebug (d : Diagnostics) : Diagnostics := { d with debug := some "true" }

/-- The variables with a level set. -/
def withLevel (d : Diagnostics) (level : String) : Diagnostics := { d with level := some level }

end Diagnostics
end QueryPlan
