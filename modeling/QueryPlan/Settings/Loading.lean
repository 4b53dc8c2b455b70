import QueryPlan.Settings.Decoding
import QueryPlan.Settings.Environment
import QueryPlan.Toml.Document

/-!
# Loading settings

Settings are read from a TOML document in which references to the environment are replaced first,
and are checked before they are given out.
-/

namespace QueryPlan.Settings
set_option autoImplicit false

/-- The settings that a document describes. List forms may be longer than needed. -/
def ofToml (env : Environment) (document : String) : Except SettingsError Settings :=
  match (Toml.parse? (expand env document)).bind (ofJson? .ignored) with
  | some settings => settings.validate
  | none => .error .malformed

end QueryPlan.Settings

namespace QueryPlan.SettingsError
set_option autoImplicit false

/-- The wording of an error, where it is this library's own. -/
def message : SettingsError → String
  | .unreadable path => "failed to read config file `" ++ path ++ "`"
  | .malformed => "invalid config"
  | .unusable fault => "invalid config: " ++ fault.message

/-- The error as a query error. -/
def toQueryError (e : SettingsError) : QueryError :=
  (Cause.invalidConfiguration (.described e.message)).toError.withSource e.message

end QueryPlan.SettingsError
