import QueryPlan.Number.Numeral
import QueryPlan.Sqlite.Failure
import QueryPlan.Text.Search

/-!
# SQLite connection options

Where a SQLite database lies and how connections to it are set up, and how a URL spells this: a
location, and after a question mark options as `key=value` with `&` between them. Parts of the
option text without an equals sign are passed over.
-/

namespace QueryPlan.Sqlite
set_option autoImplicit false
open Number

/-- Where a database lies. -/
inductive Location where
  | memory
  | file (path : String)
  deriving DecidableEq, Repr

/-- How transactions are journalled. -/
inductive JournalMode where
  /-- The journal is deleted after a transaction. -/
  | delete
  /-- The journal is cut to nothing after a transaction. -/
  | truncate
  /-- The journal is kept in memory. -/
  | memory
  /-- Changes are written ahead to a log. -/
  | wal
  deriving DecidableEq, Repr

namespace JournalMode

/-- Every journal mode. -/
def all : List JournalMode := [delete, truncate, memory, wal]

/-- The keyword of a mode. -/
def keyword : JournalMode → String
  | delete => "DELETE"
  | truncate => "TRUNCATE"
  | memory => "MEMORY"
  | wal => "WAL"

/-- The mode of a keyword in any case. -/
def ofName? (name : String) : Option JournalMode :=
  all.find? fun mode => Text.lower mode.keyword = Text.lower name

end JournalMode

/-- How connections are set up. -/
structure Options where
  /-- Where the database lies. -/
  location : Location := .memory
  /-- Whether foreign keys are enforced. -/
  foreignKeys : Bool := true
  /-- How long to wait for a lock, in milliseconds. -/
  busyTimeout : Option Nat := some 5000
  /-- How transactions are journalled. -/
  journalMode : JournalMode := .wal
  /-- Whether LIKE tells cases apart. -/
  caseSensitiveLike : Bool := true
  /-- How long a plan may run, in milliseconds. -/
  queryTimeout : Option Nat := none
  deriving DecidableEq, Repr

namespace Options

/-- The pragmas that every new connection runs. -/
def initSql (o : Options) : String :=
  (if o.foreignKeys then "PRAGMA foreign_keys = ON;\n" else "") ++
    (if o.location = .memory then ""
      else "PRAGMA journal_mode = " ++ o.journalMode.keyword ++ ";\n") ++
    (match o.busyTimeout with
      | some ms => "PRAGMA busy_timeout = " ++ Nat.repr ms ++ ";\n"
      | none => "") ++
    "PRAGMA case_sensitive_like = " ++ (if o.caseSensitiveLike then "ON" else "OFF") ++ ";\n"

/-- The texts that name the database in memory. -/
def memoryNames : List String := ["sqlite::memory:", ":memory:", "sqlite://:memory:"]

/-- The beginnings that a path may have, each tried before the next. -/
def schemes : List String := ["sqlite://", "sqlite:", "file:"]

/-- The location that the part of a URL before its options names. -/
def location? (s : String) : Except Failure Location :=
  if memoryNames.contains s then .ok .memory
  else
    let path := (schemes.findSome? fun scheme => Text.stripStart? scheme s).getD s
    if path = "" then .error (.configuration "database path is required") else .ok (.file path)

/-- The error of an option whose value is of the wrong sort. -/
def badValue (key wanted : String) : Failure :=
  .configuration ("`" ++ key ++ "` must be " ++ wanted)

/-- A truth value as an option spells it. -/
def flag (key value : String) : Except Failure Bool :=
  if value = "true" ∨ value = "1" then .ok true
  else if value = "false" ∨ value = "0" then .ok false
  else .error (badValue key "true or false")

/-- A number as an option spells it, at most `bound`. -/
def number (key value : String) (bound : Nat) : Except Failure Nat :=
  match boundedNatural? bound value.toList with
  | some n => .ok n
  | none => .error (badValue key "a number")

/-- The longest wait for a lock that can be set. -/
def maxTimeout : Nat := 0xFFFFFFFF

/-- The options with one set. -/
def set (o : Options) (key value : String) : Except Failure Options :=
  match key with
  | "foreign_keys" => (flag key value).map fun b => { o with foreignKeys := b }
  | "case_sensitive_like" => (flag key value).map fun b => { o with caseSensitiveLike := b }
  | "busy_timeout" => (number key value maxTimeout).map fun n => { o with busyTimeout := some n }
  | "query_timeout" => (number key value maxUnsigned).map fun n => { o with queryTimeout := some n }
  | "journal_mode" =>
    match JournalMode.ofName? value with
    | some mode => .ok { o with journalMode := mode }
    | none => .error (.configuration ("unknown journal_mode `" ++ value ++ "`"))
  | _ =>
    if key = "mode" ∧ value = "memory" then .ok { o with location := .memory }
    else .error (.configuration ("unknown option `" ++ key ++ "`"))

/-- The options with one segment of a URL's option text set; a segment without an equals sign sets
none. -/
def setSegment (o : Options) (segment : List Char) : Except Failure Options :=
  match Text.cutAt '=' segment with
  | (key, some value) => o.set (String.ofList key) (String.ofList value)
  | (_, none) => .ok o

/-- The segments of the part of a URL after its question mark. -/
def segments : Option (List Char) → List (List Char)
  | some query => query.splitOn '&'
  | none => []

/-- The options that a URL spells. -/
def ofUrl (url : String) : Except Failure Options := do
  let (place, query) := Text.cutAt '?' url.toList
  let location ← location? (String.ofList place)
  (segments query).foldlM setSegment { location := location }

end Options
end QueryPlan.Sqlite
