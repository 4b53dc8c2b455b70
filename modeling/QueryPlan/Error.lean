import QueryPlan.Json
import QueryPlan.Schema.StorageType

/-!
# Errors

What can go wrong in declaring entity types, compiling requests and running plans. A `Cause` says
what went wrong; its code, its wording and the advice that goes with it are functions of the cause.
A `QueryError` is a cause with the context in which it is reported.
-/

namespace QueryPlan
set_option autoImplicit false
open Number

/-- The coarse category of an error. -/
inductive ErrorKind where
  /-- A malformed or oversized request, or a bad definition. -/
  | configuration
  /-- An unknown filter key or sort key. -/
  | invalidPredicate
  /-- A page beyond the ceiling. -/
  | invalidPagination
  /-- A failure while a plan runs. -/
  | execution
  deriving DecidableEq, Repr

/-- The code of an error. -/
inductive ErrorCode where
  /-- A filter key names no registered pair. -/
  | unknownPredicate
  /-- A sort key names no registered ordering. -/
  | unknownSort
  /-- A page is not between one and the ceiling. -/
  | pageOutOfRange
  /-- An offset does not fit its type. -/
  | offsetOverflow
  /-- A request, or a part of it, has the wrong shape. -/
  | requestShape
  /-- Input was never permitted. -/
  | unpermittedInput
  | tooManyPredicates
  | tooManyGroups
  | tooManySortKeys
  /-- An operand does not fit its predicate. -/
  | invalidValue
  /-- A registration names no column. -/
  | unknownColumn
  /-- A registration disagrees with the schema. -/
  | typeMismatch
  /-- Settings or definitions make no sense. -/
  | invalidConfiguration
  /-- The store reported a failure. -/
  | database
  /-- Something that cannot happen did. -/
  | internal
  deriving DecidableEq, Repr

namespace ErrorCode

/-- The number of a code; its thousands tell the category. -/
def number : ErrorCode → Nat
  | unknownPredicate => 1001
  | unknownSort => 1002
  | pageOutOfRange => 2001
  | offsetOverflow => 2002
  | requestShape => 7001
  | unpermittedInput => 7002
  | tooManyPredicates => 7003
  | tooManyGroups => 7004
  | tooManySortKeys => 7005
  | invalidValue => 7006
  | unknownColumn => 7007
  | typeMismatch => 7008
  | invalidConfiguration => 7009
  | database => 9001
  | internal => 9002

/-- The code as it is shown. -/
def text (c : ErrorCode) : String := "S" ++ Nat.repr c.number

/-- The category of a code. -/
def kind : ErrorCode → ErrorKind
  | unknownPredicate | unknownSort => .invalidPredicate
  | pageOutOfRange | offsetOverflow => .invalidPagination
  | database | internal => .execution
  | _ => .configuration

/-- A short description. -/
def description : ErrorCode → String
  | unknownPredicate => "Unknown predicate"
  | unknownSort => "Unknown sort key"
  | pageOutOfRange => "Page out of range"
  | offsetOverflow => "Offset overflow"
  | requestShape => "Invalid request shape"
  | unpermittedInput => "Unpermitted input"
  | tooManyPredicates => "Too many predicates"
  | tooManyGroups => "Too many OR-groups"
  | tooManySortKeys => "Too many sort keys"
  | invalidValue => "Invalid predicate value"
  | unknownColumn => "Unknown column"
  | typeMismatch => "Storage type mismatch"
  | invalidConfiguration => "Invalid configuration"
  | database => "Database error"
  | internal => "Internal error"

end ErrorCode

/-- What is wrong with the shape of a request. -/
inductive ShapeFault where
  /-- An input that should be a map is not. -/
  | inputNotMap (what : String) (got : Json.Kind)
  /-- The OR-group at an index is empty. -/
  | emptyGroup (index : Nat)
  /-- The envelope is not a map. -/
  | envelopeNotMap (got : Json.Kind)
  /-- The OR-groups are not a list. -/
  | groupsNotList (key : String) (got : Json.Kind)
  /-- The sort keys are neither a string nor a list. -/
  | sortNotList (key : String) (got : Json.Kind)
  /-- A sort key in a list is not a string. -/
  | sortKeyNotText (key : String) (got : Json.Kind)
  /-- A page number or page size is not an integer. -/
  | notInteger (key : String) (got : Json)
  /-- The envelope has a key that it may not have. -/
  | unexpectedKey (key : String) (expected : List String)
  /-- Another fault in the words of whoever found it. -/
  | described (message : String)

/-- A key between backticks. -/
def ticked (key : String) : String := "`" ++ key ++ "`"

namespace ShapeFault

/-- The wording of a fault. -/
def message : ShapeFault → String
  | inputNotMap what got => what ++ " must be a map, got " ++ got.describe
  | emptyGroup index => "OR-group " ++ Nat.repr index ++ " is empty"
  | envelopeNotMap got => "Request must be a map, got " ++ got.describe
  | groupsNotList key got => ticked key ++ " must be a list of maps, got " ++ got.describe
  | sortNotList key got =>
    ticked key ++ " must be a string or a list of strings, got " ++ got.describe
  | sortKeyNotText _ got => "Sort keys must be strings, got " ++ got.describe
  | notInteger key got => ticked key ++ " must be an integer, got " ++ got.compact
  | unexpectedKey key _ => "Unexpected request key " ++ ticked key
  | described message => message

/-- The envelope key at fault. -/
def key? : ShapeFault → Option String
  | groupsNotList key _ | sortNotList key _ | sortKeyNotText key _ | notInteger key _
  | unexpectedKey key _ => some key
  | _ => none

end ShapeFault

/-- What is wrong with an operand. -/
inductive ValueFault where
  /-- Null is no operand. -/
  | null
  /-- A value of one sort was expected and another was given. -/
  | mismatch (expected got : String)
  /-- A range was given a number of bounds other than two. -/
  | notTwoBounds (count : Nat)
  /-- A list has no members. -/
  | emptyList
  /-- A list has more members than it may have. -/
  | longList (count ceiling : Nat)
  /-- Another fault in the words of whoever found it. -/
  | described (message : String)

/-- The wording of a fault. -/
def ValueFault.message : ValueFault → String
  | .null => "null is not a valid operand"
  | .mismatch expected got => "expected " ++ expected ++ ", got " ++ got
  | .notTwoBounds count => "expected exactly two values, got " ++ Nat.repr count
  | .emptyList => "expected a non-empty list"
  | .longList count ceiling =>
    "list has " ++ Nat.repr count ++ " values, the maximum is " ++ Nat.repr ceiling
  | .described message => message

/-- What is wrong with a definition or with settings. -/
inductive DefinitionFault where
  /-- A table or column name is no plain identifier. -/
  | badIdentifier (name : String)
  /-- A subtype declares a column that the table has already. -/
  | duplicateColumn (column table : String)
  /-- Another fault in the words of whoever found it. -/
  | described (message : String)

/-- The wording of a fault. -/
def DefinitionFault.message : DefinitionFault → String
  | .badIdentifier name => ticked name ++ " is not a valid table or column name"
  | .duplicateColumn column table => "Column " ++ ticked column ++ " already exists on " ++ table
  | .described message => message

/-- What went wrong. -/
inductive Cause where
  | unknownPredicate (key : String)
  | unknownSort (key : String)
  | pageOutOfRange (page : Int) (ceiling : Nat)
  | offsetOverflow (page perPage : Nat)
  | requestShape (fault : ShapeFault)
  | unpermitted (what : String)
  | tooManyPredicates (count ceiling : Nat)
  | tooManyGroups (count ceiling : Nat)
  | tooManySortKeys (count ceiling : Nat)
  | invalidValue (key : String) (fault : ValueFault)
  | unknownColumn (table field : String)
  | typeMismatch (table field : String) (declared actual : StorageType)
  | invalidConfiguration (fault : DefinitionFault)
  | database (message : String)
  | internal (message : String)

namespace Cause

/-- The code of a cause. -/
def code : Cause → ErrorCode
  | unknownPredicate _ => .unknownPredicate
  | unknownSort _ => .unknownSort
  | pageOutOfRange _ _ => .pageOutOfRange
  | offsetOverflow _ _ => .offsetOverflow
  | requestShape _ => .requestShape
  | unpermitted _ => .unpermittedInput
  | tooManyPredicates _ _ => .tooManyPredicates
  | tooManyGroups _ _ => .tooManyGroups
  | tooManySortKeys _ _ => .tooManySortKeys
  | invalidValue _ _ => .invalidValue
  | unknownColumn _ _ => .unknownColumn
  | typeMismatch _ _ _ _ => .typeMismatch
  | invalidConfiguration _ => .invalidConfiguration
  | database _ => .database
  | internal _ => .internal

/-- The wording of a cause. -/
def message : Cause → String
  | unknownPredicate key =>
    "Invalid predicate " ++ ticked key ++ ": no registered field/predicate pair matches"
  | unknownSort key => "Invalid sort key " ++ ticked key ++ ": no registered ordering matches"
  | pageOutOfRange page ceiling =>
    "Invalid page " ++ intText page ++ ": pages must be between 1 and " ++ Nat.repr ceiling
  | offsetOverflow page perPage =>
    "Invalid pagination: page " ++ Nat.repr page ++ " with " ++ Nat.repr perPage ++
      " per page overflows the offset"
  | requestShape fault => fault.message
  | unpermitted what => "Refusing to compile unpermitted " ++ what
  | tooManyPredicates count ceiling =>
    "Query has " ++ Nat.repr count ++ " predicates, the maximum is " ++ Nat.repr ceiling
  | tooManyGroups count ceiling =>
    "Query has " ++ Nat.repr count ++ " OR-groups, the maximum is " ++ Nat.repr ceiling
  | tooManySortKeys count ceiling =>
    "Query has " ++ Nat.repr count ++ " sort keys, the maximum is " ++ Nat.repr ceiling
  | invalidValue key fault => "Invalid value for " ++ ticked key ++ ": " ++ fault.message
  | unknownColumn table field =>
    "Cannot register " ++ ticked field ++ " on " ++ table ++ ": no such column"
  | typeMismatch table field declared actual =>
    "Cannot register " ++ ticked field ++ " on " ++ table ++ " as " ++ declared.name ++
      ": the column is " ++ actual.name
  | invalidConfiguration fault => fault.message
  | database message => message
  | internal message => "Internal error: " ++ message

/-- The name that a cause blames: a table for registrations. -/
def entity? : Cause → Option String
  | unknownColumn table _ | typeMismatch table _ _ _ => some table
  | _ => none

/-- The key that a cause blames. -/
def key? : Cause → Option String
  | unknownPredicate key | unknownSort key | invalidValue key _ => some key
  | pageOutOfRange _ _ | offsetOverflow _ _ => some "page"
  | requestShape fault => fault.key?
  | unknownColumn _ field | typeMismatch _ field _ _ => some field
  | _ => none

/-- What might be done about a cause. -/
def suggestions : Cause → List String
  | unknownPredicate _ => ["Use one of the predicate keys registered for this entity type"]
  | unknownSort _ => ["Sort keys have the form `<field>:<variant>`, e.g. `title:asc`"]
  | requestShape (.unexpectedKey _ expected) =>
    ["Expected one of " ++ String.intercalate ", " (expected.map ticked)]
  | unpermitted _ => ["Call `permit()` on the parameters once they have been filtered"]
  | invalidValue _ .null =>
    ["Use the `null` or `not_null` predicate to match missing values"]
  | _ => []

/-- Further help with a cause. -/
def help? : Cause → Option String
  | pageOutOfRange _ _ =>
    some "Deep offset pagination is capped; narrow the result set with filters instead"
  | requestShape (.emptyGroup _) => some "Omit the group instead of sending an empty map"
  | _ => none

end Cause

/-- A cause with the context in which it is reported. -/
structure QueryError where
  /-- What went wrong. -/
  cause : Cause
  /-- The entity type or table involved. -/
  entity : Option String
  /-- The key at fault. -/
  key : Option String
  /-- What might be done about it. -/
  suggestions : List String
  /-- Further help. -/
  help : Option String
  /-- The words of the error that this one came from. -/
  source : Option String

/-- The error of a cause, with the context that the cause itself gives. -/
def Cause.toError (cause : Cause) : QueryError :=
  ⟨cause, cause.entity?, cause.key?, cause.suggestions, cause.help?, none⟩

namespace QueryError

/-- The code of an error. -/
def code (e : QueryError) : ErrorCode := e.cause.code

/-- The category of an error. -/
def kind (e : QueryError) : ErrorKind := e.code.kind

/-- The wording of an error. -/
def message (e : QueryError) : String := e.cause.message

/-- The line that is shown: the code in brackets and the wording. -/
def display (e : QueryError) : String := "[" ++ e.code.text ++ "] " ++ e.message

/-- The error with its entity type set. -/
def withEntity (e : QueryError) (entity : String) : QueryError := { e with entity := some entity }

/-- The error with its key set. -/
def withKey (e : QueryError) (key : String) : QueryError := { e with key := some key }

/-- The error with one more suggestion. -/
def withSuggestion (e : QueryError) (suggestion : String) : QueryError :=
  { e with suggestions := e.suggestions ++ [suggestion] }

/-- The error with its help set. -/
def withHelp (e : QueryError) (help : String) : QueryError := { e with help := some help }

/-- The error with the words of the error it came from. -/
def withSource (e : QueryError) (source : String) : QueryError := { e with source := some source }

/-- The error with its entity type set unless it has one. -/
def tagged (e : QueryError) (entity : String) : QueryError :=
  if e.entity.isNone then e.withEntity entity else e

/-- Lines of a list numbered from a number on. -/
def numbered : Nat → List String → String
  | _, [] => ""
  | n, s :: rest => "  " ++ Nat.repr n ++ ". " ++ s ++ "\n" ++ numbered (n + 1) rest

/-- The error over several lines, with all of its context. -/
def displayFull (e : QueryError) : String :=
  let line (start : String) (item : Option String) : String :=
    match item with
    | some s => start ++ s ++ "\n"
    | none => ""
  "Error [" ++ e.code.text ++ "]: " ++ e.message ++ "\n" ++
    line "  → Entity: " e.entity ++ line "  → Key: " e.key ++
    (if e.suggestions.isEmpty then "" else "\nSuggestions:\n" ++ numbered 1 e.suggestions) ++
    line "\nHelp: " e.help

end QueryError
end QueryPlan
