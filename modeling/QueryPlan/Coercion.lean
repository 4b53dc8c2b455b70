import QueryPlan.Calendar.Reading
import QueryPlan.Error
import QueryPlan.Schema.Table
import QueryPlan.Value

/-!
# Operand coercion

Each operand is coerced to the storage type of the field that it filters, so that `"50"` compares
as a number with a numeric column and dates reach the store in one canonical form. A value that
cannot be coerced is a malformed request.
-/

namespace QueryPlan.Coercion
set_option autoImplicit false
open Number

/-- The longest string, in bytes, that a message repeats. -/
def quotedBytes : Nat := 40

/-- How a message names a value: strings and numbers by what they are, others by their kind. -/
def describe : Json → String
  | .text s => if s.utf8ByteSize ≤ quotedBytes then "\"" ++ s ++ "\"" else "a long string"
  | .int n => intText n
  | .float x => Json.floatText x
  | v => v.kind.describe

/-- The truth value that `true`, `"true"`, `"1"` or `1` stands for, or one of their opposites. -/
def boolean? : Json → Option Bool
  | .bool b => some b
  | .text s =>
    let word := Text.lower (Text.trim s)
    if word = "true" ∨ word = "1" then some true
    else if word = "false" ∨ word = "0" then some false
    else none
  | .int n => if n = 1 then some true else if n = 0 then some false else none
  | _ => none

/-- The text of a string or a number. -/
def text? : Json → Option String
  | .text s => some s
  | .int n => some (intText n)
  | .float x => some (Json.floatText x)
  | _ => none

/-- A floating-point number, unless it is infinite or not a number. -/
def finiteValue? (x : Binary64) : Option Value := if x.isFinite then some (.float x) else none

/-- The number of a number or of a numeral: an integer if it fits a signed word, and otherwise the
nearest floating-point number, which must be finite. -/
def number? : Json → Option Value
  | .int n => if fitsSigned n then some (.int n) else finiteValue? (Binary64.ofInt n)
  | .float x => finiteValue? x
  | .text s =>
    let digits := Text.trimChars s.toList
    match signedWord? digits with
    | some n => some (.int n)
    | none => (finite? digits).map Value.float
  | _ => none

/-- The canonical text of a date. -/
def date? : Json → Option String
  | .text s => (Calendar.date? (Text.trimChars s.toList)).map fun d => String.ofList d.chars
  | _ => none

/-- The canonical text of a timestamp. -/
def timestamp? : Json → Option String
  | .text s => (Calendar.timestamp? (Text.trimChars s.toList)).map fun t => String.ofList t.chars
  | _ => none

/-- The value of a storage type that an operand stands for. -/
def value? (type : StorageType) (v : Json) : Option Value :=
  match type with
  | .string | .text => (text? v).map Value.text
  | .numeric => number? v
  | .boolean => (boolean? v).map Value.bool
  | .date => (date? v).map Value.text
  | .datetime => (timestamp? v).map Value.text

/-- The error of a value of another sort than the expected one under a key. -/
def mismatch (key expected : String) (v : Json) : QueryError :=
  (Cause.invalidValue key (.mismatch expected (describe v))).toError

/-- The value of a storage type that the operand of a key stands for. -/
def scalar (key : String) (type : StorageType) (v : Json) : Except QueryError Value :=
  match v with
  | .null => .error (Cause.invalidValue key .null).toError
  | v =>
    match value? type v with
    | some value => .ok value
    | none => .error (mismatch key (type.describe ++ " value") v)

/-- The truth value that the operand of a flag stands for. -/
def flag (key : String) (v : Json) : Except QueryError Bool :=
  match boolean? v with
  | some b => .ok b
  | none => .error (mismatch key "true or false" v)

/-- The text that the operand of a pattern searches for. -/
def text (key : String) (v : Json) : Except QueryError String :=
  match text? v with
  | some s => .ok s
  | none => .error (mismatch key "a string" v)

end QueryPlan.Coercion
