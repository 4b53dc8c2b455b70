import QueryPlan.Number.FloatText

/-!
# Structured values

The values that requests, records and settings are made of: JSON values whose integers and floating
point numbers are told apart, and their compact text.
-/

namespace QueryPlan
set_option autoImplicit false
open Number

/-- A structured value. The fields of a map are in the order in which they are visited. -/
inductive Json where
  | null
  | bool (b : Bool)
  /-- A number written without fraction and exponent. -/
  | int (n : Int)
  /-- A number written with a fraction or an exponent, or too large for an integer. -/
  | float (x : Binary64)
  | text (s : String)
  | list (items : List Json)
  | map (fields : List (String × Json))

namespace Json

/-- The sorts of value that messages tell apart. -/
inductive Kind where
  | null
  | boolean
  | number
  | string
  | list
  | map
  deriving DecidableEq, Repr

/-- A kind with its article. -/
def Kind.describe : Kind → String
  | .null => "null"
  | .boolean => "a boolean"
  | .number => "a number"
  | .string => "a string"
  | .list => "a list"
  | .map => "a map"

/-- The sort of a value. -/
def kind : Json → Kind
  | .null => .null
  | .bool _ => .boolean
  | .int _ => .number
  | .float _ => .number
  | .text _ => .string
  | .list _ => .list
  | .map _ => .map

/-- The value of a key in a map; other values have no keys. -/
def get? : Json → String → Option Json
  | .map fields, key => fields.lookup key
  | _, _ => none

/-- Numbers are written positionally while the leading digit stands for a power of ten between the
fifth below and the fifteenth above the point. -/
def floatLayout : FloatLayout := ⟨-5, 15⟩

/-- The text of a floating point number. What is not finite has no numeral and reads as null. -/
def floatText (x : Binary64) : String :=
  if x.isFinite then floatLayout.render x else "null"

/-- A digit of base sixteen. -/
def hexDigit (n : Nat) : Char := (Nat.digitChar n)

/-- A character as it stands inside quotes. -/
def quoteChar (c : Char) : List Char :=
  if c = '\x22' then ['\x5c', '\x22']
  else if c = '\x5c' then ['\x5c', '\x5c']
  else if c = '\x08' then ['\x5c', 'b']
  else if c = '\x0c' then ['\x5c', 'f']
  else if c = '\n' then ['\x5c', 'n']
  else if c = '\r' then ['\x5c', 'r']
  else if c = '\t' then ['\x5c', 't']
  else if c.toNat < 0x20 then
    ['\x5c', 'u', '0', '0', hexDigit (c.toNat / 16), hexDigit (c.toNat % 16)]
  else [c]

/-- A string in quotes, with quotes, backslashes and control characters escaped. -/
def quote (s : String) : String :=
  String.ofList ('\x22' :: s.toList.flatMap quoteChar ++ ['\x22'])

mutual

/-- The compact text of a value: no blanks, fields in their order. -/
def compact : Json → String
  | .null => "null"
  | .bool b => if b then "true" else "false"
  | .int n => intText n
  | .float x => floatText x
  | .text s => quote s
  | .list items => "[" ++ compactItems items ++ "]"
  | .map fields => "\x7b" ++ compactFields fields ++ "\x7d"

/-- The items of a list, separated by commas. -/
def compactItems : List Json → String
  | [] => ""
  | [v] => compact v
  | v :: w :: rest => compact v ++ "," ++ compactItems (w :: rest)

/-- The fields of a map, separated by commas. -/
def compactFields : List (String × Json) → String
  | [] => ""
  | [(key, v)] => quote key ++ ":" ++ compact v
  | (key, v) :: field :: rest =>
    quote key ++ ":" ++ compact v ++ "," ++ compactFields (field :: rest)

end

end Json
end QueryPlan
