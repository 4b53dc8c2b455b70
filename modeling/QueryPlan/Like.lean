import QueryPlan.Predicate.Kind

/-!
# LIKE patterns

A search text becomes a pattern that matches it literally: `%`, `_` and the escape character itself
are escaped, then a wildcard is added on each side where other text may stand.
-/

namespace QueryPlan.Like
set_option autoImplicit false

/-- The character that makes the next one literal. -/
def escapeChar : Char := '\x5c'

/-- The wildcard for any sequence of characters. -/
def anySequence : Char := '%'

/-- The wildcard for any one character. -/
def anyOne : Char := '_'

/-- The characters with a meaning of their own in a pattern. -/
def isSpecial (c : Char) : Bool := c = anySequence || c = anyOne || c = escapeChar

/-- A text with each special character escaped. -/
def escapeChars : List Char → List Char
  | [] => []
  | c :: s => if isSpecial c then escapeChar :: c :: escapeChars s else c :: escapeChars s

/-- The pattern that a text matches at a position. -/
def patternChars (position : PatternPosition) (s : List Char) : List Char :=
  match position with
  | .contains => anySequence :: (escapeChars s ++ [anySequence])
  | .startsWith => escapeChars s ++ [anySequence]
  | .endsWith => anySequence :: escapeChars s

/-- A text with each special character escaped. -/
def escape (s : String) : String := String.ofList (escapeChars s.toList)

/-- The pattern that a text matches at a position. -/
def pattern (position : PatternPosition) (s : String) : String :=
  String.ofList (patternChars position s.toList)

end QueryPlan.Like
