import QueryPlan.Number.Numeral
import QueryPlan.Sql.Statement

/-!
# Tokens

How a dialect cuts a text into tokens: words, comparison signs, marks of punctuation, placeholders,
quoted identifiers and string literals. A mark doubled inside its own quotes stands for one; MySQL
knows backslash escapes inside string literals. The scanner goes character by character and keeps
what it is in the middle of (`Mode`), so a text can be scanned in parts (`scan_append`). A character
that none of these can start with is refused, so a text with tokens holds no comment and no other
kind of quote.
-/

namespace QueryPlan.Sql
set_option autoImplicit false

/-- A token of a statement. -/
inductive Token where
  /-- A run of letters, digits and underscores: a keyword, a function name or a number. -/
  | word (s : String)
  /-- A run of comparison signs. -/
  | operator (s : String)
  /-- A mark of punctuation. -/
  | mark (c : Char)
  /-- A placeholder, with its number if one is written. -/
  | placeholder (number : Option Nat)
  /-- A quoted identifier, decoded. -/
  | ident (name : String)
  /-- A string literal, decoded. -/
  | literal (s : String)
  deriving DecidableEq, Repr

namespace Token

/-- The name of an identifier. -/
def ident? : Token → Option String
  | ident name => some name
  | _ => none

/-- What stands after a placeholder's sign. -/
def placeholder? : Token → Option (Option Nat)
  | placeholder number => some number
  | _ => none

end Token

/-- What a scanner is in the middle of, with the characters read so far. -/
inductive Mode where
  /-- Between two tokens. -/
  | between
  /-- In a word. -/
  | word (s : List Char)
  /-- In a run of comparison signs. -/
  | operator (s : List Char)
  /-- In the number of a placeholder. -/
  | number (digits : List Char)
  /-- In a quoted identifier. -/
  | ident (s : List Char)
  /-- After a mark in a quoted identifier: the closing one, or the first of two. -/
  | identMark (s : List Char)
  /-- In a string literal. -/
  | literal (s : List Char)
  /-- After a backslash in a string literal that knows escapes. -/
  | literalEscape (s : List Char)
  /-- After a mark in a string literal: the closing one, or the first of two. -/
  | literalMark (s : List Char)
  deriving DecidableEq, Repr

/-- The mark that opens and closes a quoted identifier. In MySQL a double quote opens a string, so
identifiers stand between backticks there. -/
def identMark : Dialect → Char
  | .postgres | .sqlite => '\x22'
  | .mysql => '\x60'

/-- The mark that opens and closes a string literal. -/
def literalMark : Char := '\x27'

/-- Whether a character can be part of a word. -/
def isWordChar (c : Char) : Bool := c.isAlphanum || c = '_'

/-- Whether a character can be part of a comparison. -/
def isOperatorChar (c : Char) : Bool := c = '=' || c = '<' || c = '>'

/-- Whether a character is a token of its own. -/
def isMark (c : Char) : Bool := c = '(' || c = ')' || c = ',' || c = '*'

/-- Whether a backslash is an escape inside string literals. -/
def Dialect.escapesLiterals (d : Dialect) : Bool := d = .mysql

/-- What a character stands for after a backslash in a string literal. -/
def unescaped : Char → List Char
  | '0' => ['\x00']
  | 'b' => ['\x08']
  | 'n' => ['\n']
  | 'r' => ['\r']
  | 't' => ['\t']
  | 'Z' => ['\x1a']
  | '%' => ['\x5c', '%']
  | '_' => ['\x5c', '_']
  | c => [c]

/-- The token that a text ending here would complete; none inside quotes. -/
def Mode.token? : Mode → Option (List Token)
  | .between => some []
  | .word s => some [.word (String.ofList s)]
  | .operator s => some [.operator (String.ofList s)]
  | .number digits => (Number.natural? digits).map fun n => [.placeholder (some n)]
  | .identMark s => some [.ident (String.ofList s)]
  | .literalMark s => some [.literal (String.ofList s)]
  | .ident _ | .literal _ | .literalEscape _ => none

/-- The first character of a token, or one between tokens: the tokens that it completes and what
comes after it. -/
def start (d : Dialect) (c : Char) : Option (List Token × Mode) :=
  if c.isWhitespace then some ([], .between)
  else if isWordChar c then some ([], .word [c])
  else if isOperatorChar c then some ([], .operator [c])
  else if isMark c then some ([.mark c], .between)
  else if c = identMark d then some ([], .ident [])
  else if c = literalMark then some ([], .literal [])
  else match d, c with
    | .postgres, '$' => some ([], .number [])
    | .mysql, '?' | .sqlite, '?' => some ([.placeholder none], .between)
    | _, _ => none

/-- A character that the token before it does not go on with. -/
def restart (d : Dialect) (m : Mode) (c : Char) : Option (List Token × Mode) := do
  let before ← m.token?
  let (after, m) ← start d c
  some (before ++ after, m)

/-- What one character does: the tokens that it completes and the mode after it. -/
def step (d : Dialect) (m : Mode) (c : Char) : Option (List Token × Mode) :=
  match m with
  | .between => restart d m c
  | .word s => if isWordChar c then some ([], .word (s ++ [c])) else restart d m c
  | .operator s => if isOperatorChar c then some ([], .operator (s ++ [c])) else restart d m c
  | .number digits => if c.isDigit then some ([], .number (digits ++ [c])) else restart d m c
  | .ident s => some ([], if c = identMark d then .identMark s else .ident (s ++ [c]))
  | .identMark s => if c = identMark d then some ([], .ident (s ++ [c])) else restart d m c
  | .literal s =>
    some ([],
      if c = literalMark then .literalMark s
      else if d.escapesLiterals && c = '\x5c' then .literalEscape s
      else .literal (s ++ [c]))
  | .literalEscape s => some ([], .literal (s ++ unescaped c))
  | .literalMark s => if c = literalMark then some ([], .literal (s ++ [c])) else restart d m c

/-- The tokens that a text completes and the mode after it. -/
def scan (d : Dialect) : Mode → List Char → Option (List Token × Mode)
  | m, [] => some ([], m)
  | m, c :: s => do
    let (before, m) ← step d m c
    let (after, m) ← scan d m s
    some (before ++ after, m)

/-- The tokens of a text that is read on from a mode to its end. -/
def tokensFrom? (d : Dialect) (m : Mode) (s : List Char) : Option (List Token) := do
  let (before, m) ← scan d m s
  let last ← m.token?
  some (before ++ last)

/-- The tokens of a text. -/
def tokens? (d : Dialect) (text : String) : Option (List Token) :=
  tokensFrom? d .between text.toList

end QueryPlan.Sql
