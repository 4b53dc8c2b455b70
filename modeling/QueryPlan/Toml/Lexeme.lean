import QueryPlan.Calendar.Reading
import QueryPlan.Json

/-!
# Lexemes of TOML

Blanks, comments, keys, strings, numbers and dates. A scanner takes the characters of a document
and gives what it read with the characters that follow, or nothing if the document is malformed
there. A date or time is kept as its text.
-/

namespace QueryPlan.Toml
set_option autoImplicit false
open Number

/-- A space or a tab. -/
def isSpace (c : Char) : Bool := c = ' ' || c = '\t'

/-- What follows spaces and tabs. -/
def skipSpaces (s : List Char) : List Char := s.dropWhile isSpace

/-- Whether a character may stand in a comment, and outside escapes in a string: no control
character but the tab. -/
def isPlain (c : Char) : Bool := c = '\t' || (0x20 ≤ c.toNat && c.toNat != 0x7F)

/-- What follows a comment, if one starts here. -/
def skipComment : List Char → List Char
  | '#' :: s => s.dropWhile isPlain
  | s => s

/-- What follows a line break. -/
def lineBreak? : List Char → Option (List Char)
  | '\n' :: s => some s
  | '\r' :: '\n' :: s => some s
  | _ => none

/-- What follows the rest of a line that holds no more than blanks and a comment. -/
def lineEnd? (s : List Char) : Option (List Char) :=
  match skipComment (skipSpaces s) with
  | [] => some []
  | s => lineBreak? s

/-- What follows blanks, line breaks and comments that end with their line. The first argument
bounds the number of lines. -/
def skipLines : Nat → List Char → List Char
  | 0, s => s
  | fuel + 1, s =>
    let s := skipSpaces s
    match lineBreak? (skipComment s) with
    | some rest => skipLines fuel rest
    | none => s

/-- The characters of a hexadecimal escape as a scalar value. -/
def scalar? (digits : List Char) : Option Char :=
  let digit (c : Char) : Option Nat :=
    if c.isDigit then some (digitValue c)
    else if 'a' ≤ c ∧ c ≤ 'f' then some (c.toNat - 'a'.toNat + 10)
    else if 'A' ≤ c ∧ c ≤ 'F' then some (c.toNat - 'A'.toNat + 10)
    else none
  (digits.mapM digit).bind fun values =>
    let code := values.foldl (fun n d => 16 * n + d) 0
    if code < 0xD800 ∨ (0xDFFF < code ∧ code < 0x110000) then some (Char.ofNat code) else none

/-- The character of an escape after its backslash, and what follows. -/
def escape? : List Char → Option (Char × List Char)
  | 'b' :: s => some ('\x08', s)
  | 't' :: s => some ('\t', s)
  | 'n' :: s => some ('\n', s)
  | 'f' :: s => some ('\x0c', s)
  | 'r' :: s => some ('\r', s)
  | '\x22' :: s => some ('\x22', s)
  | '\x5c' :: s => some ('\x5c', s)
  | 'u' :: s =>
    if s.length < 4 then none else (scalar? (s.take 4)).map fun c => (c, s.drop 4)
  | 'U' :: s =>
    if s.length < 8 then none else (scalar? (s.take 8)).map fun c => (c, s.drop 8)
  | _ => none

/-- The rest of a string in double quotes on one line. -/
def basicText? : Nat → List Char → Option (List Char × List Char)
  | 0, _ => none
  | _ + 1, [] => none
  | fuel + 1, c :: s =>
    if c = '\x22' then some ([], s)
    else if c = '\x5c' then do
      let (e, s) ← escape? s
      let (text, s) ← basicText? fuel s
      some (e :: text, s)
    else if isPlain c then do
      let (text, s) ← basicText? fuel s
      some (c :: text, s)
    else none

/-- The rest of a string in single quotes on one line. -/
def literalText? (s : List Char) : Option (List Char × List Char) :=
  match s.dropWhile fun c => isPlain c && c != '\x27' with
  | '\x27' :: rest => some (s.takeWhile (fun c => isPlain c && c != '\x27'), rest)
  | _ => none

/-- Whether three quotes stand here, with no more than two others after them: the end of a string
over several lines, which may have up to two quotes directly before its end. -/
def closing (quote : Char) (s : List Char) : Option (List Char × List Char) :=
  let quotes := (s.takeWhile (· = quote)).length
  if quotes < 3 then none
  else if quotes ≤ 5 then some (List.replicate (quotes - 3) quote, s.drop quotes)
  else some (List.replicate 2 quote, s.drop 5)

/-- What follows blanks and line breaks in a string. -/
def skipBlankLines : Nat → List Char → List Char
  | 0, s => s
  | fuel + 1, s =>
    match lineBreak? (skipSpaces s) with
    | some rest => skipBlankLines fuel rest
    | none => skipSpaces s

/-- The rest of a string over several lines. Escapes are read in strings in double quotes, where a
backslash at the end of a line joins it to the next text. -/
def blockText? (quote : Char) : Nat → List Char → Option (List Char × List Char)
  | 0, _ => none
  | _ + 1, [] => none
  | fuel + 1, c :: s =>
    match closing quote (c :: s) with
    | some (text, rest) => some (text, rest)
    | none =>
      if quote = '\x22' ∧ c = '\x5c' then
        match lineBreak? (skipSpaces s) with
        | some rest => blockText? quote fuel (skipBlankLines rest.length rest)
        | none => do
          let (e, s) ← escape? s
          let (text, s) ← blockText? quote fuel s
          some (e :: text, s)
      else
        match lineBreak? (c :: s) with
        | some rest => do
          let (text, s) ← blockText? quote fuel rest
          some ('\n' :: text, s)
        | none =>
          if isPlain c then do
            let (text, s) ← blockText? quote fuel s
            some (c :: text, s)
          else none

/-- A string over several lines after its opening quotes; a line break directly after them does not
belong to it. -/
def block? (quote : Char) (s : List Char) : Option (List Char × List Char) :=
  let s := (lineBreak? s).getD s
  blockText? quote (s.length + 1) s

/-- A string on one line. -/
def lineString? : List Char → Option (List Char × List Char)
  | '\x22' :: s => basicText? (s.length + 1) s
  | '\x27' :: s => literalText? s
  | _ => none

/-- A string of any sort. -/
def string? : List Char → Option (List Char × List Char)
  | '\x22' :: '\x22' :: '\x22' :: s => block? '\x22' s
  | '\x27' :: '\x27' :: '\x27' :: s => block? '\x27' s
  | s => lineString? s

/-- Whether a character may stand in a key without quotes. -/
def isBareKey (c : Char) : Bool := c.isAlphanum || c = '_' || c = '-'

/-- A key without dots. -/
def simpleKey? (s : List Char) : Option (String × List Char) :=
  match s.takeWhile isBareKey with
  | [] => (lineString? s).map fun (text, rest) => (String.ofList text, rest)
  | key => some (String.ofList key, s.dropWhile isBareKey)

/-- The greatest depth that a document may reach: the number of parts of a key, and the number of
lists and inline tables around a value. -/
def deepest : Nat := 79

/-- A key of at least one part and at most as many as the first argument says. -/
def keyOfParts? : Nat → List Char → Option (List String × List Char)
  | 0, _ => none
  | most + 1, s => do
    let (key, s) ← simpleKey? (skipSpaces s)
    match skipSpaces s with
    | '.' :: rest => do
      let (keys, rest) ← keyOfParts? most rest
      some (key :: keys, rest)
    | rest => some ([key], rest)

/-- A key of one or more parts with dots between them, which may have blanks around them. What
follows has no blanks at its start. -/
def keyPath? (s : List Char) : Option (List String × List Char) := keyOfParts? deepest s

/-- A run of digits in which single underscores may stand between digits, without them. -/
def underscored? (isDigit : Char → Bool) : List Char → Option (List Char)
  | [] => none
  | [c] => if isDigit c then some [c] else none
  | c :: '_' :: s => if isDigit c then (underscored? isDigit s).map (c :: ·) else none
  | c :: s => if isDigit c then (underscored? isDigit s).map (c :: ·) else none

/-- The digits of a decimal integer without sign: no zero stands before others. -/
def wholeDigits? (s : List Char) : Option (List Char) :=
  (underscored? Char.isDigit s).filter fun digits => digits.length = 1 || digits.head? != some '0'

/-- The number of digits in a base. -/
def ofBase (base : Nat) (digits : List Char) : Nat :=
  let value (c : Char) : Nat :=
    if c.isDigit then digitValue c else c.toLower.toNat - 'a'.toNat + 10
  digits.foldl (fun n c => base * n + value c) 0

/-- Whether a character is a digit of base sixteen. -/
def isHexDigit (c : Char) : Bool :=
  c.isDigit || ('a' ≤ c && c ≤ 'f') || ('A' ≤ c && c ≤ 'F')

/-- An integer, which must fit a signed word. -/
def integer? (s : List Char) : Option Int :=
  let based (base : Nat) (isDigit : Char → Bool) (s : List Char) : Option Int :=
    (underscored? isDigit s).map fun digits => (ofBase base digits : Int)
  let n := match s with
    | '0' :: 'x' :: s => based 16 isHexDigit s
    | '0' :: 'o' :: s => based 8 (fun c => '0' ≤ c && c ≤ '7') s
    | '0' :: 'b' :: s => based 2 (fun c => c = '0' || c = '1') s
    | s =>
      let (negative, s) := splitSign s
      (wholeDigits? s).map fun digits => signed negative (ofDigits digits)
  n.filter fitsSigned

/-- Whether a text is the exponent of a float, after its letter. -/
def isExponent (s : List Char) : Bool := (underscored? Char.isDigit (splitSign s).2).isSome

/-- Whether a text without sign is a decimal with a fraction, an exponent or both. -/
def isDecimal (s : List Char) : Bool :=
  let mantissa := s.takeWhile fun c => c != 'e' && c != 'E'
  let exponent := (s.drop mantissa.length).drop 1
  let hasExponent := mantissa.length < s.length
  let whole := mantissa.takeWhile (· != '.')
  let fraction := (mantissa.drop whole.length).drop 1
  let hasFraction := whole.length < mantissa.length
  (hasExponent || hasFraction) && (wholeDigits? whole).isSome &&
    (!hasFraction || (underscored? Char.isDigit fraction).isSome) &&
    (!hasExponent || isExponent exponent)

/-- A floating-point number: a decimal, which must not round to infinity, or one of the words for
infinity and not-a-number. -/
def float? (s : List Char) : Option Binary64 :=
  let (negative, rest) := splitSign s
  if rest = "inf".toList then some (Binary64.infinity negative)
  else if rest = "nan".toList then some (Binary64.quietNaN negative)
  else if isDecimal rest then
    ((decimal? (s.filter (· != '_'))).map Decimal.toBinary64).filter fun x =>
      x.isFinite || negative
  else none

/-- Whether a text is a date, a time, or a date and a time with an optional offset. -/
def isDateOrTime (s : List Char) : Bool :=
  let isTime (s : List Char) (offset : Bool) : Bool :=
    match Calendar.strictClock? s with
    | some (_, []) => true
    | some (_, rest) => offset && (Calendar.complete? (Calendar.offset? rest)).isSome
    | none => false
  match Calendar.strictDate? s with
  | some (_, []) => true
  | some (_, rest) =>
    match Calendar.timeMark? rest with
    | some rest => isTime rest true
    | none => false
  | none => isTime s false

/-- The value of a text that is neither string, list nor table. -/
def bare? (s : List Char) : Option Json :=
  if s = "true".toList then some (.bool true)
  else if s = "false".toList then some (.bool false)
  else if isDateOrTime s then some (.text (String.ofList s))
  else ((integer? s).map Json.int).or ((float? s).map Json.float)

/-- Whether a character may stand in a number, a date or a word. -/
def isBareValue (c : Char) : Bool :=
  c.isAlphanum || c = '+' || c = '-' || c = '_' || c = '.' || c = ':'

/-- A number, a date or a word. A date and a time may have one space between them. -/
def bareValue? (s : List Char) : Option (Json × List Char) :=
  let first := s.takeWhile isBareValue
  let rest := s.dropWhile isBareValue
  match rest with
  | ' ' :: d :: more =>
    if d.isDigit && (Calendar.complete? (Calendar.strictDate? first)).isSome then
      let second := (d :: more).takeWhile isBareValue
      (bare? (first ++ ' ' :: second)).map fun v => (v, (d :: more).dropWhile isBareValue)
    else (bare? first).map fun v => (v, rest)
  | _ => (bare? first).map fun v => (v, rest)

end QueryPlan.Toml
