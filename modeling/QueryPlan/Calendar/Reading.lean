import QueryPlan.Calendar.Timestamp
import QueryPlan.Text.Blank

/-!
# Reading dates and timestamps

A date is read leniently: blanks may stand before each number, month and day have one or two
digits, and a year has up to four digits or a sign and any number of them. A timestamp is read in
the first of these forms that fits: the strict internet form with an offset, which is converted to
UTC; a lenient date and time with any blanks between them; the same with a `T` between them; a date
alone, at midnight. Nothing may follow.
-/

namespace QueryPlan.Calendar
set_option autoImplicit false
open Number

/-- What follows a given character. -/
def expect (c : Char) : List Char → Option (List Char)
  | [] => none
  | d :: rest => if d = c then some rest else none

/-- The digits at the start, at most `most` of them, and what follows. -/
def leadingDigits : Nat → List Char → List Char × List Char
  | 0, s => ([], s)
  | _ + 1, [] => ([], [])
  | most + 1, c :: s =>
    if c.isDigit then
      let (digits, rest) := leadingDigits most s
      (c :: digits, rest)
    else ([], c :: s)

/-- A number of between `least` and `most` digits, and what follows. -/
def digits? (least most : Nat) (s : List Char) : Option (Nat × List Char) :=
  let (digits, rest) := leadingDigits most s
  if least ≤ digits.length then some (ofDigits digits, rest) else none

/-- A number of one or two digits after any blanks, and what follows. -/
def looseNumber? (s : List Char) : Option (Nat × List Char) := digits? 1 2 (Text.trimStart s)

/-- A year after any blanks, and what follows. -/
def looseYear? (s : List Char) : Option (Int × List Char) :=
  match Text.trimStart s with
  | '-' :: rest => (digits? 1 rest.length rest).map fun (n, rest) => (-(n : Int), rest)
  | '+' :: rest => (digits? 1 rest.length rest).map fun (n, rest) => ((n : Int), rest)
  | rest => (digits? 1 4 rest).map fun (n, rest) => ((n : Int), rest)

/-- A date on the calendar, leniently, and what follows. -/
def looseDate? (s : List Char) : Option (Date × List Char) := do
  let (year, s) ← looseYear? s
  let s ← expect '-' s
  let (month, s) ← looseNumber? s
  let s ← expect '-' s
  let (day, s) ← looseNumber? s
  let date : Date := ⟨year, month, day⟩
  if date.isValid then some (date, s) else none

/-- The nanoseconds of a fraction: its first nine digits, as if zeros followed a shorter one. -/
def nanoseconds (fraction : List Char) : Nat :=
  let kept := fraction.take 9
  ofDigits kept * Nat.pow 10 (9 - kept.length)

/-- An optional point with one or more digits as nanoseconds, and what follows. -/
def fraction? : List Char → Option (Nat × List Char)
  | '.' :: s =>
    let digits := s.takeWhile Char.isDigit
    if digits.isEmpty then none else some (nanoseconds digits, s.dropWhile Char.isDigit)
  | s => some (0, s)

/-- A time of day whose numbers are read by `number?`, and what follows. -/
def clockBy? (number? : List Char → Option (Nat × List Char)) (s : List Char) :
    Option (Clock × List Char) := do
  let (hour, s) ← number? s
  let s ← expect ':' s
  let (minute, s) ← number? s
  let s ← expect ':' s
  let (second, s) ← number? s
  let (nano, s) ← fraction? s
  let clock : Clock := ⟨hour, minute, second, nano⟩
  if clock.isValid then some (clock, s) else none

/-- The value of a text that ends where reading ended. -/
def complete? {α : Type} : Option (α × List Char) → Option α
  | some (value, []) => some value
  | _ => none

/-- The date of a text. -/
def date? (s : List Char) : Option Date := complete? (looseDate? s)

/-- The sign of an offset: whether it is a minus, which may be the hyphen or U+2212. -/
def offsetSign? (c : Char) : Option Bool :=
  if c = '+' then some false
  else if c = '-' ∨ c = '\u2212' then some true
  else none

/-- An offset from UTC in minutes, and what follows: `Z` or a sign, two digits, a colon and two
digits, less than a day. -/
def offset? : List Char → Option (Int × List Char)
  | [] => none
  | c :: s =>
    if c = 'Z' ∨ c = 'z' then some (0, s)
    else do
      let negative ← offsetSign? c
      let (hour, s) ← digits? 2 2 s
      let s ← expect ':' s
      let (minute, s) ← digits? 2 2 s
      if hour < 24 ∧ minute < 60 then some (signed negative (60 * hour + minute), s) else none

/-- A date on the calendar with all of its digits, and what follows. -/
def strictDate? (s : List Char) : Option (Date × List Char) := do
  let (year, s) ← digits? 4 4 s
  let s ← expect '-' s
  let (month, s) ← digits? 2 2 s
  let s ← expect '-' s
  let (day, s) ← digits? 2 2 s
  let date : Date := ⟨year, month, day⟩
  if date.isValid then some (date, s) else none

/-- A time of day with all of its digits, and what follows. -/
def strictClock? (s : List Char) : Option (Clock × List Char) := clockBy? (digits? 2 2) s

/-- What follows the mark between a date and a time: a `T` of either case or a space. -/
def timeMark? (s : List Char) : Option (List Char) :=
  (expect 'T' s).or ((expect 't' s).or (expect ' ' s))

/-- Date and time as in internet messages, converted to UTC: every number has all of its digits. -/
def strictTimestamp? (s : List Char) : Option (Timestamp × List Char) := do
  let (date, s) ← strictDate? s
  let s ← timeMark? s
  let (clock, s) ← strictClock? s
  let (minutes, s) ← offset? s
  some (Timestamp.earlier ⟨date, clock⟩ minutes, s)

/-- A lenient date and time with what `between?` takes off between them. -/
def looseTimestamp? (between? : List Char → Option (List Char)) (s : List Char) :
    Option (Timestamp × List Char) := do
  let (date, s) ← looseDate? s
  let s ← between? s
  let (clock, s) ← clockBy? looseNumber? s
  some (⟨date, clock⟩, s)

/-- The timestamp of a text, in the first form that fits all of it. -/
def timestamp? (s : List Char) : Option Timestamp :=
  (complete? (strictTimestamp? s)).or <|
    (complete? (looseTimestamp? (fun s => some (Text.trimStart s)) s)).or <|
      (complete? (looseTimestamp? (expect 'T') s)).or <|
        (date? s).map fun date => ⟨date, .midnight⟩

end QueryPlan.Calendar
