import QueryPlan.Number.FloatText

/-!
# Dates and timestamps

Dates of the Gregorian calendar, extended in both directions, times of day to the nanosecond, and
their canonical text. A time of day may fall in a leap second, which is the sixtieth second of its
minute; shifting by an offset of whole minutes keeps it.
-/

namespace QueryPlan.Calendar
set_option autoImplicit false
open Number

/-- A decimal number with zeros before it up to a width. -/
def padded (width n : Nat) : List Char :=
  let digits := Nat.toDigits 10 n
  zeros (width - digits.length) ++ digits

/-- Whether a year has a twenty-ninth of February. -/
def isLeapYear (year : Int) : Bool :=
  year % 4 = 0 && (year % 100 != 0 || year % 400 = 0)

/-- The number of days of a month; none for a number that is no month. -/
def daysInMonth (year : Int) (month : Nat) : Nat :=
  match month with
  | 1 | 3 | 5 | 7 | 8 | 10 | 12 => 31
  | 4 | 6 | 9 | 11 => 30
  | 2 => if isLeapYear year then 29 else 28
  | _ => 0

/-- A date by its year, month and day. -/
structure Date where
  /-- The year; the year before 1 is 0. -/
  year : Int
  /-- The month, counted from one. -/
  month : Nat
  /-- The day of the month, counted from one. -/
  day : Nat
  deriving DecidableEq, Repr

namespace Date

/-- The first year that dates are accepted in. -/
def firstYear : Int := -262143

/-- The last year that dates are accepted in. -/
def lastYear : Int := 262142

/-- Whether a date is on the calendar and in an accepted year. -/
def isValid (d : Date) : Bool :=
  firstYear ≤ d.year && d.year ≤ lastYear && 1 ≤ d.day && d.day ≤ daysInMonth d.year d.month

/-- The day after. -/
def next (d : Date) : Date :=
  if d.day < daysInMonth d.year d.month then { d with day := d.day + 1 }
  else if d.month < 12 then ⟨d.year, d.month + 1, 1⟩
  else ⟨d.year + 1, 1, 1⟩

/-- The day before. -/
def previous (d : Date) : Date :=
  if 1 < d.day then { d with day := d.day - 1 }
  else if 1 < d.month then ⟨d.year, d.month - 1, daysInMonth d.year (d.month - 1)⟩
  else ⟨d.year - 1, 12, 31⟩

/-- A year in at least four digits; it has a sign unless it is one of the years 0 to 9999. -/
def yearChars (year : Int) : List Char :=
  if 0 ≤ year ∧ year ≤ 9999 then padded 4 year.natAbs
  else (if year < 0 then '-' else '+') :: padded 4 year.natAbs

/-- The date as year, month and day with hyphens between them. -/
def chars (d : Date) : List Char :=
  yearChars d.year ++ '-' :: (padded 2 d.month ++ '-' :: padded 2 d.day)

end Date

/-- A time of day. -/
structure Clock where
  /-- The hour, 0 to 23. -/
  hour : Nat
  /-- The minute, 0 to 59. -/
  minute : Nat
  /-- The second, 0 to 59, or 60 in a leap second. -/
  second : Nat
  nano : Nat
  deriving DecidableEq, Repr

namespace Clock

/-- The start of a day. -/
def midnight : Clock := ⟨0, 0, 0, 0⟩

/-- Whether every part is in its range. -/
def isValid (c : Clock) : Bool :=
  c.hour < 24 && c.minute < 60 && c.second ≤ 60 && c.nano < 1000000000

/-- A fraction of a second in three, six or nine digits, the fewest that show all of it; nothing if
it is zero. -/
def fractionChars (nano : Nat) : List Char :=
  if nano = 0 then []
  else if nano % 1000000 = 0 then '.' :: padded 3 (nano / 1000000)
  else if nano % 1000 = 0 then '.' :: padded 6 (nano / 1000)
  else '.' :: padded 9 nano

/-- The time as hour, minute and second with colons between them, and its fraction. -/
def chars (c : Clock) : List Char :=
  padded 2 c.hour ++ ':' :: (padded 2 c.minute ++ ':' ::
    (padded 2 c.second ++ fractionChars c.nano))

end Clock

/-- A point in time. -/
structure Timestamp where
  date : Date
  clock : Clock
  deriving DecidableEq, Repr

namespace Timestamp

/-- The minutes of a day. -/
def dayMinutes : Int := 1440

/-- The time that is `minutes` earlier, for less than a day either way. -/
def earlier (t : Timestamp) (minutes : Int) : Timestamp :=
  let total := 60 * (t.clock.hour : Int) + t.clock.minute - minutes
  let date :=
    if total < 0 then t.date.previous
    else if dayMinutes ≤ total then t.date.next
    else t.date
  let minute := (total % dayMinutes).toNat
  ⟨date, { t.clock with hour := minute / 60, minute := minute % 60 }⟩

/-- The canonical text: date and time with a space between them. -/
def chars (t : Timestamp) : List Char := t.date.chars ++ ' ' :: t.clock.chars

end Timestamp
end QueryPlan.Calendar
