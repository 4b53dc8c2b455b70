import Mathlib.Data.List.Basic
import QueryPlan.Proofs.Calendar.Days
import QueryPlan.Proofs.Integers

/-!
# How dates and timestamps are written

The texts of a date and of a timestamp, and what each denotes, told as grammars without a reader. A
timestamp has four forms. The colons and letters of a text (`marks`) tell them apart, so no text has
two forms.
-/

namespace QueryPlan.Calendar
set_option autoImplicit false
open Number

/-! ### Numbers -/

/-- Any white space, or none. -/
def IsBlanks (s : List Char) : Prop := ∀ c ∈ s, Text.isBlank c = true

/-- Whether a text starts with a digit. -/
def startsWithDigit : List Char → Bool
  | [] => false
  | c :: _ => c.isDigit

/-- A run of digits, between `least` and `most` of them. -/
structure IsRun (least most : Nat) (digits : List Char) : Prop where
  least : least ≤ digits.length
  most : digits.length ≤ most
  all : ∀ c ∈ digits, c.isDigit = true

/-- A number with a fixed number of digits. -/
inductive FixedNumber (width : Nat) : List Char → Nat → Prop where
  | intro {digits : List Char} (run : IsRun width width digits) :
    FixedNumber width digits (ofDigits digits)

/-- A number of one or two digits after any blanks. -/
inductive LooseNumber : List Char → Nat → Prop where
  | intro {blanks digits : List Char} (spaced : IsBlanks blanks) (run : IsRun 1 2 digits) :
    LooseNumber (blanks ++ digits) (ofDigits digits)

theorem IsRun.one_or_two {digits : List Char} (run : IsRun 1 2 digits) :
    (∃ c, digits = [c] ∧ c.isDigit = true) ∨
      ∃ c d, digits = [c, d] ∧ c.isDigit = true ∧ d.isDigit = true := by
  obtain ⟨least, most, all⟩ := run
  match digits with
  | [] => simp at least
  | [c] => exact .inl ⟨c, rfl, all c (by simp)⟩
  | [c, d] => exact .inr ⟨c, d, rfl, all c (by simp), all d (by simp)⟩
  | _ :: _ :: _ :: _ => simp at most

/-! ### Dates -/

/-- A year: a numeral, of at most four digits unless it has a sign. -/
structure YearText (s : List Char) (year : Int) : Prop where
  numeral : IsNumeral s year
  short : startsWithDigit s = true → s.length ≤ 4

/-- A year after any blanks. -/
inductive LooseYear : List Char → Int → Prop where
  | intro {blanks text : List Char} {year : Int} (spaced : IsBlanks blanks)
    (denotes : YearText text year) : LooseYear (blanks ++ text) year

/-- A year of exactly four digits. -/
inductive StrictYear : List Char → Int → Prop where
  | intro {digits : List Char} {n : Nat} (denotes : FixedNumber 4 digits n) : StrictYear digits n

/-- A date on the calendar, as year, month and day with hyphens between them. -/
inductive DateBy (Year : List Char → Int → Prop) (Part : List Char → Nat → Prop) :
    List Char → Date → Prop where
  | intro {y m d : List Char} {year : Int} {month day : Nat} (years : Year y year)
    (months : Part m month) (days : Part d day) (valid : (Date.mk year month day).isValid = true) :
    DateBy Year Part (y ++ '-' :: (m ++ '-' :: d)) ⟨year, month, day⟩

/-- A date whose numbers may lack leading zeros and follow blanks. -/
def DateText : List Char → Date → Prop := DateBy LooseYear LooseNumber

/-- A date with all of its digits. -/
def StrictDate : List Char → Date → Prop := DateBy StrictYear (FixedNumber 2)

/-! ### Times and offsets -/

/-- A fraction of a second in nanoseconds, less what is below one. -/
inductive FractionText : List Char → Nat → Prop where
  | whole : FractionText [] 0
  | point {digits : List Char} (run : IsDigits digits) :
    FractionText ('.' :: digits) (ofDigits digits * 10 ^ 9 / 10 ^ digits.length)

/-- A time of day, as hour, minute and second with colons between them. -/
inductive ClockBy (Part : List Char → Nat → Prop) : List Char → Clock → Prop where
  | intro {h m s f : List Char} {hour minute second nano : Nat} (hours : Part h hour)
    (minutes : Part m minute) (seconds : Part s second) (fraction : FractionText f nano)
    (valid : (Clock.mk hour minute second nano).isValid = true) :
    ClockBy Part (h ++ ':' :: (m ++ ':' :: (s ++ f))) ⟨hour, minute, second, nano⟩

/-- An offset from UTC of less than a day, in minutes to the east. -/
inductive OffsetText : List Char → Int → Prop where
  | utc {letter : Char} (zulu : letter = 'Z' ∨ letter = 'z') : OffsetText [letter] 0
  | east {h m : List Char} {hour minute : Nat} (hours : FixedNumber 2 h hour)
    (minutes : FixedNumber 2 m minute) (day : hour < 24) (full : minute < 60) :
    OffsetText ('+' :: (h ++ ':' :: m)) (60 * hour + minute : Nat)
  | west {sign : Char} {h m : List Char} {hour minute : Nat} (minus : sign = '-' ∨ sign = '\u2212')
    (hours : FixedNumber 2 h hour) (minutes : FixedNumber 2 m minute) (day : hour < 24)
    (full : minute < 60) : OffsetText (sign :: (h ++ ':' :: m)) (-(60 * hour + minute : Nat))

theorem OffsetText.bounds {s : List Char} {minutes : Int} (h : OffsetText s minutes) :
    -1440 < minutes ∧ minutes < 1440 := by
  cases h <;> omega

/-! ### Timestamps -/

/-- Whether a text ends in two digits. -/
def endsInTwoDigits (s : List Char) : Bool :=
  match s.reverse with
  | d :: c :: _ => c.isDigit && d.isDigit
  | _ => false

/-- A digit right behind a number belongs to it unless the number has two already. -/
def Stops (piece rest : List Char) : Prop :=
  startsWithDigit rest = true → endsInTwoDigits piece = true

/-- A date, a time of day and an offset, as in internet messages. -/
inductive ShiftedText : List Char → Timestamp → Int → Prop where
  | intro {ds cs os : List Char} {mark : Char} {date : Date} {clock : Clock} {minutes : Int}
    (dates : StrictDate ds date) (marked : mark = 'T' ∨ mark = 't' ∨ mark = ' ')
    (clocks : ClockBy (FixedNumber 2) cs clock) (offset : OffsetText os minutes) :
    ShiftedText (ds ++ mark :: (cs ++ os)) ⟨date, clock⟩ minutes

/-- A date and a time of day in UTC with a mark between them. -/
inductive LocalText (mark : List Char) : List Char → Timestamp → Prop where
  | intro {ds cs : List Char} {date : Date} {clock : Clock} (dates : DateText ds date)
    (clocks : ClockBy LooseNumber cs clock) (stops : Stops ds (mark ++ cs)) :
    LocalText mark (ds ++ (mark ++ cs)) ⟨date, clock⟩

/-- A point in time: one that an offset shifts, a date and a time of day with blanks or nothing
between them (the blanks are those before the hour) or with a letter, or the start of a date. -/
inductive TimestampText (s : List Char) : Instant → Prop where
  | shifted {t : Timestamp} {minutes : Int} (text : ShiftedText s t minutes) :
    TimestampText s (t.instant.earlier minutes)
  | spaced {t : Timestamp} (text : LocalText [] s t) : TimestampText s t.instant
  | marked {t : Timestamp} (text : LocalText ['T'] s t) : TimestampText s t.instant
  | midnight {date : Date} (text : DateText s date) :
    TimestampText s (Timestamp.mk date .midnight).instant

section
variable {Year : List Char → Int → Prop} {Part : List Char → Nat → Prop} {s : List Char}

theorem DateBy.isValid {d : Date} (h : DateBy Year Part s d) : d.isValid = true := by
  cases h with
  | intro years months days valid => exact valid

theorem ClockBy.isValid {c : Clock} (h : ClockBy Part s c) : c.isValid = true := by
  cases h with
  | intro hours minutes seconds fraction valid => exact valid

end

theorem ShiftedText.isValid {s : List Char} {t : Timestamp} {minutes : Int}
    (h : ShiftedText s t minutes) : t.isValid = true := by
  cases h with
  | intro dates marked clocks offset =>
    exact Timestamp.isValid_iff.2 ⟨DateBy.isValid dates, clocks.isValid⟩

theorem ShiftedText.bounds {s : List Char} {t : Timestamp} {minutes : Int}
    (h : ShiftedText s t minutes) : -1440 < minutes ∧ minutes < 1440 := by
  cases h with
  | intro dates marked clocks offset => exact offset.bounds

/-! ### How a date ends -/

theorem endsInTwoDigits_pair (front : List Char) (c d : Char) :
    endsInTwoDigits (front ++ [c, d]) = (c.isDigit && d.isDigit) := by
  simp [endsInTwoDigits]

/-- A number that no digit precedes ends in two digits exactly if it has two. -/
theorem IsRun.endsInTwoDigits_append {front digits : List Char} (run : IsRun 1 2 digits)
    (other : ∀ c ∈ front.getLast?, c.isDigit = false) :
    endsInTwoDigits (front ++ digits) = decide (digits.length = 2) := by
  obtain ⟨c, rfl, -⟩ | ⟨c, d, rfl, first, second⟩ := run.one_or_two
  · rcases List.eq_nil_or_concat front with rfl | ⟨front, b, rfl⟩
    · rfl
    · have before : b.isDigit = false := other b (by simp)
      rw [List.concat_eq_append, List.append_assoc, List.singleton_append, endsInTwoDigits_pair,
        before]
      rfl
  · rw [endsInTwoDigits_pair, first, second]
    rfl

theorem IsBlanks.getLast_other {blanks : List Char} (spaced : IsBlanks blanks) :
    ∀ c ∈ blanks.getLast?, c.isDigit = false := by
  intro c last
  exact Text.isDigit_of_isBlank (spaced c (List.mem_of_mem_getLast? last))

/-- What stands before the hyphen in front of a number has no part in how the number ends. -/
theorem LooseNumber.endsInTwoDigits_append {piece : List Char} {n : Nat} (h : LooseNumber piece n)
    (front : List Char) : endsInTwoDigits (front ++ '-' :: piece) = endsInTwoDigits piece := by
  cases h with
  | @intro blanks digits spaced run =>
    have other : ∀ c ∈ (front ++ '-' :: blanks).getLast?, c.isDigit = false := by
      intro c last
      rw [List.getLast?_append_cons] at last
      obtain rfl | member := List.mem_cons.1 (List.mem_of_mem_getLast? last)
      · rfl
      · exact Text.isDigit_of_isBlank (spaced c member)
    rw [run.endsInTwoDigits_append spaced.getLast_other, ← List.cons_append, ← List.append_assoc,
      run.endsInTwoDigits_append other]

theorem FixedNumber.endsInTwoDigits {piece : List Char} {n : Nat} (h : FixedNumber 2 piece n)
    (front : List Char) : endsInTwoDigits (front ++ piece) = true := by
  cases h with
  | intro run =>
    have loose : IsRun 1 2 piece := ⟨Nat.le_of_succ_le run.least, run.most, run.all⟩
    obtain ⟨c, rfl, -⟩ | ⟨c, d, rfl, first, second⟩ := loose.one_or_two
    · exact absurd run.least (by simp)
    · rw [endsInTwoDigits_pair, first, second]
      rfl

/-! ### Colons and letters -/

/-- Whether a character tells the forms of a timestamp apart. -/
def isMark (c : Char) : Bool := c = ':' || c = 'T' || c = 'Z' || c = 'z'

/-- The colons and letters of a text. -/
def marks (s : List Char) : List Char := s.filter isMark

theorem marks_append (s s' : List Char) : marks (s ++ s') = marks s ++ marks s' :=
  List.filter_append s s'

theorem marks_plain {c : Char} (plain : isMark c = false) (s : List Char) :
    marks (c :: s) = marks s := by
  apply List.filter_cons_of_neg
  rw [plain]
  exact Bool.false_ne_true

theorem marks_colon (s : List Char) : marks (':' :: s) = ':' :: marks s := rfl

theorem marks_letter (s : List Char) : marks ('T' :: s) = 'T' :: marks s := rfl

theorem isMark_eq_true_iff {c : Char} :
    isMark c = true ↔ c = ':' ∨ c = 'T' ∨ c = 'Z' ∨ c = 'z' := by
  simp [isMark, or_assoc]

theorem marks_digits {s : List Char} (all : ∀ c ∈ s, c.isDigit = true) : marks s = [] := by
  apply List.filter_eq_nil_iff.2
  intro c member mark
  have digit := all c member
  rcases isMark_eq_true_iff.1 mark with rfl | rfl | rfl | rfl <;> cases digit

theorem marks_blanks {s : List Char} (blanks : IsBlanks s) : marks s = [] := by
  apply List.filter_eq_nil_iff.2
  intro c member mark
  have blank := blanks c member
  rcases isMark_eq_true_iff.1 mark with rfl | rfl | rfl | rfl <;> revert blank <;> decide

theorem FixedNumber.marks_eq {width n : Nat} {s : List Char} (h : FixedNumber width s n) :
    marks s = [] := by
  cases h with
  | intro run => exact marks_digits run.all

theorem LooseNumber.marks_eq {n : Nat} {s : List Char} (h : LooseNumber s n) : marks s = [] := by
  cases h with
  | intro spaced run =>
    rw [marks_append, marks_blanks spaced, marks_digits run.all]
    rfl

theorem LooseYear.marks_eq {year : Int} {s : List Char} (h : LooseYear s year) : marks s = [] := by
  cases h with
  | intro spaced denotes =>
    rw [marks_append, marks_blanks spaced, List.nil_append]
    cases denotes.numeral with
    | unsigned run => exact marks_digits run.all
    | plus run => rw [marks_plain rfl, marks_digits run.all]
    | minus run => rw [marks_plain rfl, marks_digits run.all]

theorem StrictYear.marks_eq {year : Int} {s : List Char} (h : StrictYear s year) :
    marks s = [] := by
  cases h with
  | intro denotes => exact denotes.marks_eq

section
variable {Year : List Char → Int → Prop} {Part : List Char → Nat → Prop} {s : List Char}

theorem DateBy.marks_eq {d : Date} (h : DateBy Year Part s d)
    (year : ∀ {s n}, Year s n → marks s = []) (part : ∀ {s n}, Part s n → marks s = []) :
    marks s = [] := by
  cases h with
  | intro years months days _ =>
    rw [marks_append, marks_plain rfl, marks_append, marks_plain rfl, year years, part months,
      part days]
    rfl

theorem ClockBy.marks_eq {c : Clock} (h : ClockBy Part s c)
    (part : ∀ {s n}, Part s n → marks s = []) : marks s = [':', ':'] := by
  cases h with
  | @intro _ _ _ f _ _ _ _ hours minutes seconds fraction _ =>
    have none : marks f = [] := by
      cases fraction with
      | whole => rfl
      | point run => rw [marks_plain rfl, marks_digits run.all]
    rw [marks_append, marks_colon, marks_append, marks_colon, marks_append, part hours,
      part minutes, part seconds, none]
    rfl

end

theorem DateText.marks_eq {s : List Char} {d : Date} (h : DateText s d) : marks s = [] :=
  DateBy.marks_eq h LooseYear.marks_eq LooseNumber.marks_eq

theorem OffsetText.marks_eq {s : List Char} {minutes : Int} (h : OffsetText s minutes) :
    ∃ c, marks s = [c] := by
  cases h with
  | utc zulu => rcases zulu with rfl | rfl <;> exact ⟨_, rfl⟩
  | east hours minutes =>
    refine ⟨':', ?_⟩
    rw [marks_plain rfl, marks_append, marks_colon, hours.marks_eq, minutes.marks_eq]
    rfl
  | @west sign _ _ _ _ minus hours minutes =>
    have plain : isMark sign = false := by rcases minus with rfl | rfl <;> rfl
    refine ⟨':', ?_⟩
    rw [marks_plain plain, marks_append, marks_colon, hours.marks_eq, minutes.marks_eq]
    rfl

/-- An offset adds a letter or a third colon to the two of the time. -/
theorem ShiftedText.marks_eq {s : List Char} {t : Timestamp} {minutes : Int}
    (h : ShiftedText s t minutes) :
    ∃ c, marks s = ['T', ':', ':', c] ∨ marks s = [':', ':', c] := by
  cases h with
  | intro dates marked clocks offset =>
    obtain ⟨c, last⟩ := offset.marks_eq
    have date := DateBy.marks_eq dates StrictYear.marks_eq FixedNumber.marks_eq
    have clock := clocks.marks_eq FixedNumber.marks_eq
    refine ⟨c, ?_⟩
    rcases marked with rfl | rfl | rfl
    · left
      rw [marks_append, date, marks_letter, marks_append, clock, last]
      rfl
    · right
      rw [marks_append, date, marks_plain rfl, marks_append, clock, last]
      rfl
    · right
      rw [marks_append, date, marks_plain rfl, marks_append, clock, last]
      rfl

theorem LocalText.marks_eq {mark s : List Char} {t : Timestamp} (h : LocalText mark s t) :
    marks s = marks mark ++ [':', ':'] := by
  cases h with
  | intro dates clocks stops =>
    rw [marks_append, marks_append, DateText.marks_eq dates, clocks.marks_eq LooseNumber.marks_eq]
    rfl

end QueryPlan.Calendar
