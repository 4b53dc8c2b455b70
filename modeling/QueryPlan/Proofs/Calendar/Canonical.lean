import QueryPlan.Proofs.Calendar.Readers
import QueryPlan.Coercion

/-!
# Canonical dates and timestamps

The canonical text of a date or a timestamp is one of its texts, so it is read back as what it was
written for (`date?_chars`, `timestamp?_chars`). Operands that denote a date or a point in time are
hence coerced to a text of their own for each (`temporal_normal`).
-/

namespace QueryPlan
set_option autoImplicit false
open Number

namespace Calendar

/-! ### Numbers with zeros before them -/

theorem isDigits_padded (width n : Nat) : IsDigits (padded width n) where
  nonempty := List.append_ne_nil_of_right_ne_nil _ Nat.toDigits_ne_nil
  all := by
    intro c member
    obtain zero | digit := List.mem_append.1 member
    · rw [List.eq_of_mem_replicate zero]
      rfl
    · exact (IsDigits.toDigits n).all c digit

theorem ofDigits_zeros (k : Nat) : ofDigits (zeros k) = 0 := by
  rw [ofDigits_eq_ofDigitChars, zeros, Nat.ofDigitChars_replicate_zero, Nat.mul_zero]

theorem ofDigits_padded (width n : Nat) : ofDigits (padded width n) = n := by
  unfold padded
  rw [ofDigits_append, ofDigits_zeros, ofDigits_toDigits]
  omega

theorem length_padded {width n : Nat} (positive : 0 < width) (fits : n < 10 ^ width) :
    (padded width n).length = width := by
  have short := (Nat.length_toDigits_le_iff (by decide) positive).2 fits
  unfold padded
  rw [List.length_append, zeros, List.length_replicate]
  omega

theorem fixed_padded {width n : Nat} (positive : 0 < width) (fits : n < 10 ^ width) :
    FixedNumber width (padded width n) n := by
  have length := length_padded positive fits
  have number : FixedNumber width (padded width n) (ofDigits (padded width n)) :=
    .intro ⟨by omega, by omega, (isDigits_padded width n).all⟩
  rwa [ofDigits_padded] at number

/-- A number of two digits may follow blanks. -/
theorem FixedNumber.loose {blanks s : List Char} {n : Nat} (h : FixedNumber 2 s n)
    (spaced : IsBlanks blanks) : LooseNumber (blanks ++ s) n := by
  cases h with
  | intro run => exact .intro spaced ⟨Nat.le_of_succ_le run.least, run.most, run.all⟩

theorem IsBlanks.nil : IsBlanks [] := by
  intro c member
  cases member

/-! ### Dates -/

theorem yearText_yearChars (year : Int) : YearText (Date.yearChars year) year := by
  have run := isDigits_padded 4 year.natAbs
  unfold Date.yearChars
  split
  next common =>
    have value : ((ofDigits (padded 4 year.natAbs) : Nat) : Int) = year := by
      rw [ofDigits_padded]
      omega
    refine ⟨?_, fun _ => ?_⟩
    · have numeral := IsNumeral.unsigned run
      rwa [value] at numeral
    · exact (length_padded (by decide) (by omega)).le
  next =>
    split
    next earlier =>
      have value : -((ofDigits (padded 4 year.natAbs) : Nat) : Int) = year := by
        rw [ofDigits_padded]
        omega
      refine ⟨?_, fun digit => nomatch digit⟩
      have numeral := IsNumeral.minus run
      rwa [value] at numeral
    next later =>
      have value : ((ofDigits (padded 4 year.natAbs) : Nat) : Int) = year := by
        rw [ofDigits_padded]
        omega
      refine ⟨?_, fun digit => nomatch digit⟩
      have numeral := IsNumeral.plus run
      rwa [value] at numeral

theorem daysInMonth_le (year : Int) (month : Nat) : daysInMonth year month ≤ 31 := by
  unfold daysInMonth
  split
  case h_12 => split <;> decide
  all_goals decide

/-- A date is denoted by its canonical text. -/
theorem dateText_chars {d : Date} (valid : d.isValid = true) : DateText d.chars d := by
  obtain ⟨-, first, last⟩ := isValid_iff.1 valid
  obtain ⟨-, december⟩ := month_of_daysInMonth first last
  have month_end := daysInMonth_le d.year d.month
  have years : LooseYear ([] ++ Date.yearChars d.year) d.year :=
    .intro .nil (yearText_yearChars d.year)
  have months : FixedNumber 2 (padded 2 d.month) d.month := fixed_padded (by decide) (by omega)
  have days : FixedNumber 2 (padded 2 d.day) d.day := fixed_padded (by decide) (by omega)
  exact .intro years (months.loose .nil) (days.loose .nil) valid

theorem date?_chars {d : Date} (valid : d.isValid = true) : date? d.chars = some d :=
  date?_eq_some_iff.2 (dateText_chars valid)

/-! ### Times and timestamps -/

theorem fractionText_padded {width n : Nat} (positive : 0 < width) (fits : n < 10 ^ width) :
    FractionText ('.' :: padded width n) (n * 10 ^ 9 / 10 ^ width) := by
  have fraction := FractionText.point (isDigits_padded width n)
  rwa [ofDigits_padded, length_padded positive fits] at fraction

/-- The digits that are left out of a fraction are zeros. -/
theorem fractionText_fractionChars {nano : Nat} (fits : nano < 1000000000) :
    FractionText (Clock.fractionChars nano) nano := by
  unfold Clock.fractionChars
  split
  next zero =>
    rw [zero]
    exact .whole
  next =>
    split
    next milli =>
      have fraction : FractionText ('.' :: padded 3 (nano / 1000000)) _ :=
        fractionText_padded (by decide) (by omega)
      have value : nano / 1000000 * 10 ^ 9 / 10 ^ 3 = nano := by omega
      rwa [value] at fraction
    next =>
      split
      next micro =>
        have fraction : FractionText ('.' :: padded 6 (nano / 1000)) _ :=
          fractionText_padded (by decide) (by omega)
        have value : nano / 1000 * 10 ^ 9 / 10 ^ 6 = nano := by omega
        rwa [value] at fraction
      next =>
        have fraction : FractionText ('.' :: padded 9 nano) _ :=
          fractionText_padded (by decide) (by omega)
        rwa [Nat.mul_div_cancel _ (by decide)] at fraction

/-- A time of day is denoted by its canonical text after any blanks. -/
theorem clockText_chars {c : Clock} {blanks : List Char} (valid : c.isValid = true)
    (spaced : IsBlanks blanks) : ClockBy LooseNumber (blanks ++ c.chars) c := by
  obtain ⟨hour, minute, second, nano⟩ := Clock.isValid_iff.1 valid
  have hours : FixedNumber 2 (padded 2 c.hour) c.hour := fixed_padded (by decide) (by omega)
  have minutes : FixedNumber 2 (padded 2 c.minute) c.minute := fixed_padded (by decide) (by omega)
  have seconds : FixedNumber 2 (padded 2 c.second) c.second := fixed_padded (by decide) (by omega)
  have text := ClockBy.intro (hours.loose spaced) (minutes.loose .nil) (seconds.loose .nil)
    (fractionText_fractionChars nano) valid
  rwa [List.append_assoc] at text

/-- A timestamp is denoted by its canonical text. -/
theorem timestampText_chars {t : Timestamp} (valid : t.isValid = true) :
    TimestampText t.chars t.instant := by
  obtain ⟨date, clock⟩ := Timestamp.isValid_iff.1 valid
  have spaced : IsBlanks [' '] := by
    intro c member
    obtain rfl := List.mem_singleton.1 member
    decide
  have clocks := clockText_chars clock spaced
  have text : LocalText [] t.chars t := .intro (dateText_chars date) clocks (.of_other rfl)
  exact .spaced text

theorem timestamp?_chars {t : Timestamp} (valid : t.isValid = true) :
    timestamp? t.chars = some t := by
  obtain ⟨u, read, same⟩ := timestamp?_of_text (timestampText_chars valid)
  have one : u = t := Timestamp.instant_injective (isValid_of_timestamp? read) valid same
  rwa [one] at read

/-! ### Nothing to trim -/

theorem FractionText.solid {f : List Char} {nano : Nat} (h : FractionText f nano) :
    ∀ c ∈ f, Text.isBlank c = false := by
  cases h with
  | whole => simp
  | point run =>
    have digits : ∀ c ∈ _, Text.isBlank c = false :=
      fun c member => Text.isBlank_of_isDigit (run.all c member)
    exact List.forall_mem_cons.2 ⟨by decide, digits⟩

theorem trimChars_date (d : Date) : Text.trimChars d.chars = d.chars := by
  have year := (yearText_yearChars d.year).numeral
  have day := isDigits_padded 2 d.day
  have parts : d.chars =
      Date.yearChars d.year ++ (('-' :: (padded 2 d.month ++ ['-'])) ++ padded 2 d.day) := by
    simp [Date.chars]
  rw [parts]
  apply Text.trimChars_between year.nonempty day.nonempty year.solid
  intro c member
  exact Text.isBlank_of_isDigit (day.all c member)

theorem trimChars_timestamp {t : Timestamp} (valid : t.isValid = true) :
    Text.trimChars t.chars = t.chars := by
  obtain ⟨-, clock⟩ := Timestamp.isValid_iff.1 valid
  obtain ⟨-, -, -, nano⟩ := Clock.isValid_iff.1 clock
  have year := (yearText_yearChars t.date.year).numeral
  have second := isDigits_padded 2 t.clock.second
  have fraction := fractionText_fractionChars nano
  have parts : t.chars = Date.yearChars t.date.year ++ (('-' :: (padded 2 t.date.month ++ '-' ::
      (padded 2 t.date.day ++ ' ' :: (padded 2 t.clock.hour ++ ':' ::
        (padded 2 t.clock.minute ++ [':']))))) ++
          (padded 2 t.clock.second ++ Clock.fractionChars t.clock.nano)) := by
    simp [Timestamp.chars, Date.chars, Clock.chars]
  have closes : padded 2 t.clock.second ++ Clock.fractionChars t.clock.nano ≠ [] :=
    List.append_ne_nil_of_left_ne_nil second.nonempty _
  rw [parts]
  apply Text.trimChars_between year.nonempty closes year.solid
  intro c member
  obtain digit | rest := List.mem_append.1 member
  · exact Text.isBlank_of_isDigit (second.all c digit)
  · exact fraction.solid c rest

end Calendar

namespace Coercion

/-! ### Operands -/

/-- The date that a string denotes between any blanks. -/
def DenotesDate (s : String) (d : Calendar.Date) : Prop :=
  Calendar.DateText (Text.trimChars s.toList) d

/-- The point in time that a string denotes between any blanks. -/
def DenotesInstant (s : String) (i : Calendar.Instant) : Prop :=
  Calendar.TimestampText (Text.trimChars s.toList) i

/-- Strings are operands of a storage type by what they denote: each is bound as the one text that
stands for it. -/
structure Normalizes {α : Type} (type : StorageType) (Denotes : String → α → Prop) : Prop where
  /-- A string is accepted exactly if it denotes something. -/
  accepted {key s : String} : (∃ v, scalar key type (.text s) = .ok v) ↔ ∃ a, Denotes s a
  /-- A string denotes one thing at most. -/
  unambiguous {s : String} {a b : α} : Denotes s a → Denotes s b → a = b
  /-- What is bound is a text that is accepted too, and bound as it is. -/
  stable {key s : String} {v : Value} : scalar key type (.text s) = .ok v →
    ∃ text, v = .text text ∧ ∀ key', scalar key' type (.text text) = .ok v
  /-- Two strings are bound alike exactly if they denote the same. -/
  faithful {key key' s s' : String} {v v' : Value} : scalar key type (.text s) = .ok v →
    scalar key' type (.text s') = .ok v' → (v = v' ↔ ∃ a, Denotes s a ∧ Denotes s' a)

theorem scalar_text_eq_ok_iff {key s : String} {type : StorageType} {v : Value} :
    scalar key type (.text s) = .ok v ↔ value? type (.text s) = some v := by
  unfold scalar
  dsimp only
  split
  next read => simp [read]
  next none => simp [none]

/-- Reading and writing normalize if what is read is written as a text that is read back. -/
theorem normalizes_of {α β : Type} {type : StorageType} {Denotes : String → α → Prop}
    {read? : String → Option β} {write : β → String} {value : β → α}
    (coerced : ∀ s, value? type (.text s) = (read? s).map fun b => .text (write b))
    (denotes : ∀ {s a}, Denotes s a ↔ ∃ b, read? s = some b ∧ value b = a)
    (reread : ∀ {s b}, read? s = some b → read? (write b) = some b)
    (injective : ∀ {s s' b c}, read? s = some b → read? s' = some c → value b = value c → b = c) :
    Normalizes type Denotes := by
  have bound {key s : String} {v : Value} :
      scalar key type (.text s) = .ok v ↔ ∃ b, read? s = some b ∧ .text (write b) = v := by
    rw [scalar_text_eq_ok_iff, coerced, Option.map_eq_some_iff]
  constructor
  case accepted =>
    intro key s
    constructor
    · rintro ⟨v, h⟩
      obtain ⟨b, read, -⟩ := bound.1 h
      exact ⟨value b, denotes.2 ⟨b, read, rfl⟩⟩
    · rintro ⟨a, h⟩
      obtain ⟨b, read, -⟩ := denotes.1 h
      exact ⟨_, bound.2 ⟨b, read, rfl⟩⟩
  case unambiguous =>
    intro s a a' h h'
    obtain ⟨b, read, rfl⟩ := denotes.1 h
    obtain ⟨c, read', rfl⟩ := denotes.1 h'
    rw [read] at read'
    cases read'
    rfl
  case stable =>
    intro key s v h
    obtain ⟨b, read, rfl⟩ := bound.1 h
    refine ⟨write b, rfl, ?_⟩
    intro key'
    exact bound.2 ⟨b, reread read, rfl⟩
  case faithful =>
    intro key key' s s' v v' h h'
    obtain ⟨b, read, rfl⟩ := bound.1 h
    obtain ⟨c, read', rfl⟩ := bound.1 h'
    constructor
    · -- Either text reads back as what it was written for.
      intro same
      have again : read? (write b) = some c := by
        rw [Value.text.inj same]
        exact reread read'
      rw [reread read] at again
      cases again
      exact ⟨value b, denotes.2 ⟨b, read, rfl⟩, denotes.2 ⟨b, read', rfl⟩⟩
    · rintro ⟨a, h, h'⟩
      obtain ⟨x, read_x, rfl⟩ := denotes.1 h
      obtain ⟨y, read_y, same⟩ := denotes.1 h'
      rw [read] at read_x
      rw [read'] at read_y
      cases read_x
      cases read_y
      rw [injective read read' same.symm]

theorem value?_date (s : String) : value? .date (.text s) =
    (Calendar.date? (Text.trimChars s.toList)).map fun d => .text (String.ofList d.chars) :=
  Option.map_map _ _ _

theorem value?_timestamp (s : String) : value? .datetime (.text s) =
    (Calendar.timestamp? (Text.trimChars s.toList)).map fun t => .text (String.ofList t.chars) :=
  Option.map_map _ _ _

theorem denotesDate_iff {s : String} {d : Calendar.Date} :
    DenotesDate s d ↔ ∃ e, Calendar.date? (Text.trimChars s.toList) = some e ∧ e = d := by
  simp [DenotesDate, Calendar.date?_eq_some_iff]

theorem denotesInstant_iff {s : String} {i : Calendar.Instant} : DenotesInstant s i ↔
    ∃ t, Calendar.timestamp? (Text.trimChars s.toList) = some t ∧ t.instant = i := by
  constructor
  · exact Calendar.timestamp?_of_text
  · rintro ⟨t, read, rfl⟩
    exact Calendar.text_of_timestamp? read

theorem normalizes_dates : Normalizes .date DenotesDate := by
  apply normalizes_of value?_date denotesDate_iff
  · intro s d read
    rw [String.toList_ofList, Calendar.trimChars_date]
    exact Calendar.date?_chars (Calendar.isValid_of_date? read)
  · intro s s' d e _ _ same
    exact same

theorem normalizes_timestamps : Normalizes .datetime DenotesInstant := by
  apply normalizes_of value?_timestamp denotesInstant_iff
  · intro s t read
    have valid := Calendar.isValid_of_timestamp? read
    rw [String.toList_ofList, Calendar.trimChars_timestamp valid]
    exact Calendar.timestamp?_chars valid
  · intro s s' t u read read' same
    have valid := Calendar.isValid_of_timestamp? read
    exact Calendar.Timestamp.instant_injective valid (Calendar.isValid_of_timestamp? read') same

/-- Dates and timestamps are normalized: by the calendar date, and by the point in time. -/
theorem temporal_normal :
    Normalizes .date DenotesDate ∧ Normalizes .datetime DenotesInstant :=
  ⟨normalizes_dates, normalizes_timestamps⟩

/-- A leap second at the end of a February, in a zone where it is March already and in UTC. -/
theorem leap_day_denoted :
    ∃ i, DenotesInstant "2024-03-01T00:59:60.1239999999+01:00" i ∧
      DenotesInstant " 2024-2-29 23:59:60.123999999 " i := by
  have zoned : scalar "at_eq" .datetime (.text "2024-03-01T00:59:60.1239999999+01:00") =
      .ok (.text "2024-02-29 23:59:60.123999999") :=
    scalar_text_eq_ok_iff.2 (by decide +kernel)
  have utc : scalar "at_eq" .datetime (.text " 2024-2-29 23:59:60.123999999 ") =
      .ok (.text "2024-02-29 23:59:60.123999999") :=
    scalar_text_eq_ok_iff.2 (by decide +kernel)
  exact (temporal_normal.2.faithful zoned utc).1 rfl

end Coercion
end QueryPlan
