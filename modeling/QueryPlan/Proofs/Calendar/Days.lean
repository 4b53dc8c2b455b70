import QueryPlan.Proofs.Calendar

/-!
# Counting days

A date is the number of its day, counted over all years, and a timestamp is the number of its minute
with the second inside it, which is the sixtieth in a leap second. The numbers are told from the
lengths of years and months alone. They order dates as the calendar does (`dayNumber_lt`), so no two
dates share one, and moving a timestamp by an offset moves its minute by just as many minutes,
whatever days, months and years lie in between (`instant_earlier`).
-/

namespace QueryPlan.Calendar
set_option autoImplicit false

/-! ### Years and months -/

/-- The number of days of a year. -/
def daysInYear (year : Int) : Nat := if isLeapYear year then 366 else 365

/-- The number of days from the start of the year 0 to the start of a year, negative for earlier
years: every fourth year is a leap year, but of the full centuries only every fourth. -/
def daysBeforeYear (year : Int) : Int :=
  365 * year + (year + 3) / 4 - (year + 99) / 100 + (year + 399) / 400

/-- The number of days from the start of a year to the start of a month. -/
def daysBeforeMonth (year : Int) : Nat → Nat
  | 0 => 0
  | month + 1 => daysBeforeMonth year month + daysInMonth year month

theorem isLeapYear_iff {year : Int} :
    isLeapYear year = true ↔ year % 4 = 0 ∧ (year % 100 ≠ 0 ∨ year % 400 = 0) := by
  simp [isLeapYear]

theorem daysBeforeYear_succ (year : Int) :
    daysBeforeYear (year + 1) = daysBeforeYear year + daysInYear year := by
  unfold daysInYear daysBeforeYear
  split
  next leap =>
    rw [isLeapYear_iff] at leap
    omega
  next common =>
    rw [isLeapYear_iff] at common
    omega

theorem daysBeforeYear_mono {year later : Int} (h : year ≤ later) :
    daysBeforeYear year ≤ daysBeforeYear later := by
  unfold daysBeforeYear
  omega

/-- The months make up the year. -/
theorem daysBeforeMonth_thirteen (year : Int) : daysBeforeMonth year 13 = daysInYear year := by
  unfold daysInYear
  cases leap : isLeapYear year <;> simp [daysBeforeMonth, daysInMonth, leap]

theorem daysBeforeMonth_mono (year : Int) {month later : Nat} (h : month ≤ later) :
    daysBeforeMonth year month ≤ daysBeforeMonth year later := by
  induction h with
  | refl => exact Nat.le_refl _
  | step _ ih =>
    rw [daysBeforeMonth]
    omega

/-! ### Dates -/

/-- The number of the day of a date: the first day of the year 0 is day 1. -/
def Date.dayNumber (d : Date) : Int :=
  daysBeforeYear d.year + daysBeforeMonth d.year d.month + d.day

/-- The date lies in its year, behind the days of the months before. -/
theorem Date.yearDay_bounds {d : Date} (h : d.isValid = true) :
    daysBeforeMonth d.year d.month < daysBeforeMonth d.year d.month + d.day ∧
      daysBeforeMonth d.year d.month + d.day ≤ daysBeforeMonth d.year (d.month + 1) ∧
      daysBeforeMonth d.year (d.month + 1) ≤ daysInYear d.year := by
  obtain ⟨-, first, last⟩ := isValid_iff.1 h
  obtain ⟨-, december⟩ := month_of_daysInMonth first last
  have inside := daysBeforeMonth_mono d.year (show d.month + 1 ≤ 13 by omega)
  rw [daysBeforeMonth_thirteen] at inside
  refine ⟨by omega, ?_, inside⟩
  rw [daysBeforeMonth]
  omega

theorem Date.dayNumber_next {d : Date} (h : d.isValid = true) :
    d.next.dayNumber = d.dayNumber + 1 := by
  obtain ⟨-, first, last⟩ := isValid_iff.1 h
  obtain ⟨-, december⟩ := month_of_daysInMonth first last
  unfold next
  split
  next =>
    simp only [dayNumber]
    omega
  next =>
    have month_end : d.day = daysInMonth d.year d.month := by omega
    split
    next =>
      simp only [dayNumber, daysBeforeMonth]
      omega
    next =>
      have last_month : d.month = 12 := by omega
      have months : daysBeforeMonth d.year 12 + daysInMonth d.year 12 = daysInYear d.year :=
        daysBeforeMonth_thirteen d.year
      have none : daysBeforeMonth (d.year + 1) 1 = 0 := rfl
      rw [last_month] at month_end
      simp only [dayNumber, daysBeforeYear_succ, last_month, none]
      omega

theorem Date.dayNumber_previous {d : Date} (h : d.isValid = true) :
    d.previous.dayNumber = d.dayNumber - 1 := by
  obtain ⟨-, first, last⟩ := isValid_iff.1 h
  obtain ⟨january, -⟩ := month_of_daysInMonth first last
  unfold previous
  split
  next =>
    simp only [dayNumber]
    omega
  next =>
    split
    next later =>
      have month : daysBeforeMonth d.year d.month =
          daysBeforeMonth d.year (d.month - 1) + daysInMonth d.year (d.month - 1) := by
        obtain ⟨before, same⟩ : ∃ before, d.month = before + 1 := ⟨d.month - 1, by omega⟩
        rw [same]
        rfl
      simp only [dayNumber]
      omega
    next =>
      have start : d.month = 1 := by omega
      have year := daysBeforeYear_succ (d.year - 1)
      have months : daysBeforeMonth (d.year - 1) 12 + 31 = daysInYear (d.year - 1) :=
        daysBeforeMonth_thirteen (d.year - 1)
      have none : daysBeforeMonth d.year 1 = 0 := rfl
      rw [Int.sub_add_cancel] at year
      simp only [dayNumber, start, none]
      omega

/-- The day of an earlier date has a smaller number. -/
theorem Date.dayNumber_lt {d e : Date} (hd : d.isValid = true) (he : e.isValid = true)
    (h : d.year < e.year ∨ d.year = e.year ∧
      (d.month < e.month ∨ d.month = e.month ∧ d.day < e.day)) : d.dayNumber < e.dayNumber := by
  obtain ⟨-, upper, whole⟩ := yearDay_bounds hd
  obtain ⟨lower, -, -⟩ := yearDay_bounds he
  unfold dayNumber
  rcases h with year | ⟨year, month | ⟨month, day⟩⟩
  · have years := daysBeforeYear_mono (show d.year + 1 ≤ e.year by omega)
    rw [daysBeforeYear_succ] at years
    omega
  · have months := daysBeforeMonth_mono d.year (show d.month + 1 ≤ e.month by omega)
    rw [year] at months upper ⊢
    omega
  · rw [year, month]
    omega

theorem Date.dayNumber_injective {d e : Date} (hd : d.isValid = true) (he : e.isValid = true)
    (same : d.dayNumber = e.dayNumber) : d = e := by
  have forward := dayNumber_lt hd he
  have backward := dayNumber_lt he hd
  rw [same] at forward backward
  obtain ⟨year, month, day⟩ := d
  obtain ⟨year', month', day'⟩ := e
  simp only [Date.mk.injEq] at *
  omega

/-! ### Timestamps -/

/-- A point in time, in UTC. -/
structure Instant where
  /-- The number of the minute, counted over all years. -/
  minute : Int
  /-- The second of the minute; it is 60 in a leap second. -/
  second : Nat
  nano : Nat
  deriving DecidableEq, Repr

/-- The point in time that is so many minutes earlier. -/
def Instant.earlier (i : Instant) (minutes : Int) : Instant :=
  { i with minute := i.minute - minutes }

/-- The point in time of a timestamp. -/
def Timestamp.instant (t : Timestamp) : Instant :=
  ⟨1440 * t.date.dayNumber + 60 * t.clock.hour + t.clock.minute, t.clock.second, t.clock.nano⟩

theorem Clock.ext {c c' : Clock} (hour : c.hour = c'.hour) (minute : c.minute = c'.minute)
    (second : c.second = c'.second) (nano : c.nano = c'.nano) : c = c' := by
  cases c
  cases c'
  simp_all

/-- A point in time has one timestamp. -/
theorem Timestamp.instant_injective {t u : Timestamp} (ht : t.isValid = true)
    (hu : u.isValid = true) (same : t.instant = u.instant) : t = u := by
  obtain ⟨t_date, t_clock⟩ := isValid_iff.1 ht
  obtain ⟨u_date, u_clock⟩ := isValid_iff.1 hu
  have t_ranges := Clock.isValid_iff.1 t_clock
  have u_ranges := Clock.isValid_iff.1 u_clock
  simp only [instant, Instant.mk.injEq] at same
  obtain ⟨minutes, second, nano⟩ := same
  have day : t.date.dayNumber = u.date.dayNumber := by omega
  have hour : t.clock.hour = u.clock.hour := by omega
  have minute : t.clock.minute = u.clock.minute := by omega
  obtain ⟨d, c⟩ := t
  obtain ⟨e, c'⟩ := u
  have date : d = e := Date.dayNumber_injective t_date u_date day
  have clock : c = c' := Clock.ext hour minute second nano
  rw [date, clock]

/-- Moving a timestamp by less than a day moves its date by the days that the minutes run over. -/
theorem Timestamp.dayNumber_earlier {t : Timestamp} (h : t.isValid = true) {minutes : Int}
    (west : -1440 < minutes) (east : minutes < 1440) :
    (t.earlier minutes).date.dayNumber =
      t.date.dayNumber + (60 * (t.clock.hour : Int) + t.clock.minute - minutes) / 1440 := by
  obtain ⟨date, clock⟩ := isValid_iff.1 h
  obtain ⟨hour, minute, -, -⟩ := Clock.isValid_iff.1 clock
  have day : dayMinutes = 1440 := rfl
  simp only [earlier]
  by_cases before : 60 * (t.clock.hour : Int) + t.clock.minute - minutes < 0
  · rw [if_pos before, Date.dayNumber_previous date]
    omega
  · rw [if_neg before]
    by_cases after : dayMinutes ≤ 60 * (t.clock.hour : Int) + t.clock.minute - minutes
    · rw [if_pos after, Date.dayNumber_next date]
      omega
    · rw [if_neg after]
      omega

/-- A timestamp that is moved by less than a day is at the point in time that is moved as far. -/
theorem Timestamp.instant_earlier {t : Timestamp} (h : t.isValid = true) {minutes : Int}
    (west : -1440 < minutes) (east : minutes < 1440) :
    (t.earlier minutes).instant = t.instant.earlier minutes := by
  have day := dayNumber_earlier h west east
  simp only [instant, Instant.earlier, Instant.mk.injEq]
  refine ⟨?_, rfl, rfl⟩
  rw [day]
  simp only [earlier, dayMinutes]
  omega

end QueryPlan.Calendar
