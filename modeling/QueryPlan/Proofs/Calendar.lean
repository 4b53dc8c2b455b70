import Mathlib.Data.List.Induction
import QueryPlan.Calendar.Reading

/-!
# Dates that are read are on the calendar

Each form that a date or a timestamp can be written in ends with a check of its parts, so what is
read is valid. Only the strict form is changed afterwards: converting it to UTC moves it by less
than a day from a year of four digits, which leaves it valid too (`isValid_earlier`).
-/

namespace QueryPlan
set_option autoImplicit false
open Number

/-! ### Runs of digits -/

theorem Number.digitValue_lt {c : Char} (h : c.isDigit = true) : digitValue c < 10 := by
  have range : c.toNat ≤ 57 := by
    simp only [Char.isDigit, Bool.and_eq_true, decide_eq_true_eq] at h
    exact h.2
  unfold digitValue
  omega

/-- A run of digits denotes a number with no more digits. -/
theorem Number.ofDigits_lt {digits : List Char} (h : ∀ c ∈ digits, c.isDigit = true) :
    ofDigits digits < Nat.pow 10 digits.length := by
  induction digits using List.reverseRecOn with
  | nil => decide
  | append_singleton digits c ih =>
    have before := ih fun d member => h d (List.mem_append_left _ member)
    have last := digitValue_lt (h c (by simp))
    have span : Nat.pow 10 (digits.length + 1) = Nat.pow 10 digits.length * 10 := rfl
    rw [ofDigits_snoc, List.length_append, List.length_singleton, span]
    omega

namespace Calendar

theorem leadingDigits_digits (most : Nat) (s : List Char) :
    (leadingDigits most s).1.length ≤ most ∧ ∀ c ∈ (leadingDigits most s).1, c.isDigit = true := by
  fun_induction leadingDigits most s with
  | case1 s => simp
  | case2 most => simp
  | case3 most c s digit digits rest read ih =>
    rw [read] at ih
    obtain ⟨short, all⟩ := ih
    exact ⟨Nat.succ_le_succ short, List.forall_mem_cons.2 ⟨digit, all⟩⟩
  | case4 most c s other => simp

/-- A number of at most so many digits. -/
theorem digits?_lt {least most n : Nat} {s rest : List Char}
    (h : digits? least most s = some (n, rest)) : n < Nat.pow 10 most := by
  obtain ⟨short, all⟩ := leadingDigits_digits most s
  have value : n = ofDigits (leadingDigits most s).1 := by
    unfold digits? at h
    dsimp only at h
    split at h
    · cases h
      rfl
    · cases h
  have bound : Nat.pow 10 (leadingDigits most s).1.length ≤ Nat.pow 10 most :=
    Nat.pow_le_pow_right (by decide) short
  rw [value]
  exact Nat.lt_of_lt_of_le (ofDigits_lt all) bound

/-! ### Dates -/

theorem complete?_eq_some_iff {α : Type} {read : Option (α × List Char)} {value : α} :
    complete? read = some value ↔ read = some (value, []) := by
  unfold complete?
  split <;> simp_all

/-- What is returned after a check has passed it. -/
theorem of_checked {α : Type} {valid : α → Bool} {value found : α} {s rest : List Char}
    (h : (if valid value then some (value, s) else none) = some (found, rest)) :
    valid found = true := by
  split at h
  next passed =>
    cases h
    exact passed
  next => cases h

theorem isValid_of_looseDate? {s rest : List Char} {d : Date}
    (h : looseDate? s = some (d, rest)) : d.isValid = true := by
  simp only [looseDate?, Option.bind_eq_bind, Option.bind_eq_some_iff] at h
  obtain ⟨_, -, _, -, _, -, _, -, _, -, h⟩ := h
  exact of_checked h

/-- A date with all of its digits has a year of four digits. -/
theorem isValid_of_strictDate? {s rest : List Char} {d : Date}
    (h : strictDate? s = some (d, rest)) : d.isValid = true ∧ 0 ≤ d.year ∧ d.year < 10000 := by
  simp only [strictDate?, Option.bind_eq_bind, Option.bind_eq_some_iff] at h
  obtain ⟨⟨year, _⟩, four, _, -, _, -, _, -, ⟨_, _⟩, -, h⟩ := h
  have less : year < 10000 := digits?_lt four
  refine ⟨of_checked h, ?_⟩
  split at h <;> cases h
  dsimp only
  omega

theorem isValid_of_date? {s : List Char} {d : Date} (h : date? s = some d) : d.isValid = true :=
  isValid_of_looseDate? (complete?_eq_some_iff.1 h)

/-! ### The days around a date -/

theorem isValid_iff {d : Date} : d.isValid = true ↔
    (Date.firstYear ≤ d.year ∧ d.year ≤ Date.lastYear) ∧
      1 ≤ d.day ∧ d.day ≤ daysInMonth d.year d.month := by
  simp only [Date.isValid, Bool.and_eq_true, decide_eq_true_eq]
  tauto

theorem month_of_daysInMonth {year : Int} {month day : Nat} (positive : 1 ≤ day)
    (h : day ≤ daysInMonth year month) : 1 ≤ month ∧ month ≤ 12 := by
  unfold daysInMonth at h
  split at h <;> omega

theorem daysInMonth_pos (year : Int) {month : Nat} (first : 1 ≤ month) (last : month ≤ 12) :
    1 ≤ daysInMonth year month := by
  unfold daysInMonth
  split
  case h_12 => split <;> decide
  case h_13 => grind
  all_goals decide

theorem isValid_mk {year : Int} {month day : Nat}
    (years : Date.firstYear ≤ year ∧ year ≤ Date.lastYear) (first : 1 ≤ day)
    (last : day ≤ daysInMonth year month) : (Date.mk year month day).isValid = true :=
  isValid_iff.2 ⟨years, first, last⟩

theorem isValid_next {d : Date} (h : d.isValid = true) (year : d.year < Date.lastYear) :
    d.next.isValid = true := by
  obtain ⟨years, first, last⟩ := isValid_iff.1 h
  obtain ⟨first_month, last_month⟩ := month_of_daysInMonth first last
  unfold Date.next
  split
  next inside => exact isValid_mk years (by omega) inside
  next =>
    split
    next earlier =>
      exact isValid_mk years (Nat.le_refl 1) (daysInMonth_pos d.year (by omega) (by omega))
    next =>
      have january : 1 ≤ daysInMonth (d.year + 1) 1 := daysInMonth_pos _ (by decide) (by decide)
      exact isValid_mk ⟨by omega, by omega⟩ (Nat.le_refl 1) january

theorem isValid_previous {d : Date} (h : d.isValid = true) (year : Date.firstYear < d.year) :
    d.previous.isValid = true := by
  obtain ⟨years, first, last⟩ := isValid_iff.1 h
  obtain ⟨first_month, last_month⟩ := month_of_daysInMonth first last
  unfold Date.previous
  split
  next inside => exact isValid_mk years (by omega) (by omega)
  next =>
    split
    next later =>
      have some_day : 1 ≤ daysInMonth d.year (d.month - 1) :=
        daysInMonth_pos d.year (by omega) (by omega)
      exact isValid_mk years some_day (Nat.le_refl _)
    next =>
      have december : 31 ≤ daysInMonth (d.year - 1) 12 := Nat.le_refl 31
      exact isValid_mk ⟨by omega, by omega⟩ (by decide) december

/-! ### Timestamps -/

/-- Whether the date is on the calendar and every part of the time is in its range. -/
def Timestamp.isValid (t : Timestamp) : Bool := t.date.isValid && t.clock.isValid

theorem Timestamp.isValid_iff {t : Timestamp} :
    t.isValid = true ↔ t.date.isValid = true ∧ t.clock.isValid = true := Bool.and_eq_true_iff

theorem Clock.isValid_iff {c : Clock} : c.isValid = true ↔
    c.hour < 24 ∧ c.minute < 60 ∧ c.second ≤ 60 ∧ c.nano < 1000000000 := by
  simp only [isValid, Bool.and_eq_true, decide_eq_true_eq]
  tauto

/-- Moving a time by less than a day reaches the days around its date at most. -/
theorem Timestamp.isValid_earlier {t : Timestamp} (h : t.isValid = true)
    (first : Date.firstYear < t.date.year) (last : t.date.year < Date.lastYear) (minutes : Int) :
    (t.earlier minutes).isValid = true := by
  obtain ⟨date, clock⟩ := isValid_iff.1 h
  obtain ⟨-, -, second, nano⟩ := Clock.isValid_iff.1 clock
  refine isValid_iff.2 ⟨?_, ?_⟩
  · unfold earlier
    dsimp only
    split
    · exact isValid_previous date first
    · split
      · exact isValid_next date last
      · exact date
  · have minute : ((60 * (t.clock.hour : Int) + t.clock.minute - minutes) % dayMinutes).toNat <
        1440 := by
      unfold dayMinutes
      omega
    refine Clock.isValid_iff.2 ⟨?_, ?_, second, nano⟩
    · exact Nat.div_lt_of_lt_mul minute
    · exact Nat.mod_lt _ (by decide)

theorem isValid_of_clockBy? {number? : List Char → Option (Nat × List Char)}
    {s rest : List Char} {c : Clock} (h : clockBy? number? s = some (c, rest)) :
    c.isValid = true := by
  simp only [clockBy?, Option.bind_eq_bind, Option.bind_eq_some_iff] at h
  obtain ⟨_, -, _, -, _, -, _, -, _, -, _, -, h⟩ := h
  exact of_checked h

theorem isValid_of_strictTimestamp? {s rest : List Char} {t : Timestamp}
    (h : strictTimestamp? s = some (t, rest)) : t.isValid = true := by
  simp only [strictTimestamp?, Option.bind_eq_bind, Option.bind_eq_some_iff] at h
  obtain ⟨⟨date, _⟩, read_date, _, -, ⟨clock, _⟩, read_clock, ⟨minutes, _⟩, -, made⟩ := h
  cases made
  obtain ⟨valid_date, first, last⟩ := isValid_of_strictDate? read_date
  have valid : Timestamp.isValid ⟨date, clock⟩ = true :=
    Timestamp.isValid_iff.2 ⟨valid_date, isValid_of_clockBy? read_clock⟩
  apply Timestamp.isValid_earlier valid
  · exact Int.lt_of_lt_of_le (by decide) first
  · exact Int.lt_trans last (by decide)

theorem isValid_of_looseTimestamp? {between? : List Char → Option (List Char)}
    {s rest : List Char} {t : Timestamp} (h : looseTimestamp? between? s = some (t, rest)) :
    t.isValid = true := by
  simp only [looseTimestamp?, Option.bind_eq_bind, Option.bind_eq_some_iff] at h
  obtain ⟨⟨date, _⟩, read_date, _, -, ⟨clock, _⟩, read_clock, made⟩ := h
  cases made
  exact Timestamp.isValid_iff.2 ⟨isValid_of_looseDate? read_date, isValid_of_clockBy? read_clock⟩

/-- Whatever form a timestamp is written in, it is valid. -/
theorem isValid_of_timestamp? {s : List Char} {t : Timestamp} (h : timestamp? s = some t) :
    t.isValid = true := by
  unfold timestamp? at h
  obtain strict | ⟨-, h⟩ := Option.or_eq_some_iff.1 h
  · exact isValid_of_strictTimestamp? (complete?_eq_some_iff.1 strict)
  obtain blanks | ⟨-, h⟩ := Option.or_eq_some_iff.1 h
  · exact isValid_of_looseTimestamp? (complete?_eq_some_iff.1 blanks)
  obtain mark | ⟨-, h⟩ := Option.or_eq_some_iff.1 h
  · exact isValid_of_looseTimestamp? (complete?_eq_some_iff.1 mark)
  · obtain ⟨date, read, rfl⟩ := Option.map_eq_some_iff.1 h
    exact Timestamp.isValid_iff.2 ⟨isValid_of_date? read, rfl⟩

end Calendar
end QueryPlan
