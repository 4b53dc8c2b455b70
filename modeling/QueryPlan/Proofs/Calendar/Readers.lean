import Mathlib.Data.List.DropRight
import QueryPlan.Proofs.Calendar.Forms

/-!
# What is read of a date or a timestamp

Each reader takes the pieces of its grammar off a text and nothing else (`Reads`). What is read of a
whole text is therefore a date or a timestamp in the sense of the grammars, and all of them are read
(`date?_eq_some_iff`, `timestamp?_of_text`, `text_of_timestamp?`), although the forms of a timestamp
are tried in an order.
-/

namespace QueryPlan.Calendar
set_option autoImplicit false
open Number

/-! ### Digits -/

theorem expect_eq_some_iff {c : Char} {s rest : List Char} :
    expect c s = some rest ↔ s = c :: rest := by
  cases s with
  | nil => simp [expect]
  | cons d s => simp [expect]

theorem leadingDigits_append {most : Nat} {digits rest : List Char} (short : digits.length ≤ most)
    (all : ∀ c ∈ digits, c.isDigit = true)
    (stop : digits.length < most → startsWithDigit rest = false) :
    leadingDigits most (digits ++ rest) = (digits, rest) := by
  induction digits generalizing most with
  | nil =>
    fun_cases leadingDigits most rest with
    | case1 s => rfl
    | case2 most => rfl
    | case3 most c s digit =>
      have other : c.isDigit = false := stop (Nat.succ_pos most)
      rw [digit] at other
      cases other
    | case4 most c s other => rfl
  | cons c digits ih =>
    obtain ⟨digit, all⟩ := List.forall_mem_cons.1 all
    cases most with
    | zero => exact absurd short (by simp)
    | succ most =>
      have rest_read : leadingDigits most (digits ++ rest) = (digits, rest) := by
        apply ih (Nat.le_of_succ_le_succ short) all
        intro shorter
        exact stop (Nat.succ_lt_succ shorter)
      simp [leadingDigits, digit, rest_read]

/-- The digits at the start end where no digit follows, or where there are enough of them. -/
theorem leadingDigits_split (most : Nat) (s : List Char) :
    s = (leadingDigits most s).1 ++ (leadingDigits most s).2 ∧
      ((leadingDigits most s).1.length < most →
        startsWithDigit (leadingDigits most s).2 = false) := by
  fun_induction leadingDigits most s with
  | case1 s => simp
  | case2 most => simp [startsWithDigit]
  | case3 most c s digit digits rest read ih =>
    rw [read] at ih
    obtain ⟨split, stop⟩ := ih
    refine ⟨congrArg (List.cons c) split, ?_⟩
    intro shorter
    exact stop (Nat.lt_of_succ_lt_succ shorter)
  | case4 most c s other => simpa [startsWithDigit] using other

theorem digits?_eq_some_iff {least most n : Nat} {s rest : List Char} :
    digits? least most s = some (n, rest) ↔ ∃ digits, IsRun least most digits ∧
      ofDigits digits = n ∧ s = digits ++ rest ∧
        (digits.length < most → startsWithDigit rest = false) := by
  unfold digits?
  constructor
  · intro h
    obtain ⟨short, all⟩ := leadingDigits_digits most s
    obtain ⟨split, stop⟩ := leadingDigits_split most s
    obtain ⟨enough, found⟩ := Option.ite_none_right_eq_some.1 h
    cases found
    exact ⟨_, ⟨enough, short, all⟩, rfl, split, stop⟩
  · rintro ⟨digits, run, rfl, rfl, stop⟩
    rw [leadingDigits_append run.most run.all stop]
    exact if_pos run.least

/-- Trimming the start leads to a text without blanks exactly behind some blanks. -/
theorem trimStart_eq_append_iff {s piece rest : List Char} (nonempty : piece ≠ [])
    (solid : ∀ c ∈ piece, Text.isBlank c = false) :
    Text.trimStart s = piece ++ rest ↔
      ∃ blanks, IsBlanks blanks ∧ s = blanks ++ (piece ++ rest) := by
  constructor
  · intro h
    refine ⟨s.takeWhile Text.isBlank, fun c => List.mem_takeWhile_imp, ?_⟩
    rw [← h]
    exact List.takeWhile_append_dropWhile.symm
  · rintro ⟨blanks, spaced, rfl⟩
    rw [Text.trimStart_blank_append spaced]
    exact Text.trimStart_solid_append nonempty solid

theorem IsRun.nonempty {least most : Nat} {digits : List Char}
    (run : IsRun (least + 1) most digits) : digits ≠ [] := by
  rintro rfl
  exact absurd run.least (by simp)

theorem IsRun.solid {least most : Nat} {digits : List Char} (run : IsRun least most digits) :
    ∀ c ∈ digits, Text.isBlank c = false := by
  intro c member
  exact Text.isBlank_of_isDigit (run.all c member)

/-! ### Numbers -/

/-- What a reader takes off a text is a piece of the grammar that no digit continues, and it takes
off every such piece. -/
def Reads {α : Type} (read : List Char → Option (α × List Char)) (Piece : List Char → α → Prop) :
    Prop :=
  ∀ s a rest, read s = some (a, rest) ↔
    ∃ piece, Piece piece a ∧ s = piece ++ rest ∧ Stops piece rest

theorem Stops.of_other {piece rest : List Char} (other : startsWithDigit rest = false) :
    Stops piece rest := by
  intro digit
  rw [other] at digit
  cases digit

/-- Where no digit follows, any piece is taken off. -/
theorem Reads.before {α : Type} {read : List Char → Option (α × List Char)}
    {Piece : List Char → α → Prop} (h : Reads read Piece) {s rest : List Char} {a : α}
    (other : startsWithDigit rest = false) :
    read s = some (a, rest) ↔ ∃ piece, Piece piece a ∧ s = piece ++ rest := by
  rw [h]
  constructor
  · rintro ⟨piece, denotes, split, -⟩
    exact ⟨piece, denotes, split⟩
  · rintro ⟨piece, denotes, split⟩
    exact ⟨piece, denotes, split, .of_other other⟩

theorem digits?_fixed_eq_some_iff {width n : Nat} {s rest : List Char} :
    digits? width width s = some (n, rest) ↔
      ∃ piece, FixedNumber width piece n ∧ s = piece ++ rest := by
  rw [digits?_eq_some_iff]
  constructor
  · rintro ⟨digits, run, rfl, split, -⟩
    exact ⟨digits, .intro run, split⟩
  · rintro ⟨piece, ⟨run⟩, split⟩
    refine ⟨piece, run, rfl, split, ?_⟩
    intro shorter
    exact absurd shorter (Nat.not_lt.2 run.least)

theorem reads_fixed : Reads (digits? 2 2) (FixedNumber 2) := by
  intro s n rest
  rw [digits?_fixed_eq_some_iff]
  constructor
  · rintro ⟨piece, denotes, split⟩
    exact ⟨piece, denotes, split, fun _ => denotes.endsInTwoDigits []⟩
  · rintro ⟨piece, denotes, split, -⟩
    exact ⟨piece, denotes, split⟩

theorem IsRun.stops_iff {blanks digits rest : List Char} (spaced : IsBlanks blanks)
    (run : IsRun 1 2 digits) :
    Stops (blanks ++ digits) rest ↔ (digits.length < 2 → startsWithDigit rest = false) := by
  have most := run.most
  unfold Stops
  rw [run.endsInTwoDigits_append spaced.getLast_other, decide_eq_true_eq]
  cases startsWithDigit rest with
  | false => simp
  | true =>
    simp only [forall_true_left, Bool.true_eq_false, imp_false]
    omega

theorem reads_loose : Reads looseNumber? LooseNumber := by
  intro s n rest
  unfold looseNumber?
  rw [digits?_eq_some_iff]
  constructor
  · rintro ⟨digits, run, rfl, trimmed, stop⟩
    obtain ⟨blanks, spaced, rfl⟩ := (trimStart_eq_append_iff run.nonempty run.solid).1 trimmed
    refine ⟨blanks ++ digits, .intro spaced run, ?_, (run.stops_iff spaced).2 stop⟩
    exact (List.append_assoc blanks digits rest).symm
  · rintro ⟨piece, ⟨spaced, run⟩, rfl, stop⟩
    refine ⟨_, run, rfl, ?_, (run.stops_iff spaced).1 stop⟩
    apply (trimStart_eq_append_iff run.nonempty run.solid).2
    exact ⟨_, spaced, List.append_assoc _ _ _⟩

/-! ### Dates -/

/-- A number behind a sign is read to the last of its digits. -/
theorem digits?_signed {n : Nat} {s rest : List Char} :
    digits? 1 s.length s = some (n, '-' :: rest) ↔
      ∃ digits, IsDigits digits ∧ ofDigits digits = n ∧ s = digits ++ '-' :: rest := by
  rw [digits?_eq_some_iff]
  constructor
  · rintro ⟨digits, run, value, split, -⟩
    exact ⟨digits, ⟨run.nonempty, run.all⟩, value, split⟩
  · rintro ⟨digits, run, value, split⟩
    refine ⟨digits, ⟨List.length_pos_iff.2 run.nonempty, ?_, run.all⟩, value, split, fun _ => rfl⟩
    rw [split, List.length_append]
    exact Nat.le_add_right _ _

theorem yearText_of_looseYear? {s rest : List Char} {year : Int}
    (h : looseYear? s = some (year, '-' :: rest)) :
    ∃ text, YearText text year ∧ Text.trimStart s = text ++ '-' :: rest := by
  unfold looseYear? at h
  split at h
  all_goals
    obtain ⟨⟨n, left⟩, read, made⟩ := Option.map_eq_some_iff.1 h
    cases made
  next t trimmed =>
    obtain ⟨digits, run, rfl, rfl⟩ := digits?_signed.1 read
    exact ⟨'-' :: digits, ⟨.minus run, fun digit => nomatch digit⟩, trimmed⟩
  next t trimmed =>
    obtain ⟨digits, run, rfl, rfl⟩ := digits?_signed.1 read
    exact ⟨'+' :: digits, ⟨.plus run, fun digit => nomatch digit⟩, trimmed⟩
  next =>
    obtain ⟨digits, run, rfl, trimmed, -⟩ := digits?_eq_some_iff.1 read
    exact ⟨digits, ⟨.unsigned ⟨run.nonempty, run.all⟩, fun _ => run.most⟩, trimmed⟩

theorem looseYear?_of_yearText {s text rest : List Char} {year : Int} (denotes : YearText text year)
    (trimmed : Text.trimStart s = text ++ '-' :: rest) :
    looseYear? s = some (year, '-' :: rest) := by
  unfold looseYear?
  rw [trimmed]
  cases denotes.numeral with
  | minus run =>
    apply Option.map_eq_some_iff.2
    exact ⟨_, digits?_signed.2 ⟨_, run, rfl, rfl⟩, rfl⟩
  | plus run =>
    apply Option.map_eq_some_iff.2
    exact ⟨_, digits?_signed.2 ⟨_, run, rfl, rfl⟩, rfl⟩
  | unsigned run =>
    obtain ⟨c, digits, rfl⟩ := List.exists_cons_of_ne_nil run.nonempty
    have digit := run.all c List.mem_cons_self
    have run_of_four : IsRun 1 4 (c :: digits) := ⟨by simp, denotes.short digit, run.all⟩
    -- The first character is a digit, so it is no sign.
    split
    next same =>
      cases same
      cases digit
    next same =>
      cases same
      cases digit
    next =>
      apply Option.map_eq_some_iff.2
      exact ⟨_, digits?_eq_some_iff.2 ⟨_, run_of_four, rfl, rfl, fun _ => rfl⟩, rfl⟩

theorem looseYear?_eq_some_iff {s rest : List Char} {year : Int} :
    looseYear? s = some (year, '-' :: rest) ↔
      ∃ piece, LooseYear piece year ∧ s = piece ++ '-' :: rest := by
  constructor
  · intro h
    obtain ⟨text, denotes, trimmed⟩ := yearText_of_looseYear? h
    obtain ⟨blanks, spaced, rfl⟩ :=
      (trimStart_eq_append_iff denotes.numeral.nonempty denotes.numeral.solid).1 trimmed
    exact ⟨blanks ++ text, .intro spaced denotes, (List.append_assoc _ _ _).symm⟩
  · rintro ⟨piece, ⟨spaced, denotes⟩, rfl⟩
    apply looseYear?_of_yearText denotes
    apply (trimStart_eq_append_iff denotes.numeral.nonempty denotes.numeral.solid).2
    exact ⟨_, spaced, List.append_assoc _ _ _⟩

theorem strictYear?_eq_some_iff {s rest : List Char} {year : Int} :
    (∃ n : Nat, year = n ∧ digits? 4 4 s = some (n, rest)) ↔
      ∃ piece, StrictYear piece year ∧ s = piece ++ rest := by
  constructor
  · rintro ⟨n, rfl, read⟩
    obtain ⟨piece, denotes, split⟩ := digits?_fixed_eq_some_iff.1 read
    exact ⟨piece, .intro denotes, split⟩
  · rintro ⟨piece, ⟨denotes⟩, split⟩
    exact ⟨_, rfl, digits?_fixed_eq_some_iff.2 ⟨piece, denotes, split⟩⟩

section
variable {Year : List Char → Int → Prop} {Part : List Char → Nat → Prop}
  {number? : List Char → Option (Nat × List Char)}

/-- Reading the parts of a date in turn reads dates: year and month end at the hyphen behind them,
so what may follow is up to the day. -/
theorem reads_dateBy {date? : List Char → Option (Date × List Char)}
    (parts : ∀ s d rest, date? s = some (d, rest) ↔ d.isValid = true ∧ ∃ y s₁ s₂,
      Year y d.year ∧ s = y ++ '-' :: s₁ ∧ number? s₁ = some (d.month, '-' :: s₂) ∧
        number? s₂ = some (d.day, rest))
    (number : Reads number? Part) (ends : ∀ {piece n}, Part piece n → ∀ front,
      endsInTwoDigits (front ++ '-' :: piece) = endsInTwoDigits piece) :
    Reads date? (DateBy Year Part) := by
  have stops_iff {y m p rest : List Char} {n : Nat} (days : Part p n) :
      Stops (y ++ '-' :: (m ++ '-' :: p)) rest ↔ Stops p rest := by
    have front : y ++ '-' :: (m ++ '-' :: p) = (y ++ '-' :: m) ++ '-' :: p := by simp
    unfold Stops
    rw [front, ends days]
  intro s d rest
  rw [parts]
  constructor
  · rintro ⟨valid, y, s₁, s₂, years, rfl, read_month, read_day⟩
    obtain ⟨m, months, rfl⟩ := (number.before rfl).1 read_month
    obtain ⟨p, days, rfl, stop⟩ := (number _ _ _).1 read_day
    refine ⟨y ++ '-' :: (m ++ '-' :: p), .intro years months days valid, by simp, ?_⟩
    exact (stops_iff days).2 stop
  · rintro ⟨_, @⟨y, m, p, _, _, _, years, months, days, valid⟩, rfl, stop⟩
    refine ⟨valid, y, m ++ '-' :: (p ++ rest), p ++ rest, years, by simp, ?_, ?_⟩
    · exact (number.before rfl).2 ⟨m, months, rfl⟩
    · exact (number _ _ _).2 ⟨p, days, rfl, (stops_iff days).1 stop⟩

end

theorem reads_looseDate : Reads looseDate? DateText := by
  apply reads_dateBy _ reads_loose LooseNumber.endsInTwoDigits_append
  intro s d rest
  simp only [looseDate?, Option.bind_eq_bind, Option.bind_eq_some_iff, expect_eq_some_iff,
    Prod.exists]
  constructor
  · rintro ⟨year, s₁, read_year, _, rfl, month, s₂, read_month, _, rfl, day, s₃, read_day, made⟩
    obtain ⟨valid, made⟩ := Option.ite_none_right_eq_some.1 made
    cases made
    obtain ⟨y, years, split⟩ := looseYear?_eq_some_iff.1 read_year
    exact ⟨valid, y, _, _, years, split, read_month, read_day⟩
  · rintro ⟨valid, y, s₁, s₂, years, split, read_month, read_day⟩
    have read_year := looseYear?_eq_some_iff.2 ⟨y, years, split⟩
    exact ⟨_, _, read_year, _, rfl, _, _, read_month, _, rfl, _, _, read_day, if_pos valid⟩

theorem reads_strictDate : Reads strictDate? StrictDate := by
  have ends {piece : List Char} {n : Nat} (part : FixedNumber 2 piece n) (front : List Char) :
      endsInTwoDigits (front ++ '-' :: piece) = endsInTwoDigits piece := by
    rw [List.append_cons, part.endsInTwoDigits]
    exact (part.endsInTwoDigits []).symm
  apply reads_dateBy _ reads_fixed ends
  intro s d rest
  simp only [strictDate?, Option.bind_eq_bind, Option.bind_eq_some_iff, expect_eq_some_iff,
    Prod.exists]
  constructor
  · rintro ⟨year, s₁, read_year, _, rfl, month, s₂, read_month, _, rfl, day, s₃, read_day, made⟩
    obtain ⟨valid, made⟩ := Option.ite_none_right_eq_some.1 made
    cases made
    obtain ⟨y, years, split⟩ := strictYear?_eq_some_iff.1 ⟨year, rfl, read_year⟩
    exact ⟨valid, y, _, _, years, split, read_month, read_day⟩
  · rintro ⟨valid, y, s₁, s₂, years, split, read_month, read_day⟩
    obtain ⟨_, month, day⟩ := d
    obtain ⟨year, rfl, read_year⟩ := strictYear?_eq_some_iff.2 ⟨y, years, split⟩
    exact ⟨_, _, read_year, _, rfl, _, _, read_month, _, rfl, _, _, read_day, if_pos valid⟩

/-- The texts of dates are read, and nothing else is. -/
theorem date?_eq_some_iff {s : List Char} {d : Date} : date? s = some d ↔ DateText s d := by
  unfold date?
  rw [complete?_eq_some_iff, reads_looseDate.before rfl]
  simp

/-! ### Times -/

/-- The first digits of a number are the number without its last digits. -/
theorem ofDigits_take {digits : List Char} (all : ∀ c ∈ digits, c.isDigit = true) (kept : Nat) :
    ofDigits (digits.take kept) = ofDigits digits / 10 ^ (digits.length - kept) := by
  have left : ofDigits (digits.drop kept) < 10 ^ (digits.drop kept).length :=
    ofDigits_lt fun c member => all c (List.mem_of_mem_drop member)
  have value := ofDigits_append (digits.take kept) (digits.drop kept)
  rw [List.take_append_drop] at value
  rw [← List.length_drop, value, Nat.mul_add_div (Nat.pow_pos (by decide)), Nat.div_eq_of_lt left,
    Nat.add_zero]

/-- The digits that are kept make up the fraction in nanoseconds, less what is below one. -/
theorem nanoseconds_eq {digits : List Char} (all : ∀ c ∈ digits, c.isDigit = true) :
    nanoseconds digits = ofDigits digits * 10 ^ 9 / 10 ^ digits.length := by
  unfold nanoseconds
  dsimp only
  by_cases short : digits.length ≤ 9
  · have span : 10 ^ 9 = 10 ^ (9 - digits.length) * 10 ^ digits.length := by
      rw [← Nat.pow_add, Nat.sub_add_cancel short]
    rw [List.take_of_length_le short, span, ← Nat.mul_assoc,
      Nat.mul_div_cancel _ (Nat.pow_pos (by decide))]
    rfl
  · have kept : (digits.take 9).length = 9 := by
      rw [List.length_take]
      omega
    have unit : Nat.pow 10 (9 - 9) = 1 := rfl
    have span : 10 ^ digits.length = 10 ^ (digits.length - 9) * 10 ^ 9 := by
      rw [← Nat.pow_add]
      congr 1
      omega
    rw [kept, unit, Nat.mul_one, span, Nat.mul_div_mul_right _ _ (by decide), ofDigits_take all]

/-- A text that does not go on with a digit or a point, so a time of day may end before it. -/
def Ends (rest : List Char) : Prop := ∀ c ∈ rest.head?, c.isDigit = false ∧ c ≠ '.'

theorem Ends.nil : Ends [] := by
  intro c first
  cases first

theorem Ends.startsWithDigit {rest : List Char} (ends : Ends rest) :
    startsWithDigit rest = false := by
  cases rest with
  | nil => rfl
  | cons c rest => exact (ends c rfl).1

theorem FractionText.startsWithDigit_append {f rest : List Char} {nano : Nat}
    (h : FractionText f nano) (ends : Ends rest) : startsWithDigit (f ++ rest) = false := by
  cases h with
  | whole => exact ends.startsWithDigit
  | point run => rfl

theorem text_of_fraction? {s rest : List Char} {nano : Nat} (h : fraction? s = some (nano, rest)) :
    ∃ f, FractionText f nano ∧ s = f ++ rest := by
  unfold fraction? at h
  split at h
  next t =>
    obtain ⟨nonempty, made⟩ := Option.ite_none_left_eq_some.1 h
    cases made
    have run : IsDigits (t.takeWhile Char.isDigit) :=
      ⟨by simpa using nonempty, fun c => List.mem_takeWhile_imp⟩
    refine ⟨'.' :: t.takeWhile Char.isDigit, ?_, ?_⟩
    · rw [nanoseconds_eq run.all]
      exact .point run
    · rw [List.cons_append, List.takeWhile_append_dropWhile]
  next =>
    cases h
    exact ⟨[], .whole, rfl⟩

theorem fraction?_of_text {f rest : List Char} {nano : Nat} (h : FractionText f nano)
    (ends : Ends rest) : fraction? (f ++ rest) = some (nano, rest) := by
  cases h with
  | whole =>
    unfold fraction?
    split
    next t same =>
      have point : rest.head? = some '.' := congrArg List.head? same
      exact absurd rfl (ends '.' point).2
    next => rfl
  | point run =>
    obtain ⟨taken, left⟩ := takeWhile_isDigit_append run.all fun c first => (ends c first).1
    have nonempty := List.isEmpty_eq_false_iff.2 run.nonempty
    simp only [List.cons_append, fraction?, taken, left, nanoseconds_eq run.all, nonempty]
    rfl

section
variable {number? : List Char → Option (Nat × List Char)} {Part : List Char → Nat → Prop}

theorem clockBy?_eq_some_iff {s rest : List Char} {c : Clock} :
    clockBy? number? s = some (c, rest) ↔ c.isValid = true ∧ ∃ s₁ s₂ s₃,
      number? s = some (c.hour, ':' :: s₁) ∧ number? s₁ = some (c.minute, ':' :: s₂) ∧
        number? s₂ = some (c.second, s₃) ∧ fraction? s₃ = some (c.nano, rest) := by
  simp only [clockBy?, Option.bind_eq_bind, Option.bind_eq_some_iff, expect_eq_some_iff,
    Prod.exists]
  constructor
  · rintro ⟨_, _, hour, _, rfl, _, _, minute, _, rfl, _, _, second, _, _, nano, made⟩
    obtain ⟨valid, made⟩ := Option.ite_none_right_eq_some.1 made
    cases made
    exact ⟨valid, _, _, _, hour, minute, second, nano⟩
  · rintro ⟨valid, _, _, _, hour, minute, second, nano⟩
    exact ⟨_, _, hour, _, rfl, _, _, minute, _, rfl, _, _, second, _, _, nano, if_pos valid⟩

theorem text_of_clockBy? (number : Reads number? Part) {s rest : List Char} {c : Clock}
    (h : clockBy? number? s = some (c, rest)) : ∃ cs, ClockBy Part cs c ∧ s = cs ++ rest := by
  obtain ⟨valid, s₁, s₂, s₃, read_hour, read_minute, read_second, read_nano⟩ :=
    clockBy?_eq_some_iff.1 h
  obtain ⟨hh, hours, rfl⟩ := (number.before rfl).1 read_hour
  obtain ⟨mm, minutes, rfl⟩ := (number.before rfl).1 read_minute
  obtain ⟨ss, seconds, rfl, -⟩ := (number _ _ _).1 read_second
  obtain ⟨f, fraction, rfl⟩ := text_of_fraction? read_nano
  refine ⟨hh ++ ':' :: (mm ++ ':' :: (ss ++ f)), ?_, by simp⟩
  exact .intro hours minutes seconds fraction valid

theorem clockBy?_of_text (number : Reads number? Part) {cs rest : List Char} {c : Clock}
    (h : ClockBy Part cs c) (ends : Ends rest) :
    clockBy? number? (cs ++ rest) = some (c, rest) := by
  cases h with
  | @intro hh mm ss f _ _ _ _ hours minutes seconds fraction valid =>
    apply clockBy?_eq_some_iff.2
    refine ⟨valid, mm ++ ':' :: (ss ++ (f ++ rest)), ss ++ (f ++ rest), f ++ rest, ?_, ?_, ?_, ?_⟩
    · exact (number.before rfl).2 ⟨hh, hours, by simp⟩
    · exact (number.before rfl).2 ⟨mm, minutes, rfl⟩
    · exact (number.before (fraction.startsWithDigit_append ends)).2 ⟨ss, seconds, rfl⟩
    · exact fraction?_of_text fraction ends

end

/-! ### Offsets -/

theorem offsetSign?_eq_some_iff {c : Char} {negative : Bool} : offsetSign? c = some negative ↔
    c = '+' ∧ negative = false ∨ (c = '-' ∨ c = '\u2212') ∧ negative = true := by
  unfold offsetSign?
  split
  next plus =>
    subst plus
    simp [eq_comm]
  next other => simp [other, eq_comm]

/-- Two numbers of two digits behind a sign are an offset. -/
theorem offset?_of_sign {sign : Char} {negative : Bool} {h m rest : List Char} {hour minute : Nat}
    (signs : offsetSign? sign = some negative) (hours : FixedNumber 2 h hour)
    (minutes : FixedNumber 2 m minute) (day : hour < 24) (full : minute < 60) :
    offset? (sign :: (h ++ ':' :: m) ++ rest) =
      some (signed negative (60 * hour + minute), rest) := by
  have letter : ¬(sign = 'Z' ∨ sign = 'z') := by
    rintro (rfl | rfl) <;> cases signs
  have read_hour : digits? 2 2 (h ++ ':' :: m ++ rest) = some (hour, ':' :: (m ++ rest)) :=
    digits?_fixed_eq_some_iff.2 ⟨h, hours, by simp⟩
  have read_minute : digits? 2 2 (m ++ rest) = some (minute, rest) :=
    digits?_fixed_eq_some_iff.2 ⟨m, minutes, rfl⟩
  rw [List.cons_append, offset?, if_neg letter, signs]
  simp only [Option.bind_eq_bind, Option.bind_some, read_hour, expect_eq_some_iff.2 rfl,
    read_minute]
  exact if_pos ⟨day, full⟩

theorem offset?_eq_some_iff {s rest : List Char} {minutes : Int} :
    offset? s = some (minutes, rest) ↔ ∃ os, OffsetText os minutes ∧ s = os ++ rest := by
  constructor
  · intro h
    unfold offset? at h
    split at h
    next => cases h
    next c t =>
      split at h
      next zulu =>
        cases h
        exact ⟨[c], .utc zulu, rfl⟩
      next =>
        simp only [Option.bind_eq_bind, Option.bind_eq_some_iff, expect_eq_some_iff,
          Prod.exists] at h
        obtain ⟨negative, sign, hour, _, read_hour, _, rfl, minute, _, read_minute, made⟩ := h
        obtain ⟨⟨day, full⟩, made⟩ := Option.ite_none_right_eq_some.1 made
        cases made
        obtain ⟨hh, hours, rfl⟩ := digits?_fixed_eq_some_iff.1 read_hour
        obtain ⟨mm, minutes, rfl⟩ := digits?_fixed_eq_some_iff.1 read_minute
        rcases offsetSign?_eq_some_iff.1 sign with ⟨rfl, rfl⟩ | ⟨minus, rfl⟩
        · exact ⟨'+' :: (hh ++ ':' :: mm), .east hours minutes day full, by simp⟩
        · exact ⟨c :: (hh ++ ':' :: mm), .west minus hours minutes day full, by simp⟩
  · rintro ⟨os, denotes, rfl⟩
    cases denotes with
    | utc zulu => exact if_pos zulu
    | east hours minutes day full =>
      exact offset?_of_sign (offsetSign?_eq_some_iff.2 (.inl ⟨rfl, rfl⟩)) hours minutes day full
    | west minus hours minutes day full =>
      exact offset?_of_sign (offsetSign?_eq_some_iff.2 (.inr ⟨minus, rfl⟩)) hours minutes day full

theorem OffsetText.ends {os : List Char} {minutes : Int} (h : OffsetText os minutes) : Ends os := by
  intro c first
  cases h with
  | utc zulu =>
    cases first
    rcases zulu with rfl | rfl <;> decide
  | east =>
    cases first
    decide
  | west minus =>
    cases first
    rcases minus with rfl | rfl <;> decide

/-! ### Timestamps -/

theorem timeMark?_eq_some_iff {s rest : List Char} : timeMark? s = some rest ↔
    ∃ mark, (mark = 'T' ∨ mark = 't' ∨ mark = ' ') ∧ s = mark :: rest := by
  unfold timeMark?
  constructor
  · intro h
    obtain upper | ⟨-, h⟩ := Option.or_eq_some_iff.1 h
    · exact ⟨'T', .inl rfl, expect_eq_some_iff.1 upper⟩
    obtain lower | ⟨-, space⟩ := Option.or_eq_some_iff.1 h
    · exact ⟨'t', .inr (.inl rfl), expect_eq_some_iff.1 lower⟩
    · exact ⟨' ', .inr (.inr rfl), expect_eq_some_iff.1 space⟩
  · rintro ⟨mark, rfl | rfl | rfl, rfl⟩ <;> rfl

theorem strictTimestamp?_eq_some_iff {s : List Char} {u : Timestamp} :
    complete? (strictTimestamp? s) = some u ↔
      ∃ t minutes, ShiftedText s t minutes ∧ u = t.earlier minutes := by
  simp only [complete?_eq_some_iff, strictTimestamp?, Option.bind_eq_bind, Option.bind_eq_some_iff,
    Prod.exists]
  constructor
  · rintro ⟨date, s₁, read_date, s₂, mark, clock, s₃, read_clock, minutes, s₄, read_offset, made⟩
    cases made
    obtain ⟨mark, marked, rfl⟩ := timeMark?_eq_some_iff.1 mark
    obtain ⟨cs, clocks, rfl⟩ := text_of_clockBy? reads_fixed read_clock
    obtain ⟨os, offset, rfl⟩ := offset?_eq_some_iff.1 read_offset
    obtain ⟨ds, dates, rfl, -⟩ := (reads_strictDate _ _ _).1 read_date
    refine ⟨⟨date, clock⟩, minutes, ?_, rfl⟩
    rw [List.append_nil]
    exact .intro dates marked clocks offset
  · rintro ⟨_, minutes, @⟨ds, cs, os, mark, date, clock, _, dates, marked, clocks, offset⟩, rfl⟩
    have other : startsWithDigit (mark :: (cs ++ os)) = false := by
      rcases marked with rfl | rfl | rfl <;> rfl
    refine ⟨date, _, (reads_strictDate.before other).2 ⟨ds, dates, rfl⟩, cs ++ os, ?_, clock, os,
      ?_, minutes, [], ?_, rfl⟩
    · exact timeMark?_eq_some_iff.2 ⟨mark, marked, rfl⟩
    · exact clockBy?_of_text reads_fixed clocks offset.ends
    · exact offset?_eq_some_iff.2 ⟨os, offset, (List.append_nil os).symm⟩

theorem looseTimestamp?_eq_some_iff {between? : List Char → Option (List Char)} {mark : List Char}
    (between : ∀ r r', between? r = some r' ↔ r = mark ++ r') {s : List Char} {t : Timestamp} :
    complete? (looseTimestamp? between? s) = some t ↔ LocalText mark s t := by
  simp only [complete?_eq_some_iff, looseTimestamp?, Option.bind_eq_bind, Option.bind_eq_some_iff,
    Prod.exists, between]
  constructor
  · rintro ⟨date, _, read_date, s₁, rfl, clock, s₂, read_clock, made⟩
    cases made
    obtain ⟨cs, clocks, rfl⟩ := text_of_clockBy? reads_loose read_clock
    rw [List.append_nil] at read_date
    obtain ⟨ds, dates, rfl, stops⟩ := (reads_looseDate _ _ _).1 read_date
    exact .intro dates clocks stops
  · rintro @⟨ds, cs, date, clock, dates, clocks, stops⟩
    refine ⟨date, mark ++ cs, (reads_looseDate _ _ _).2 ⟨ds, dates, rfl, stops⟩, cs, rfl, clock, [],
      ?_, rfl⟩
    have read := clockBy?_of_text reads_loose clocks .nil
    rwa [List.append_nil] at read

/-- Blanks between date and time are the blanks before the hour. -/
theorem clockBy?_trimStart (s : List Char) :
    clockBy? looseNumber? (Text.trimStart s) = clockBy? looseNumber? s := by
  have hour : looseNumber? (Text.trimStart s) = looseNumber? s := by
    unfold looseNumber? Text.trimStart
    rw [List.dropWhile_idempotent]
  unfold clockBy?
  rw [hour]

theorem spacedTimestamp?_eq_some_iff {s : List Char} {t : Timestamp} :
    complete? (looseTimestamp? (fun s => some (Text.trimStart s)) s) = some t ↔
      LocalText [] s t := by
  have trimmed : looseTimestamp? (fun s => some (Text.trimStart s)) s = looseTimestamp? some s := by
    unfold looseTimestamp?
    simp only [Option.bind_eq_bind, Option.bind_some, clockBy?_trimStart]
  rw [trimmed]
  apply looseTimestamp?_eq_some_iff
  intro r r'
  simp

theorem markedTimestamp?_eq_some_iff {s : List Char} {t : Timestamp} :
    complete? (looseTimestamp? (expect 'T') s) = some t ↔ LocalText ['T'] s t := by
  apply looseTimestamp?_eq_some_iff
  intro r r'
  exact expect_eq_some_iff

/-- What is read as a timestamp is the point in time that the text denotes. -/
theorem text_of_timestamp? {s : List Char} {t : Timestamp} (h : timestamp? s = some t) :
    TimestampText s t.instant := by
  unfold timestamp? at h
  obtain strict | ⟨-, h⟩ := Option.or_eq_some_iff.1 h
  · obtain ⟨u, minutes, text, rfl⟩ := strictTimestamp?_eq_some_iff.1 strict
    obtain ⟨west, east⟩ := text.bounds
    rw [Timestamp.instant_earlier text.isValid west east]
    exact .shifted text
  obtain blanks | ⟨-, h⟩ := Option.or_eq_some_iff.1 h
  · exact .spaced (spacedTimestamp?_eq_some_iff.1 blanks)
  obtain mark | ⟨-, h⟩ := Option.or_eq_some_iff.1 h
  · exact .marked (markedTimestamp?_eq_some_iff.1 mark)
  · obtain ⟨date, read, rfl⟩ := Option.map_eq_some_iff.1 h
    exact .midnight (date?_eq_some_iff.1 read)

/-! A text of one form lacks the colons and letters of the others, so their readers fail. -/

theorem strict_none {s : List Char}
    (other : ∀ c, marks s ≠ ['T', ':', ':', c] ∧ marks s ≠ [':', ':', c]) :
    complete? (strictTimestamp? s) = none := by
  apply Option.eq_none_iff_forall_ne_some.2
  intro u read
  obtain ⟨t, minutes, text, -⟩ := strictTimestamp?_eq_some_iff.1 read
  obtain ⟨c, full | short⟩ := text.marks_eq
  · exact (other c).1 full
  · exact (other c).2 short

theorem spaced_none {s : List Char} (other : marks s ≠ [':', ':']) :
    complete? (looseTimestamp? (fun s => some (Text.trimStart s)) s) = none := by
  apply Option.eq_none_iff_forall_ne_some.2
  intro t read
  exact other (spacedTimestamp?_eq_some_iff.1 read).marks_eq

theorem marked_none {s : List Char} (other : marks s ≠ ['T', ':', ':']) :
    complete? (looseTimestamp? (expect 'T') s) = none := by
  apply Option.eq_none_iff_forall_ne_some.2
  intro t read
  exact other (markedTimestamp?_eq_some_iff.1 read).marks_eq

/-- The point in time that a text denotes is read: the readers of the forms before its own fail. -/
theorem timestamp?_of_text {s : List Char} {i : Instant} (h : TimestampText s i) :
    ∃ t, timestamp? s = some t ∧ t.instant = i := by
  cases h with
  | @shifted t minutes text =>
    obtain ⟨west, east⟩ := text.bounds
    refine ⟨t.earlier minutes, ?_, Timestamp.instant_earlier text.isValid west east⟩
    unfold timestamp?
    rw [strictTimestamp?_eq_some_iff.2 ⟨t, minutes, text, rfl⟩]
    rfl
  | @spaced t text =>
    have found : marks s = [':', ':'] := text.marks_eq
    refine ⟨t, ?_, rfl⟩
    unfold timestamp?
    rw [strict_none (by simp [found]), spacedTimestamp?_eq_some_iff.2 text]
    rfl
  | @marked t text =>
    have found : marks s = ['T', ':', ':'] := text.marks_eq
    refine ⟨t, ?_, rfl⟩
    unfold timestamp?
    rw [strict_none (by simp [found]), spaced_none (by simp [found]),
      markedTimestamp?_eq_some_iff.2 text]
    rfl
  | @midnight date text =>
    have found : marks s = [] := text.marks_eq
    refine ⟨⟨date, .midnight⟩, ?_, rfl⟩
    unfold timestamp?
    rw [strict_none (by simp [found]), spaced_none (by simp [found]), marked_none (by simp [found]),
      date?_eq_some_iff.2 text]
    rfl

end QueryPlan.Calendar
