import Mathlib.Data.Char
import Mathlib.Data.List.Lex
import Mathlib.Data.Prod.Lex
import QueryPlan.Proofs.Calendar.Canonical

/-!
# Canonical texts in the order of time

Texts are ordered by their bytes from the left, and points in time as they follow each other. For
canonical texts with years of four digits both are the same order (`Timestamp.utf8_lt_iff`,
`Date.utf8_lt_iff`). All fields but the last have a fixed width and most significant digits first.
The fraction at the end has a width of its own, but what it leaves out are zeros, which no text can
precede (`fractionChars_mono`).
-/

namespace QueryPlan
set_option autoImplicit false
open Number

/-! ### Order of lists -/

/-- What keeps and reflects the order of items does so for lists of them. -/
theorem map_lt_map_iff {α β : Type} [LT α] [LT β] {f : α → β} (order : ∀ x y, f x < f y ↔ x < y)
    (injective : Function.Injective f) {a b : List α} : a.map f < b.map f ↔ a < b := by
  induction a generalizing b with
  | nil => cases b <;> simp
  | cons x a ih =>
    cases b with
    | nil => simp
    | cons y b => simp only [List.map_cons, List.cons_lt_cons_iff, order, injective.eq_iff, ih]

section
variable {α : Type} [LinearOrder α] {a b x y : List α}

theorem append_lt_append_iff (length : a.length = b.length) :
    a ++ x < b ++ y ↔ a < b ∨ a = b ∧ x < y := by
  induction a generalizing b with
  | nil =>
    obtain rfl := List.length_eq_zero_iff.1 length.symm
    simp
  | cons c a ih =>
    cases b with
    | nil => cases length
    | cons d b =>
      simp only [List.cons_append, List.cons_lt_cons_iff, ih (Nat.succ.inj length),
        List.cons.injEq]
      tauto

/-- What follows has no part in the order unless the larger list goes on where the other ends. -/
theorem lt_of_append_lt (h : a ++ x < b ++ y) (longer : ¬ b <+: a) : a < b := by
  induction b generalizing a with
  | nil => exact absurd List.nil_prefix longer
  | cons d b ih =>
    cases a with
    | nil => exact List.nil_lt_cons d b
    | cons c a =>
      simp only [List.cons_append, List.cons_lt_cons_iff] at h ⊢
      refine h.imp_right fun ⟨same, rest⟩ => ⟨same, ih rest ?_⟩
      rintro ⟨more, rfl⟩
      exact longer ⟨more, by simp [same]⟩

end

/-! ### Bytes -/

namespace Text

/-- The UTF-8 bytes of a text. -/
def utf8 (s : String) : List UInt8 := s.toUTF8.data.toList

/-- Whether every character of a text is one byte. -/
def IsAscii (l : List Char) : Prop := ∀ c ∈ l, c.toNat < 128

theorem IsAscii.append {l m : List Char} (hl : IsAscii l) (hm : IsAscii m) : IsAscii (l ++ m) :=
  List.forall_mem_append.2 ⟨hl, hm⟩

theorem IsAscii.cons {c : Char} {l : List Char} (hc : c.toNat < 128) (hl : IsAscii l) :
    IsAscii (c :: l) :=
  List.forall_mem_cons.2 ⟨hc, hl⟩

theorem utf8_ofList (l : List Char) : utf8 (String.ofList l) = l.flatMap String.utf8EncodeChar := by
  simp [utf8, String.toByteArray_ofList, List.utf8Encode]

theorem utf8EncodeChar_ascii {c : Char} (ascii : c.toNat < 128) :
    (String.utf8EncodeChar c).map UInt8.toNat = [c.toNat] := by
  have code : c.val.toNat = c.toNat := rfl
  have one : c.utf8Size = 1 := by
    rw [Char.utf8Size_eq_one_iff, UInt32.le_iff_toNat_le, code]
    exact Nat.le_of_lt_succ ascii
  rw [String.utf8EncodeChar_eq_singleton one, List.map_singleton, UInt32.toNat_toUInt8, code,
    Nat.mod_eq_of_lt (by omega)]

theorem codes_utf8 {l : List Char} (ascii : IsAscii l) :
    (utf8 (String.ofList l)).map UInt8.toNat = l.map Char.toNat := by
  rw [utf8_ofList]
  induction l with
  | nil => rfl
  | cons c l ih =>
    obtain ⟨head, tail⟩ := List.forall_mem_cons.1 ascii
    rw [List.flatMap_cons, List.map_append, ih tail, utf8EncodeChar_ascii head]
    rfl

/-- The bytes of ASCII texts are in the order of their characters. -/
theorem utf8_lt_iff {l m : List Char} (hl : IsAscii l) (hm : IsAscii m) :
    utf8 (String.ofList l) < utf8 (String.ofList m) ↔ l < m := by
  have bytes : Function.Injective UInt8.toNat := fun _ _ same => UInt8.toNat_inj.1 same
  have chars : Function.Injective Char.toNat := fun _ _ same => Char.toNat_inj.1 same
  rw [← map_lt_map_iff (f := UInt8.toNat) (fun _ _ => Iff.rfl) bytes, codes_utf8 hl, codes_utf8 hm,
    map_lt_map_iff (f := Char.toNat) (fun _ _ => Iff.rfl) chars]

end Text

namespace Calendar

/-! ### Digits -/

theorem digitValue_lt_iff {c d : Char} (hc : c.isDigit = true) (hd : d.isDigit = true) :
    digitValue c < digitValue d ↔ c < d := by
  have low {c : Char} (h : c.isDigit = true) : 0x30 ≤ c.toNat := by
    simp only [Char.isDigit, Bool.and_eq_true, decide_eq_true_eq] at h
    exact h.1
  have first := low hc
  have second := low hd
  have order : c < d ↔ c.toNat < d.toNat := Iff.rfl
  rw [order, digitValue, digitValue]
  omega

theorem ofDigits_cons (c : Char) (l : List Char) :
    ofDigits (c :: l) = 10 ^ l.length * digitValue c + ofDigits l := by
  rw [← List.singleton_append, ofDigits_append]
  simp [ofDigits]

/-- Runs of digits of one length are in the order of the numbers that they denote. -/
theorem digits_lt_iff {l m : List Char} (hl : ∀ c ∈ l, c.isDigit = true)
    (hm : ∀ c ∈ m, c.isDigit = true) (length : l.length = m.length) :
    l < m ↔ ofDigits l < ofDigits m := by
  induction l generalizing m with
  | nil =>
    obtain rfl := List.length_eq_zero_iff.1 length.symm
    simp
  | cons c l ih =>
    cases m with
    | nil => cases length
    | cons d m =>
      obtain ⟨hc, hl⟩ := List.forall_mem_cons.1 hl
      obtain ⟨hd, hm⟩ := List.forall_mem_cons.1 hm
      have same : l.length = m.length := Nat.succ.inj length
      have first : ofDigits l < 10 ^ l.length := ofDigits_lt hl
      have second : ofDigits m < 10 ^ m.length := ofDigits_lt hm
      rw [List.cons_lt_cons_iff, ih hl hm same, ofDigits_cons, ofDigits_cons, same]
      rw [same] at first
      -- The first digits decide unless they are the same: the others cannot make up for one more.
      rcases lt_trichotomy c d with less | rfl | more
      · have gap := Nat.mul_le_mul_left (10 ^ m.length) ((digitValue_lt_iff hc hd).2 less)
        rw [Nat.mul_succ] at gap
        exact iff_of_true (.inl less) (by omega)
      · simp
      · have gap := Nat.mul_le_mul_left (10 ^ m.length) ((digitValue_lt_iff hd hc).2 more)
        rw [Nat.mul_succ] at gap
        refine iff_of_false (fun h => ?_) (by omega)
        rcases h with less | ⟨rfl, -⟩
        · exact lt_asymm less more
        · exact lt_irrefl _ more

/-- Runs of digits of one length that denote the same number are the same. -/
theorem digits_inj {l m : List Char} (hl : ∀ c ∈ l, c.isDigit = true)
    (hm : ∀ c ∈ m, c.isDigit = true) (length : l.length = m.length)
    (value : ofDigits l = ofDigits m) : l = m := by
  rcases lt_trichotomy l m with less | same | more
  · rw [digits_lt_iff hl hm length] at less
    omega
  · exact same
  · rw [digits_lt_iff hm hl length.symm] at more
    omega

section
variable {width m n : Nat}

theorem padded_lt_iff (positive : 0 < width) (hm : m < 10 ^ width) (hn : n < 10 ^ width) :
    padded width m < padded width n ↔ m < n := by
  have length := (length_padded positive hm).trans (length_padded positive hn).symm
  rw [digits_lt_iff (isDigits_padded width m).all (isDigits_padded width n).all length,
    ofDigits_padded, ofDigits_padded]

theorem padded_inj : padded width m = padded width n ↔ m = n := by
  constructor
  · intro same
    rw [← ofDigits_padded width m, same, ofDigits_padded]
  · rintro rfl
    rfl

/-- A field of a fixed width decides before what follows it. -/
theorem padded_append_lt_iff {x y : List Char} (positive : 0 < width) (hm : m < 10 ^ width)
    (hn : n < 10 ^ width) :
    padded width m ++ x < padded width n ++ y ↔ m < n ∨ m = n ∧ x < y := by
  have length := (length_padded positive hm).trans (length_padded positive hn).symm
  rw [append_lt_append_iff length, padded_lt_iff positive hm hn, padded_inj]

end

/-! ### Fractions -/

theorem isDigit_zeros (k : Nat) : ∀ c ∈ zeros k, c.isDigit = true := by
  intro c member
  rw [List.eq_of_mem_replicate member]
  rfl

theorem padded_mul_pow {width rest m : Nat} (positive : 0 < width) (fits : m < 10 ^ width) :
    padded (width + rest) (m * 10 ^ rest) = padded width m ++ zeros rest := by
  have large : m * 10 ^ rest < 10 ^ (width + rest) := by
    rw [Nat.pow_add]
    exact Nat.mul_lt_mul_of_pos_right fits (Nat.pow_pos (by decide))
  have kept := length_padded positive fits
  have whole := length_padded (by omega) large
  apply digits_inj (isDigits_padded _ _).all
  · exact List.forall_mem_append.2 ⟨(isDigits_padded width m).all, isDigit_zeros rest⟩
  · rw [whole, List.length_append, kept, zeros, List.length_replicate]
  · rw [ofDigits_append, ofDigits_padded, ofDigits_padded, ofDigits_zeros, zeros,
      List.length_replicate]
    exact Nat.mul_comm _ _

/-- A fraction leaves out zeros of its nine digits. -/
theorem fractionChars_zeros {n : Nat} (positive : 0 < n) (fits : n < 10 ^ 9) :
    ∃ digits k, Clock.fractionChars n = '.' :: digits ∧ padded 9 n = digits ++ zeros k := by
  unfold Clock.fractionChars
  rw [if_neg (by omega)]
  split
  next milli =>
    have cut : n / 1000000 * 10 ^ 6 = n := by omega
    have places : padded (3 + 6) (n / 1000000 * 10 ^ 6) = padded 3 (n / 1000000) ++ zeros 6 :=
      padded_mul_pow (by decide) (by omega)
    rw [cut] at places
    exact ⟨_, _, rfl, places⟩
  next =>
    split
    next micro =>
      have cut : n / 1000 * 10 ^ 3 = n := by omega
      have places : padded (6 + 3) (n / 1000 * 10 ^ 3) = padded 6 (n / 1000) ++ zeros 3 :=
        padded_mul_pow (by decide) (by omega)
      rw [cut] at places
      exact ⟨_, _, rfl, places⟩
    next => exact ⟨_, 0, rfl, (List.append_nil _).symm⟩

/-- The larger fraction has the later text, however many digits each of them has. -/
theorem fractionChars_mono {m n : Nat} (less : m < n) (fits : n < 10 ^ 9) :
    Clock.fractionChars m < Clock.fractionChars n := by
  obtain ⟨later, k, text, places⟩ := fractionChars_zeros (by omega) fits
  obtain rfl | positive := Nat.eq_zero_or_pos m
  · rw [text]
    exact List.nil_lt_cons _ _
  have fits' : m < 10 ^ 9 := less.trans fits
  obtain ⟨earlier, k', text', places'⟩ := fractionChars_zeros positive fits'
  have order : padded 9 m < padded 9 n := (padded_lt_iff (by decide) fits' fits).2 less
  have digits := (isDigits_padded 9 m).all
  have length : (padded 9 m).length = (padded 9 n).length :=
    (length_padded (by decide) fits').trans (length_padded (by decide) fits).symm
  rw [places, places'] at order length
  rw [places'] at digits
  rw [text, text', List.cons_lt_cons_self]
  apply lt_of_append_lt order
  -- If the smaller fraction went on behind the larger one, its digits there were less than zeros.
  rintro ⟨more, rfl⟩
  rw [List.append_assoc] at order length digits
  have beyond := ((append_lt_append_iff rfl).1 order).resolve_left (lt_irrefl _)
  have same : (more ++ zeros k').length = (zeros k).length := by
    simpa using length
  have less := (digits_lt_iff (List.forall_mem_append.1 digits).2 (isDigit_zeros k) same).1 beyond.2
  rw [ofDigits_zeros] at less
  exact Nat.not_lt_zero _ less

theorem fractionChars_lt_iff {m n : Nat} (hm : m < 10 ^ 9) (hn : n < 10 ^ 9) :
    Clock.fractionChars m < Clock.fractionChars n ↔ m < n := by
  constructor
  · intro h
    rcases Nat.lt_trichotomy m n with less | rfl | more
    · exact less
    · exact absurd h (lt_irrefl _)
    · exact absurd h (lt_asymm (fractionChars_mono more hm))
  · exact fun less => fractionChars_mono less hn

/-! ### Dates -/

/-- Whether the year of a date is written as four digits. -/
def Date.FourDigits (d : Date) : Prop := 0 ≤ d.year ∧ d.year ≤ 9999

namespace Date
variable {d e : Date}

theorem dayNumber_eq_iff (hd : d.isValid = true) (he : e.isValid = true) :
    d.dayNumber = e.dayNumber ↔ d.year = e.year ∧ d.month = e.month ∧ d.day = e.day := by
  constructor
  · intro same
    rw [dayNumber_injective hd he same]
    exact ⟨rfl, rfl, rfl⟩
  · rintro ⟨year, month, day⟩
    rw [dayNumber, dayNumber, year, month, day]

/-- Days are counted in the order of the calendar. -/
theorem dayNumber_lt_iff (hd : d.isValid = true) (he : e.isValid = true) :
    d.dayNumber < e.dayNumber ↔ d.year < e.year ∨ d.year = e.year ∧
      (d.month < e.month ∨ d.month = e.month ∧ d.day < e.day) := by
  have forward := dayNumber_lt hd he
  have backward := dayNumber_lt he hd
  have same := dayNumber_eq_iff hd he
  omega

/-- Dates with years of four digits are in the order of their days, before what follows them. -/
theorem chars_append_lt_iff {x y : List Char} (hd : d.isValid = true) (he : e.isValid = true)
    (fd : d.FourDigits) (fe : e.FourDigits) : d.chars ++ x < e.chars ++ y ↔
      d.dayNumber < e.dayNumber ∨ d.dayNumber = e.dayNumber ∧ x < y := by
  have bounds {d : Date} (h : d.isValid = true) : d.month < 10 ^ 2 ∧ d.day < 10 ^ 2 := by
    obtain ⟨-, first, last⟩ := isValid_iff.1 h
    have months := month_of_daysInMonth first last
    have days := daysInMonth_le d.year d.month
    omega
  have text {d : Date} (years : 0 ≤ d.year ∧ d.year ≤ 9999) (x : List Char) : d.chars ++ x =
      padded 4 d.year.natAbs ++ '-' :: (padded 2 d.month ++ '-' :: (padded 2 d.day ++ x)) := by
    rw [chars, yearChars, if_pos years]
    simp
  obtain ⟨month, day⟩ := bounds hd
  obtain ⟨month', day'⟩ := bounds he
  obtain ⟨first, last⟩ := fd
  obtain ⟨first', last'⟩ := fe
  rw [text ⟨first, last⟩, text ⟨first', last'⟩,
    padded_append_lt_iff (by decide) (by omega) (by omega), List.cons_lt_cons_self,
    padded_append_lt_iff (by decide) month month', List.cons_lt_cons_self,
    padded_append_lt_iff (by decide) day day', dayNumber_lt_iff hd he, dayNumber_eq_iff hd he]
  by_cases rest : x < y <;> simp only [rest, and_true, and_false, or_false] <;> omega

theorem chars_lt_iff (hd : d.isValid = true) (he : e.isValid = true) (fd : d.FourDigits)
    (fe : e.FourDigits) : d.chars < e.chars ↔ d.dayNumber < e.dayNumber := by
  have order := chars_append_lt_iff (x := []) (y := []) hd he fd fe
  simpa using order

end Date

/-! ### Timestamps -/

theorem Clock.chars_lt_iff {c c' : Clock} (hc : c.isValid = true) (hc' : c'.isValid = true) :
    c.chars < c'.chars ↔ 60 * c.hour + c.minute < 60 * c'.hour + c'.minute ∨
      60 * c.hour + c.minute = 60 * c'.hour + c'.minute ∧
        (c.second < c'.second ∨ c.second = c'.second ∧ c.nano < c'.nano) := by
  obtain ⟨hour, minute, second, nano⟩ := isValid_iff.1 hc
  obtain ⟨hour', minute', second', nano'⟩ := isValid_iff.1 hc'
  rw [chars, chars, padded_append_lt_iff (by decide) (by omega) (by omega),
    List.cons_lt_cons_self, padded_append_lt_iff (by decide) (by omega) (by omega),
    List.cons_lt_cons_self, padded_append_lt_iff (by decide) (by omega) (by omega),
    fractionChars_lt_iff nano nano']
  omega

/-- Points in time as they follow each other: a leap second comes behind the other seconds of its
minute and before the next minute. -/
def Instant.time (i : Instant) : ℤ ×ₗ ℕ ×ₗ ℕ := toLex (i.minute, toLex (i.second, i.nano))

theorem Instant.time_lt_iff {i j : Instant} : i.time < j.time ↔ i.minute < j.minute ∨
    i.minute = j.minute ∧ (i.second < j.second ∨ i.second = j.second ∧ i.nano < j.nano) := by
  rw [time, time, Prod.Lex.toLex_lt_toLex, Prod.Lex.toLex_lt_toLex]

theorem Instant.time_injective : Function.Injective Instant.time := by
  intro i j same
  cases i
  cases j
  cases same
  rfl

/-- Whether a point in time is in a year that is written as four digits. -/
def Instant.FourDigits (i : Instant) : Prop :=
  ∃ t : Timestamp, t.isValid = true ∧ t.instant = i ∧ t.date.FourDigits

namespace Timestamp
variable {t u : Timestamp}

theorem fourDigits_of_instant (valid : t.isValid = true) (years : t.instant.FourDigits) :
    t.date.FourDigits := by
  obtain ⟨u, other, same, years⟩ := years
  rwa [instant_injective other valid same] at years

theorem chars_lt_iff (ht : t.isValid = true) (hu : u.isValid = true) (ft : t.date.FourDigits)
    (fu : u.date.FourDigits) : t.chars < u.chars ↔ t.instant.time < u.instant.time := by
  obtain ⟨t_date, t_clock⟩ := isValid_iff.1 ht
  obtain ⟨u_date, u_clock⟩ := isValid_iff.1 hu
  have t_ranges := Clock.isValid_iff.1 t_clock
  have u_ranges := Clock.isValid_iff.1 u_clock
  rw [chars, chars, Date.chars_append_lt_iff t_date u_date ft fu, List.cons_lt_cons_self,
    Clock.chars_lt_iff t_clock u_clock, Instant.time_lt_iff]
  simp only [instant]
  omega

end Timestamp

/-! ### Canonical texts are ASCII -/

open Text (IsAscii)

theorem isAscii_digits {l : List Char} (h : IsDigits l) : IsAscii l := by
  intro c member
  have digit := h.all c member
  simp only [Char.isDigit, Bool.and_eq_true, decide_eq_true_eq] at digit
  exact Nat.lt_of_le_of_lt digit.2 (by decide)

theorem isAscii_numeral {l : List Char} {n : Int} (h : IsNumeral l n) : IsAscii l := by
  cases h with
  | unsigned run => exact isAscii_digits run
  | plus run => exact .cons (by decide) (isAscii_digits run)
  | minus run => exact .cons (by decide) (isAscii_digits run)

theorem isAscii_fraction {l : List Char} {nano : Nat} (h : FractionText l nano) : IsAscii l := by
  cases h with
  | whole => exact fun c member => nomatch member
  | point run => exact .cons (by decide) (isAscii_digits run)

theorem isAscii_padded (width n : Nat) : IsAscii (padded width n) :=
  isAscii_digits (isDigits_padded width n)

theorem Date.isAscii_chars (d : Date) : IsAscii d.chars := by
  have year := isAscii_numeral (yearText_yearChars d.year).numeral
  have day := IsAscii.cons (c := '-') (by decide) (isAscii_padded 2 d.day)
  exact year.append (.cons (by decide) ((isAscii_padded 2 d.month).append day))

theorem Timestamp.isAscii_chars {t : Timestamp} (valid : t.isValid = true) : IsAscii t.chars := by
  obtain ⟨-, clock⟩ := isValid_iff.1 valid
  obtain ⟨-, -, -, nano⟩ := Clock.isValid_iff.1 clock
  have fraction := isAscii_fraction (fractionText_fractionChars nano)
  have seconds := (isAscii_padded 2 t.clock.second).append fraction
  have minutes := (isAscii_padded 2 t.clock.minute).append (.cons (c := ':') (by decide) seconds)
  have hours := (isAscii_padded 2 t.clock.hour).append (.cons (c := ':') (by decide) minutes)
  exact t.date.isAscii_chars.append (.cons (by decide) hours)

/-! ### Order of the bytes -/

theorem Date.utf8_lt_iff {d e : Date} (hd : d.isValid = true) (he : e.isValid = true)
    (fd : d.FourDigits) (fe : e.FourDigits) :
    Text.utf8 (String.ofList d.chars) < Text.utf8 (String.ofList e.chars) ↔
      d.dayNumber < e.dayNumber := by
  rw [Text.utf8_lt_iff d.isAscii_chars e.isAscii_chars, chars_lt_iff hd he fd fe]

theorem Timestamp.utf8_lt_iff {t u : Timestamp} (ht : t.isValid = true) (hu : u.isValid = true)
    (ft : t.date.FourDigits) (fu : u.date.FourDigits) :
    Text.utf8 (String.ofList t.chars) < Text.utf8 (String.ofList u.chars) ↔
      t.instant.time < u.instant.time := by
  rw [Text.utf8_lt_iff (isAscii_chars ht) (isAscii_chars hu), chars_lt_iff ht hu ft fu]

end Calendar
end QueryPlan
