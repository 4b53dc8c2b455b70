import QueryPlan.Proofs.Decimals

/-!
# Integers written as decimals

A page number with a point or an exponent is rounded to a floating-point number before it is looked
at: what is read is the integer that this number is, if it is one. So a numeral is read as what it
denotes just if rounding keeps that (`decimal_page_exact_iff`).
-/

namespace QueryPlan
set_option autoImplicit false
open Number

/-! ### Marks -/

namespace Number

/-- A text has a point or the mark of an exponent. -/
def HasMark (s : List Char) : Prop :=
  ∃ c ∈ s, c = '.' ∨ c = 'e' ∨ c = 'E'

/-- Numerals without a point or an exponent consist of digits behind a sign. -/
theorem IsNumeral.mem {s : List Char} {n : Int} (h : IsNumeral s n) {c : Char} (member : c ∈ s) :
    c.isDigit = true ∨ c = '+' ∨ c = '-' := by
  cases h with
  | unsigned run => exact .inl (run.all c member)
  | plus run =>
    rcases List.mem_cons.1 member with rfl | member
    · exact .inr (.inl rfl)
    · exact .inl (run.all c member)
  | minus run =>
    rcases List.mem_cons.1 member with rfl | member
    · exact .inr (.inr rfl)
    · exact .inl (run.all c member)

/-- What has a point or an exponent is no integer numeral. -/
theorem HasMark.integer?_eq_none {s : List Char} (marked : HasMark s) : integer? s = none := by
  cases read : integer? s with
  | none => rfl
  | some n =>
    obtain ⟨c, member, mark⟩ := marked
    rcases (integer?_eq_some_iff.1 read).mem member with digit | rfl | rfl
    · rcases mark with rfl | rfl | rfl <;> cases digit
    · simp at mark
    · simp at mark

end Number

/-! ### Integers among floating-point numbers -/

namespace Number.Binary64

/-- A number with its scale taken apart into a factor and a divisor. -/
theorem value_eq_iff_mul_pow (x : Binary64) (n : ℤ) :
    x.value = n ↔ (x.significand : ℤ) * 2 ^ x.scale.toNat =
      (if x.isNegative then -n else n) * 2 ^ (-x.scale).toNat := by
  have shift := zpow_mul_toNat (b := 2) two_ne_zero x.scale
  have power_ne : (2 : ℚ) ^ (-x.scale).toNat ≠ 0 := by positivity
  have scaled : x.value * 2 ^ (-x.scale).toNat =
      sign x.isNegative * (x.significand * 2 ^ x.scale.toNat) := by
    rw [value, mul_assoc, mul_assoc, shift]
  rw [← mul_left_inj' power_ne, scaled, ← Int.cast_inj (α := ℚ)]
  push_cast
  cases x.isNegative with
  | false => simp [sign]
  | true =>
    simp only [sign, if_true, neg_mul, one_mul]
    exact neg_eq_iff_eq_neg

/-- The integer that a finite number is, if it is one. -/
theorem whole?_eq_some_iff {x : Binary64} (finite : x.isFinite = true) {n : ℤ} :
    x.whole? = some n ↔ x.value = n := by
  have one_sided : x.scale.toNat = 0 ∨ (-x.scale).toNat = 0 := by omega
  rw [value_eq_iff_mul_pow]
  unfold whole?
  rw [if_pos finite]
  dsimp only
  generalize x.scale.toNat = up at *
  generalize (-x.scale).toNat = down at *
  have positive : 0 < Nat.pow 2 down := Nat.pow_pos (by decide)
  by_cases divides : x.significand % Nat.pow 2 down = 0
  · obtain ⟨q, whole⟩ := Nat.dvd_of_mod_eq_zero divides
    have cancel (k : ℤ) : ((Nat.pow 2 down * q : Nat) : ℤ) * 2 ^ up = k * 2 ^ down ↔
        ((q * Nat.pow 2 up : Nat) : ℤ) = k := by
      have power_ne : (2 : ℤ) ^ down ≠ 0 := by positivity
      have power (i : Nat) : ((Nat.pow 2 i : Nat) : ℤ) = 2 ^ i := by exact_mod_cast rfl
      rw [Nat.cast_mul, Nat.cast_mul, power, power, mul_assoc, mul_comm k]
      exact mul_right_inj' power_ne
    rw [if_pos divides, whole, Nat.mul_div_cancel_left _ positive, cancel, Option.some_inj]
    cases x.isNegative with
    | false => exact Iff.rfl
    | true => exact neg_eq_iff_eq_neg
  · rw [if_neg divides]
    refine iff_of_false nofun fun same => divides ?_
    rcases one_sided with rfl | rfl
    · have multiple : x.significand = (if x.isNegative then -n else n).natAbs * 2 ^ down := by
        have sizes := congrArg Int.natAbs same
        rwa [Int.natAbs_mul, Int.natAbs_mul, Int.natAbs_pow, Int.natAbs_pow, Int.natAbs_natCast,
          pow_zero, mul_one] at sizes
      rw [multiple]
      exact Nat.mul_mod_left _ _
    · exact Nat.mod_one _

/-- Numbers are far apart among large ones. -/
theorem exists_multiple_of_large {x : Binary64} (large : 2 ^ 62 ≤ |x.value|) :
    ∃ k : ℤ, x.value = (k * 1024 : ℤ) := by
  rcases x.value_grid 10 with ⟨k, multiple⟩ | ⟨-, small⟩
  · refine ⟨k, ?_⟩
    rw [multiple]
    push_cast
    norm_num
  · rw [fractionSpan_eq] at small
    norm_num at small large
    linarith

/-- Two to the power of 63 is a floating-point number, and so is its opposite. -/
theorem value_of_power (negative : Bool) :
    (ofMagnitude negative 0x43E0000000000000).isFinite = true ∧
      (ofMagnitude negative 0x43E0000000000000).value = sign negative * 2 ^ 63 := by
  have significand : (ofMagnitude negative 0x43E0000000000000).significand = 2 ^ 52 := by
    cases negative <;> decide
  have scale : (ofMagnitude negative 0x43E0000000000000).scale = 11 := by
    cases negative <;> decide
  have side : (ofMagnitude negative 0x43E0000000000000).isNegative = negative := by
    cases negative <;> decide
  refine ⟨by cases negative <;> decide, ?_⟩
  rw [value, significand, scale, side]
  norm_num

namespace IsNearest
variable {x : Binary64} {r : ℚ} (h : IsNearest x r)
include h

/-- What is nearest to a number from the greatest word on is an integer that is not below it. -/
theorem maxSigned_le (large : (maxSigned : ℚ) ≤ r) : ∃ n : ℤ, x.value = n ∧ maxSigned ≤ n := by
  obtain ⟨finite, power⟩ := value_of_power false
  have distance := h.le _ finite
  rw [power, sign, if_neg Bool.false_ne_true, one_mul] at distance
  have bound : (2 : ℚ) ^ 63 - 2 ≤ x.value := by
    have word : (maxSigned : ℚ) = 2 ^ 63 - 1 := by norm_num [maxSigned]
    have close := (abs_le.1 distance).1
    rcases le_total r (2 ^ 63) with below | above
    · rw [abs_of_nonneg (sub_nonneg.2 below)] at close
      linarith
    · rw [abs_of_nonpos (sub_nonpos.2 above)] at close
      linarith
  obtain ⟨k, multiple⟩ := exists_multiple_of_large (x := x) (by
    have := le_abs_self x.value
    linarith)
  refine ⟨k * 1024, multiple, ?_⟩
  have reached : (2 : ℤ) ^ 63 - 2 ≤ k * 1024 := by
    rw [multiple] at bound
    exact_mod_cast bound
  unfold maxSigned
  omega

/-- What is nearest to a number down from the least word is an integer that is not above it. -/
theorem le_minSigned (small : r ≤ minSigned) : ∃ n : ℤ, x.value = n ∧ n ≤ minSigned := by
  obtain ⟨finite, power⟩ := value_of_power true
  have distance := h.le _ finite
  rw [power, sign, if_pos rfl, neg_one_mul] at distance
  have bound : x.value ≤ -2 ^ 63 := by
    have word : (minSigned : ℚ) = -2 ^ 63 := by norm_num [minSigned]
    have close := (abs_le.1 distance).2
    rw [abs_of_nonneg (by linarith)] at close
    linarith
  obtain ⟨k, multiple⟩ := exists_multiple_of_large (x := x) (by
    have := neg_abs_le x.value
    linarith)
  refine ⟨k * 1024, multiple, ?_⟩
  have reached : k * 1024 ≤ -(2 : ℤ) ^ 63 := by
    rw [multiple] at bound
    exact_mod_cast bound
  unfold minSigned
  omega

end IsNearest

/-- Whether rounding a number leaves what is read of it: the number is not changed, or neither it
nor what it is rounded to is an integer, or it is an integer that is read as the least or the
greatest word anyway. -/
def Preserves (x : Binary64) (r : ℚ) : Prop :=
  x.value = r ∨ (x.value.den ≠ 1 ∧ r.den ≠ 1) ∨ (r.den = 1 ∧ (r ≤ minSigned ∨ maxSigned ≤ r))

end Number.Binary64

/-! ### What is read -/

namespace Request
variable {key : String} {v : Json} {r : ℚ}

/-- What a number that is not rounded is read as: the nearest word if it is an integer. -/
def exactField (key : String) (v : Json) (r : ℚ) : Except QueryError (Option Int) :=
  if r.den = 1 then .ok (some (saturate r.num)) else .error (shapeError (.notInteger key v))

theorem exactField_intCast (n : ℤ) : exactField key v n = .ok (some (saturate n)) := by
  rw [exactField, if_pos (Rat.den_intCast n), Rat.num_intCast]

theorem exactField_of_den (fraction : r.den ≠ 1) :
    exactField key v r = .error (shapeError (.notInteger key v)) :=
  if_neg fraction

/-- What reaches one end of the words is read as that end, rounded or not. -/
theorem exists_saturate_of_reaches {x : Binary64} {m : ℤ} (nearest : x.IsNearest m)
    (reaches : (m : ℚ) ≤ minSigned ∨ maxSigned ≤ (m : ℚ)) :
    ∃ n : ℤ, x.value = n ∧ saturate n = saturate m := by
  rcases reaches with small | large
  · obtain ⟨n, value, bound⟩ := nearest.le_minSigned small
    have : m ≤ minSigned := by exact_mod_cast small
    refine ⟨n, value, ?_⟩
    unfold saturate
    omega
  · obtain ⟨n, value, bound⟩ := nearest.maxSigned_le large
    have : maxSigned ≤ m := by exact_mod_cast large
    have : minSigned ≤ maxSigned := by decide
    refine ⟨n, value, ?_⟩
    unfold saturate
    omega

/-- A number and what it is rounded to are read alike just if rounding preserves that. -/
theorem exactField_eq_iff {x : Binary64} (nearest : x.IsNearest r) :
    exactField key v x.value = exactField key v r ↔ x.Preserves r := by
  have integer {q : ℚ} (whole : q.den = 1) : ∃ n : ℤ, q = n :=
    ⟨q.num, ((Rat.den_eq_one_iff q).1 whole).symm⟩
  unfold Binary64.Preserves
  by_cases whole : r.den = 1
  · obtain ⟨m, rfl⟩ := integer whole
    by_cases rounded : x.value.den = 1
    · obtain ⟨n, value⟩ := integer rounded
      rw [value, exactField_intCast, exactField_intCast, Except.ok.injEq, Option.some_inj]
      constructor
      · intro same
        by_cases reaches : m ≤ minSigned ∨ maxSigned ≤ m
        · exact .inr (.inr ⟨whole, by exact_mod_cast reaches⟩)
        · have : n = m := by
            unfold saturate at same
            omega
          exact .inl (by rw [this])
      · rintro (same | ⟨fraction, -⟩ | ⟨-, reaches⟩)
        · rw [Int.cast_inj.1 same]
        · exact absurd (Rat.den_intCast n) fraction
        · obtain ⟨k, again, same⟩ := exists_saturate_of_reaches nearest reaches
          rw [Int.cast_inj.1 (value.symm.trans again), same]
    · have outside : ¬((m : ℚ) ≤ minSigned ∨ maxSigned ≤ (m : ℚ)) := by
        intro reaches
        obtain ⟨n, value, -⟩ := exists_saturate_of_reaches nearest reaches
        exact rounded (value ▸ Rat.den_intCast n)
      have changed : x.value ≠ m := fun same => rounded (same ▸ whole)
      rw [exactField_intCast, exactField_of_den rounded]
      simpa [changed, whole, rounded] using outside
  · by_cases rounded : x.value.den = 1
    · have changed : x.value ≠ r := fun same => whole (same ▸ rounded)
      rw [exactField_of_den whole, exactField, if_pos rounded]
      simp [whole, rounded, changed]
    · rw [exactField_of_den whole, exactField_of_den rounded]
      simp [whole, rounded]

variable {s : String} {d : Decimal}

/-- A text under an integer key is read between its blanks. -/
theorem integerField_text (key : String) (s : String) :
    integerField key (.text s) =
      match wordOfText? (Text.trimChars s.toList) with
      | some n => .ok (some n)
      | none => .error (shapeError (.notInteger key (.text s))) :=
  rfl

/-- A text with a point or an exponent is read as a floating-point number if at all. -/
theorem wordOfText?_of_hasMark {t : List Char} (marked : HasMark t) :
    wordOfText? t = ((finite? t).bind Binary64.whole?).map saturate :=
  wordOfText?_of_not_numeral marked.integer?_eq_none

theorem finite?_of_decimal {t : List Char} (read : decimal? t = some d)
    (finite : d.toBinary64.isFinite = true) : finite? t = some d.toBinary64 := by
  rw [finite?, read]
  exact Option.filter_eq_some_iff.2 ⟨rfl, finite⟩

/-- A finite number is read without any more rounding. -/
theorem exactField_value {x : Binary64} (finite : x.isFinite = true) :
    exactField key v x.value =
      match x.whole?.map saturate with
      | some n => .ok (some n)
      | none => .error (shapeError (.notInteger key v)) := by
  cases whole : x.whole? with
  | some n =>
    rw [(Binary64.whole?_eq_some_iff finite).1 whole, exactField_intCast]
    rfl
  | none =>
    apply exactField_of_den
    intro integer
    have value := (Binary64.whole?_eq_some_iff finite).2 ((Rat.den_eq_one_iff _).1 integer).symm
    rw [whole] at value
    cases value

/-- A decimal is read as the number that it is rounded to. -/
theorem integerField_of_finite (marked : HasMark (Text.trimChars s.toList))
    (read : decimal? (Text.trimChars s.toList) = some d) (finite : d.toBinary64.isFinite = true) :
    integerField key (.text s) = exactField key (.text s) d.toBinary64.value := by
  rw [integerField_text, wordOfText?_of_hasMark marked, finite?_of_decimal read finite,
    exactField_value finite]
  rfl

/-- A text that is no numeral, or rounded to no finite number, is refused. -/
theorem integerField_of_none (marked : HasMark (Text.trimChars s.toList))
    (unread : finite? (Text.trimChars s.toList) = none) :
    integerField key (.text s) = .error (shapeError (.notInteger key (.text s))) := by
  rw [integerField_text, wordOfText?_of_hasMark marked, unread]
  rfl

end Request

/-- **Decimals are read as what they are rounded to.** A text with a point or an exponent is refused
if it is no decimal numeral, or denotes a number that is rounded to none that is finite. Any other
one is read as the floating-point number nearest to what it denotes: as the nearest word if that
number is an integer, and not at all if it is not. So what is read is what the text denotes just if
rounding preserves that; an integer too large to be rounded is refused, and not read as the greatest
word. -/
theorem decimal_page_exact_iff {s : String} (marked : HasMark (Text.trimChars s.toList))
    (key : String) :
    ((¬∃ r, IsDecimal (Text.trimChars s.toList) r) →
      Request.integerField key (.text s) =
        .error (Request.shapeError (.notInteger key (.text s)))) ∧
    ∀ r, IsDecimal (Text.trimChars s.toList) r →
      (2 ^ 1024 - 2 ^ 970 ≤ |r| →
        Request.integerField key (.text s) =
          .error (Request.shapeError (.notInteger key (.text s))) ∧
        (Request.integerField key (.text s) = Request.exactField key (.text s) r ↔ r.den ≠ 1)) ∧
      (|r| < 2 ^ 1024 - 2 ^ 970 →
        ∃ x : Binary64, x.IsNearest r ∧
          Request.integerField key (.text s) = Request.exactField key (.text s) x.value ∧
          (Request.integerField key (.text s) = Request.exactField key (.text s) r ↔
            x.Preserves r)) := by
  constructor
  · intro none
    apply Request.integerField_of_none marked
    cases read : decimal? (Text.trimChars s.toList) with
    | none => rw [finite?, read]; rfl
    | some d => exact absurd ⟨d.value, isDecimal_iff.2 ⟨d, read, rfl⟩⟩ none
  · intro r denotes
    obtain ⟨d, read, rfl⟩ := isDecimal_iff.1 denotes
    constructor
    · intro large
      have infinite : ¬d.toBinary64.isFinite = true :=
        fun finite => absurd (d.isFinite_toBinary64.1 finite) (not_lt.2 large)
      have refused : Request.integerField key (.text s) = _ :=
        Request.integerField_of_none marked (by
          rw [finite?, read]
          exact Option.filter_eq_none_iff.2 fun x same => by
            cases same
            exact infinite)
      refine ⟨refused, ?_⟩
      rw [refused, Request.exactField]
      split
      · next integer => simp [integer]
      · next fraction => simp [fraction]
    · intro small
      have finite := d.isFinite_toBinary64.2 small
      have nearest := d.isNearest_toBinary64 finite
      have rounded : Request.integerField key (.text s) =
          Request.exactField key (.text s) d.toBinary64.value :=
        Request.integerField_of_finite marked read finite
      refine ⟨d.toBinary64, nearest, rounded, ?_⟩
      rw [rounded]
      exact Request.exactField_eq_iff nearest

/-- A page number with blanks, a sign, a point and an exponent. -/
theorem exponent_page_read :
    HasMark (Text.trimChars " +2.50e1 ".toList) ∧
    IsDecimal (Text.trimChars " +2.50e1 ".toList) 25 ∧
    Request.integerField "page" (.text " +2.50e1 ") = .ok (some 25) := by
  have marked : HasMark (Text.trimChars " +2.50e1 ".toList) :=
    ⟨'.', by decide +kernel, .inl rfl⟩
  have denotes : IsDecimal (Text.trimChars " +2.50e1 ".toList) 25 :=
    isDecimal_iff.2 ⟨⟨false, 250, -1⟩, by decide +kernel, by
      norm_num [Decimal.value, Binary64.sign]⟩
  have small : |(25 : ℚ)| < 2 ^ 1024 - 2 ^ 970 := by
    rw [abs_of_pos (by norm_num), lt_sub_iff_add_lt]
    exact_mod_cast (show 25 + 2 ^ 970 < 2 ^ 1024 by decide +kernel)
  have exact_number : Binary64.value ⟨0x4039000000000000⟩ = 25 := by
    have negative : Binary64.isNegative ⟨0x4039000000000000⟩ = false := by decide
    have significand : Binary64.significand ⟨0x4039000000000000⟩ = 25 * 2 ^ 48 := by decide
    have scale : Binary64.scale ⟨0x4039000000000000⟩ = -48 := by decide
    rw [Binary64.value, negative, significand, scale]
    norm_num [Binary64.sign]
  obtain ⟨x, nearest, -, exactly⟩ :=
    ((decimal_page_exact_iff marked "page").2 25 denotes).2 small
  have kept : x.value = 25 :=
    nearest.value_eq_iff.2 ⟨⟨0x4039000000000000⟩, by decide, exact_number⟩
  exact ⟨marked, denotes, (exactly.2 (.inl kept)).trans (Request.exactField_intCast 25)⟩

/-- A number that is close to an integer is read as that integer, an integer between two
floating-point numbers as one of them, and one that is too large is refused. -/
theorem near_integer_accepted :
    (∃ r, IsDecimal (Text.trimChars "1.00000000000000000001".toList) r ∧ r.den ≠ 1 ∧
      Request.integerField "page" (.text "1.00000000000000000001") = .ok (some 1)) ∧
    (IsDecimal (Text.trimChars "9007199254740993.0".toList) 9007199254740993 ∧
      Request.integerField "page" (.text "9007199254740993.0") = .ok (some 9007199254740992)) ∧
    (IsDecimal (Text.trimChars "1e400".toList) (10 ^ 400) ∧
      Request.integerField "page" (.text "1e400") =
        .error (Request.shapeError (.notInteger "page" (.text "1e400")))) := by
  have close : Decimal.value ⟨false, 100000000000000000001, -20⟩ = 1 + 1 / 10 ^ 20 := by
    norm_num [Decimal.value, Binary64.sign]
  have between : Decimal.value ⟨false, 90071992547409930, -1⟩ = 9007199254740993 := by
    norm_num [Decimal.value, Binary64.sign]
  have large : Decimal.value ⟨false, 1, 400⟩ = 10 ^ 400 := by
    norm_num [Decimal.value, Binary64.sign]
  have read {s : String} {n : Int} (word : Request.wordOfText? (Text.trimChars s.toList) = some n) :
      Request.integerField "page" (.text s) = .ok (some n) := by
    rw [Request.integerField_text, word]
  have refused : Request.wordOfText? (Text.trimChars "1e400".toList) = none := by decide +kernel
  refine ⟨⟨1 + 1 / 10 ^ 20, ?_, by decide +kernel, read (by decide +kernel)⟩,
    ⟨?_, read (by decide +kernel)⟩, ?_, ?_⟩
  · exact isDecimal_iff.2 ⟨_, by decide +kernel, close⟩
  · exact isDecimal_iff.2 ⟨_, by decide +kernel, between⟩
  · exact isDecimal_iff.2 ⟨_, by decide +kernel, large⟩
  · rw [Request.integerField_text, refused]

end QueryPlan
