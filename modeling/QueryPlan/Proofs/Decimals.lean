import Mathlib.Data.List.TakeWhile
import Mathlib.Data.Rat.Lemmas
import QueryPlan.Proofs.Integers
import QueryPlan.Proofs.Rounding

/-!
# Decimals

The rational number that a decimal numeral denotes, told from its parts: a sign, digits with a point
among them, an exponent. What is read are just the numerals (`isDecimal_iff`), of any length and
with any exponent, and what they are turned into is the floating-point number that is nearest to
what they denote (`Decimal.isNearest_toBinary64`), unless that would be infinite.
-/

namespace QueryPlan.Number
set_option autoImplicit false

/-! ### The grammar -/

/-- The number that digits with an optional point among them denote. -/
inductive IsMantissa : List Char → ℚ → Prop where
  | whole {digits : List Char} (run : IsDigits digits) : IsMantissa digits (ofDigits digits)
  /-- The point may stand before or behind all digits. -/
  | point {whole fraction : List Char} (run : IsDigits (whole ++ fraction)) :
    IsMantissa (whole ++ '.' :: fraction)
      (ofDigits whole + ofDigits fraction / 10 ^ fraction.length)

/-- The power of ten that an exponent stands for; a numeral without one is multiplied by one. -/
inductive IsExponent : List Char → ℤ → Prop where
  | missing : IsExponent [] 0
  | power {mark : Char} {numeral : List Char} {n : ℤ} (marked : mark = 'e' ∨ mark = 'E')
    (denotes : IsNumeral numeral n) : IsExponent (mark :: numeral) n

/-- The number that a decimal numeral without a sign denotes. -/
inductive IsMagnitude : List Char → ℚ → Prop where
  | parts {mantissa exponent : List Char} {m : ℚ} {n : ℤ} (digits : IsMantissa mantissa m)
    (power : IsExponent exponent n) : IsMagnitude (mantissa ++ exponent) (m * 10 ^ n)

/-- The number that a decimal numeral denotes. -/
inductive IsDecimal : List Char → ℚ → Prop where
  | unsigned {s : List Char} {m : ℚ} (magnitude : IsMagnitude s m) : IsDecimal s m
  | plus {s : List Char} {m : ℚ} (magnitude : IsMagnitude s m) : IsDecimal ('+' :: s) m
  | minus {s : List Char} {m : ℚ} (magnitude : IsMagnitude s m) : IsDecimal ('-' :: s) (-m)

/-- The number that a decimal stands for. -/
def Decimal.value (d : Decimal) : ℚ := Binary64.sign d.negative * (d.digits * 10 ^ d.exponent)

/-! ### Reading -/

theorem exponent?_eq_some_iff {s : List Char} {n : ℤ} :
    exponent? s = some n ↔ IsExponent s n := by
  constructor
  · intro h
    cases s with
    | nil =>
      cases h
      exact .missing
    | cons mark numeral =>
      obtain ⟨marked, read⟩ := Option.ite_none_right_eq_some.1 h
      exact .power marked (integer?_eq_some_iff.1 read)
  · intro h
    cases h with
    | missing => rfl
    | power marked denotes =>
      rw [exponent?, if_pos marked]
      exact integer?_eq_some_iff.2 denotes

/-- Whatever stands behind the digits of a mantissa is no digit and no point. -/
theorem IsExponent.head {s : List Char} {n : ℤ} (h : IsExponent s n) :
    ∀ c ∈ s.head?, c.isDigit = false ∧ c ≠ '.' := by
  intro c first
  cases h with
  | missing => cases first
  | power marked denotes =>
    cases first
    rcases marked with rfl | rfl <;> decide

/-- Digits on both sides of a point, as one number and a power of ten. -/
theorem ofDigits_append_mul (whole fraction : List Char) (n : ℤ) :
    (ofDigits (whole ++ fraction) : ℚ) * 10 ^ (n - fraction.length) =
      (ofDigits whole + ofDigits fraction / 10 ^ fraction.length) * 10 ^ n := by
  have shift : (10 : ℚ) ^ (fraction.length : ℤ) ≠ 0 := by positivity
  rw [ofDigits_append, zpow_sub₀ (by norm_num), zpow_natCast]
  rw [zpow_natCast] at shift
  push_cast
  field_simp

/-- A text whose digits are followed by something else than a point has no fraction. -/
theorem unsignedDecimal?_whole {whole rest : List Char} (all : ∀ c ∈ whole, c.isDigit = true)
    (stop : ∀ c ∈ rest.head?, c.isDigit = false ∧ c ≠ '.') :
    unsignedDecimal? (whole ++ rest) =
      if whole = [] then none else (exponent? rest).map fun n => (ofDigits whole, n) := by
  obtain ⟨taken, left⟩ := takeWhile_isDigit_append all fun c first => (stop c first).1
  unfold unsignedDecimal?
  rw [taken, left]
  cases rest with
  | nil => simp
  | cons c rest =>
    have no_point := (stop c rfl).2
    simp [no_point]

theorem unsignedDecimal?_point {whole fraction rest : List Char}
    (all : ∀ c ∈ whole ++ fraction, c.isDigit = true)
    (stop : ∀ c ∈ rest.head?, c.isDigit = false) :
    unsignedDecimal? (whole ++ '.' :: (fraction ++ rest)) =
      if whole ++ fraction = [] then none
      else (exponent? rest).map fun n =>
        (ofDigits (whole ++ fraction), n - (fraction.length : ℤ)) := by
  obtain ⟨whole_all, fraction_all⟩ := List.forall_mem_append.1 all
  have point : ∀ c ∈ ('.' :: (fraction ++ rest)).head?, c.isDigit = false := by
    intro c first
    cases first
    rfl
  obtain ⟨taken, left⟩ := takeWhile_isDigit_append whole_all point
  obtain ⟨taken_after, left_after⟩ := takeWhile_isDigit_append fraction_all stop
  unfold unsignedDecimal?
  rw [taken, left]
  simp [taken_after, left_after]

/-- The digits at the start of a text, those behind a point, and what is left. -/
theorem exists_mantissa (s : List Char) :
    (∃ whole rest, (∀ c ∈ whole, c.isDigit = true) ∧
      (∀ c ∈ rest.head?, c.isDigit = false ∧ c ≠ '.') ∧ s = whole ++ rest) ∨
    ∃ whole fraction rest, (∀ c ∈ whole ++ fraction, c.isDigit = true) ∧
      (∀ c ∈ rest.head?, c.isDigit = false) ∧ s = whole ++ '.' :: (fraction ++ rest) := by
  have digits (t : List Char) : ∀ c ∈ t.takeWhile Char.isDigit, c.isDigit = true :=
    fun c => List.mem_takeWhile_imp
  have stop (t : List Char) : ∀ c ∈ (t.dropWhile Char.isDigit).head?, c.isDigit = false := by
    intro c first
    have other := List.head?_dropWhile_not Char.isDigit t
    rw [first] at other
    simpa using other
  by_cases point : ∃ t, s.dropWhile Char.isDigit = '.' :: t
  · obtain ⟨t, left⟩ := point
    refine .inr ⟨s.takeWhile Char.isDigit, t.takeWhile Char.isDigit, t.dropWhile Char.isDigit,
      List.forall_mem_append.2 ⟨digits s, digits t⟩, stop t, ?_⟩
    rw [List.takeWhile_append_dropWhile, ← left, List.takeWhile_append_dropWhile]
  · refine .inl ⟨s.takeWhile Char.isDigit, s.dropWhile Char.isDigit, digits s, ?_,
      List.takeWhile_append_dropWhile.symm⟩
    refine fun c first => ⟨stop s c first, ?_⟩
    rintro rfl
    obtain ⟨t, left⟩ := List.head?_eq_some_iff.1 first
    exact point ⟨t, left⟩

/-- What is read without a sign are the numerals without a sign. -/
theorem isMagnitude_iff {s : List Char} {m : ℚ} :
    IsMagnitude s m ↔
      ∃ digits n, unsignedDecimal? s = some (digits, n) ∧ (digits : ℚ) * 10 ^ n = m := by
  constructor
  · rintro ⟨mantissa, power⟩
    have read := exponent?_eq_some_iff.2 power
    cases mantissa with
    | whole run =>
      rw [unsignedDecimal?_whole run.all power.head, if_neg run.nonempty, read]
      exact ⟨_, _, rfl, rfl⟩
    | point run =>
      rw [List.append_assoc, List.cons_append,
        unsignedDecimal?_point run.all fun c first => (power.head c first).1,
        if_neg run.nonempty, read]
      exact ⟨_, _, rfl, ofDigits_append_mul _ _ _⟩
  · rintro ⟨digits, n, read, rfl⟩
    rcases exists_mantissa s with ⟨whole, rest, all, stop, rfl⟩ |
      ⟨whole, fraction, rest, all, stop, rfl⟩
    · rw [unsignedDecimal?_whole all stop] at read
      obtain ⟨nonempty, read⟩ := Option.ite_none_left_eq_some.1 read
      obtain ⟨k, power, same⟩ := Option.map_eq_some_iff.1 read
      cases same
      exact .parts (.whole ⟨nonempty, all⟩) (exponent?_eq_some_iff.1 power)
    · rw [unsignedDecimal?_point all stop] at read
      obtain ⟨nonempty, read⟩ := Option.ite_none_left_eq_some.1 read
      obtain ⟨k, power, same⟩ := Option.map_eq_some_iff.1 read
      cases same
      rw [ofDigits_append_mul, ← List.cons_append, ← List.append_assoc]
      exact .parts (.point ⟨nonempty, all⟩) (exponent?_eq_some_iff.1 power)

/-- Nothing that starts with a sign is read as a numeral without one. -/
theorem IsMagnitude.splitSign {s : List Char} {m : ℚ} (h : IsMagnitude s m) :
    splitSign s = (false, s) := by
  obtain ⟨digits, n, read, -⟩ := isMagnitude_iff.1 h
  have unread {c : Char} (other : c.isDigit = false ∧ c ≠ '.') (rest : List Char) :
      unsignedDecimal? (c :: rest) = none := by
    have stop : ∀ d ∈ (c :: rest).head?, d.isDigit = false ∧ d ≠ '.' := by
      intro d first
      cases first
      exact other
    exact @unsignedDecimal?_whole [] _ nofun stop
  rcases splitSign_cases s with ⟨rest, rfl, -⟩ | ⟨rest, rfl, -⟩ | same
  · rw [unread (by decide) rest] at read
    cases read
  · rw [unread (by decide) rest] at read
    cases read
  · exact same

theorem decimal?_eq_map {s rest : List Char} {negative : Bool}
    (split : Number.splitSign s = (negative, rest)) :
    decimal? s = (unsignedDecimal? rest).map fun parts => ⟨negative, parts.1, parts.2⟩ := by
  rw [decimal?, split]

/-- **Decimals are read as what they denote.** What is read are just the numerals. -/
theorem isDecimal_iff {s : List Char} {r : ℚ} :
    IsDecimal s r ↔ ∃ d, decimal? s = some d ∧ d.value = r := by
  constructor
  · intro h
    cases h with
    | unsigned magnitude =>
      obtain ⟨digits, n, read, rfl⟩ := isMagnitude_iff.1 magnitude
      refine ⟨⟨false, digits, n⟩, ?_, one_mul _⟩
      rw [decimal?_eq_map magnitude.splitSign, read]
      rfl
    | plus magnitude =>
      obtain ⟨digits, n, read, rfl⟩ := isMagnitude_iff.1 magnitude
      refine ⟨⟨false, digits, n⟩, ?_, one_mul _⟩
      rw [decimal?_eq_map (splitSign_plus _), read]
      rfl
    | minus magnitude =>
      obtain ⟨digits, n, read, rfl⟩ := isMagnitude_iff.1 magnitude
      refine ⟨⟨true, digits, n⟩, ?_, neg_one_mul _⟩
      rw [decimal?_eq_map (splitSign_minus _), read]
      rfl
  · rintro ⟨d, read, rfl⟩
    rcases splitSign_cases s with ⟨rest, rfl, split⟩ | ⟨rest, rfl, split⟩ | split
    all_goals
      rw [decimal?_eq_map split] at read
      obtain ⟨⟨digits, n⟩, parts, rfl⟩ := Option.map_eq_some_iff.1 read
      have magnitude := isMagnitude_iff.2 ⟨digits, n, parts, rfl⟩
    · rw [Decimal.value, Binary64.sign, if_pos rfl, neg_one_mul]
      exact .minus magnitude
    · rw [Decimal.value, Binary64.sign, if_neg Bool.false_ne_true, one_mul]
      exact .plus magnitude
    · rw [Decimal.value, Binary64.sign, if_neg Bool.false_ne_true, one_mul]
      exact .unsigned magnitude

/-! ### Rounding -/

namespace Binary64

/-- A finite number is the one that is nearest to what it stands for. -/
theorem IsNearest.of_value_eq {x : Binary64} {r : ℚ} (finite : x.isFinite = true)
    (exact_value : x.value = r) : IsNearest x r where
  finite := finite
  le y _ := by
    rw [exact_value, sub_self, abs_zero]
    exact abs_nonneg _
  even y _ other tie := by
    rw [exact_value, sub_self, abs_zero] at tie
    rw [exact_value] at other
    exact absurd (sub_eq_zero.1 (abs_eq_zero.1 tie.symm)) other

/-- The ratio of a decimal that is not zero has no part that is zero. -/
theorem ratio_ne_zero {digits : Nat} (nonzero : digits ≠ 0) (n : ℤ) :
    digits * Nat.pow 10 n.toNat ≠ 0 ∧ Nat.pow 10 (-n).toNat ≠ 0 :=
  ⟨Nat.mul_ne_zero nonzero (Nat.pow_pos (by decide)).ne', (Nat.pow_pos (by decide)).ne'⟩

/-- The digits of a decimal as a ratio. -/
theorem div_pow_ten (digits : Nat) (n : ℤ) :
    ((digits * Nat.pow 10 n.toNat : Nat) : ℚ) / (Nat.pow 10 (-n).toNat : Nat) =
      digits * 10 ^ n := by
  have shift : (10 : ℚ) ^ n * 10 ^ (-n).toNat = 10 ^ n.toNat := zpow_mul_toNat (by norm_num) n
  have denominator : ((Nat.pow 10 (-n).toNat : Nat) : ℚ) = 10 ^ (-n).toNat := by exact_mod_cast rfl
  have numerator : ((digits * Nat.pow 10 n.toNat : Nat) : ℚ) = digits * 10 ^ n.toNat := by
    exact_mod_cast rfl
  rw [numerator, denominator, div_eq_iff (by positivity), mul_assoc, shift]

/-- The number of digits says which powers of ten a number lies between. -/
theorem digitCount_bounds {n : Nat} (nonzero : n ≠ 0) :
    (10 : ℚ) ^ ((digitCount n : ℤ) - 1) ≤ n ∧ (n : ℚ) < 10 ^ (digitCount n : ℤ) := by
  have some_digit : 0 < digitCount n := Nat.length_toDigits_pos
  obtain ⟨k, count⟩ : ∃ k, digitCount n = k + 1 := ⟨digitCount n - 1, by omega⟩
  have below : n < 10 ^ (k + 1) := by
    apply (Nat.length_toDigits_le_iff (b := 10) (by decide) (Nat.succ_pos k)).1
    exact count.le
  have above : 10 ^ k ≤ n := by
    by_contra less
    rcases Nat.eq_zero_or_pos k with rfl | positive
    · omega
    · have short := (Nat.length_toDigits_le_iff (b := 10) (by decide) positive).2 (not_le.1 less)
      have long : (Nat.toDigits 10 n).length = k + 1 := count
      omega
  rw [count, Nat.cast_succ, add_sub_cancel_right, ← Nat.cast_succ, zpow_natCast, zpow_natCast]
  exact ⟨by exact_mod_cast above, by exact_mod_cast below⟩

/-- A ratio below half of the least positive number is rounded to zero. -/
theorem wordOfRatio_of_small {num den : Nat} (hn : num ≠ 0) (hd : den ≠ 0)
    (small : (num : ℚ) / den < 2 ^ (-1075 : ℤ)) : wordOfRatio num den = 0 := by
  obtain ⟨unit, m, scaled, word⟩ := wordOfRatio_isScaled hn hd
  have least : unit = 0 := by
    rcases scaled.full with full | least
    · have positive : (0 : ℚ) < 2 ^ ((unit : ℤ) - 1074) := by positivity
      have reached := (le_div_iff₀ positive).1 full
      have unit_le : (2 : ℚ) ^ (-1075 : ℤ) ≤ 2 ^ ((unit : ℤ) - 1074) :=
        zpow_le_zpow_right₀ one_le_two (by omega)
      rw [fractionSpan_eq] at reached
      linarith
    · exact least
  have below : (num : ℚ) / den / 2 ^ ((unit : ℤ) - 1074) < 1 / 2 := by
    have half : (2 : ℚ) ^ (-1075 : ℤ) = 1 / 2 * 2 ^ (-1074 : ℤ) := by
      rw [show (-1075 : ℤ) = -1 + -1074 by norm_num, zpow_add₀ two_ne_zero, zpow_neg_one, one_div]
    rw [least, Nat.cast_zero, zero_sub, div_lt_iff₀ (by positivity), ← half]
    exact small
  have none : m = 0 := by
    have close := (abs_le.1 scaled.rounded.1).2
    have less : (m : ℚ) < (1 : Nat) := by
      push_cast
      linarith
    have : m < 1 := by exact_mod_cast less
    omega
  rw [word, least, none]
  rfl

/-- The powers that are never formed would make no difference. -/
theorem wordOfDecimal_eq {digits : Nat} (nonzero : digits ≠ 0) (n : ℤ) :
    wordOfDecimal digits n =
      wordOfRatio (digits * Nat.pow 10 n.toNat) (Nat.pow 10 (-n).toNat) := by
  obtain ⟨num_ne, den_ne⟩ := ratio_ne_zero nonzero n
  have ratio := div_pow_ten digits n
  have power_pos : (0 : ℚ) < 10 ^ n := by positivity
  obtain ⟨low, high⟩ := digitCount_bounds nonzero
  unfold wordOfDecimal
  rw [if_neg nonzero]
  dsimp only
  split
  next large =>
    have bound : (2 : ℚ) ^ (1024 : ℤ) ≤ digits * 10 ^ n := by
      calc (2 : ℚ) ^ (1024 : ℤ) ≤ 10 ^ (310 : ℤ) := by
            exact_mod_cast (show 2 ^ 1024 ≤ 10 ^ 310 by decide +kernel)
        _ ≤ 10 ^ ((digitCount digits : ℤ) - 1 + n) :=
          zpow_le_zpow_right₀ (by norm_num) (by omega)
        _ = 10 ^ ((digitCount digits : ℤ) - 1) * 10 ^ n := zpow_add₀ (by norm_num) _ _
        _ ≤ digits * 10 ^ n := mul_le_mul_of_nonneg_right low power_pos.le
    have infinite : ¬ wordOfRatio (digits * Nat.pow 10 n.toNat) (Nat.pow 10 (-n).toNat) <
        infinityWord := by
      have margin : (0 : ℚ) < 2 ^ (970 : ℤ) := by positivity
      rw [wordOfRatio_lt_iff num_ne den_ne, ratio, not_lt]
      exact (sub_le_self _ margin.le).trans bound
    have least := wordOfRatio_le (digits * Nat.pow 10 n.toNat) (Nat.pow 10 (-n).toNat)
    omega
  next bounded =>
    split
    next small =>
      have bound : (digits : ℚ) * 10 ^ n < 2 ^ (-1075 : ℤ) := by
        calc (digits : ℚ) * 10 ^ n < 10 ^ (digitCount digits : ℤ) * 10 ^ n :=
              mul_lt_mul_of_pos_right high power_pos
          _ = 10 ^ ((digitCount digits : ℤ) + n) := (zpow_add₀ (by norm_num) _ _).symm
          _ ≤ 10 ^ (-330 : ℤ) := zpow_le_zpow_right₀ (by norm_num) (by omega)
          _ ≤ 2 ^ (-1075 : ℤ) := by
            rw [zpow_neg, zpow_neg]
            apply inv_anti₀ (by positivity)
            exact_mod_cast (show 2 ^ 1075 ≤ 10 ^ 330 by decide +kernel)
      exact (wordOfRatio_of_small num_ne den_ne (ratio ▸ bound)).symm
    next => rfl

end Binary64

namespace Decimal
variable (d : Decimal)

theorem abs_value : |d.value| = d.digits * 10 ^ d.exponent := by
  rw [value, abs_mul, Binary64.abs_sign, one_mul, abs_of_nonneg (by positivity)]

/-- What is too large for a finite number starts at the middle between the greatest one and the next
power of two. -/
theorem isFinite_toBinary64 :
    d.toBinary64.isFinite = true ↔ |d.value| < 2 ^ 1024 - 2 ^ 970 := by
  rw [d.abs_value, toBinary64, Binary64.ofDecimal]
  by_cases zero : d.digits = 0
  · have word : Binary64.wordOfDecimal d.digits d.exponent = 0 := if_pos zero
    rw [word, zero, Nat.cast_zero, zero_mul]
    refine iff_of_true (by cases d.negative <;> decide) ?_
    rw [sub_pos]
    exact pow_lt_pow_right₀ one_lt_two (by omega)
  · obtain ⟨num_ne, den_ne⟩ := Binary64.ratio_ne_zero zero d.exponent
    rw [Binary64.wordOfDecimal_eq zero,
      Binary64.isFinite_ofMagnitude _ (Binary64.wordOfRatio_le _ _),
      Binary64.wordOfRatio_lt_iff num_ne den_ne, Binary64.div_pow_ten]
    exact_mod_cast Iff.rfl

/-- **Decimals are rounded to the nearest number**, unless that is infinite. -/
theorem isNearest_toBinary64 (finite : d.toBinary64.isFinite = true) :
    d.toBinary64.IsNearest d.value := by
  rw [toBinary64, Binary64.ofDecimal] at finite ⊢
  by_cases zero : d.digits = 0
  · have word : Binary64.wordOfDecimal d.digits d.exponent = 0 * Binary64.fractionSpan + 0 :=
      if_pos zero
    rw [word] at finite ⊢
    apply Binary64.IsNearest.of_value_eq finite
    rw [Binary64.value_ofMagnitude _ (.inr rfl) (Nat.zero_le _) (by decide), value, zero]
    simp
  · obtain ⟨num_ne, den_ne⟩ := Binary64.ratio_ne_zero zero d.exponent
    rw [Binary64.wordOfDecimal_eq zero] at finite ⊢
    have small := (Binary64.isFinite_ofMagnitude _ (Binary64.wordOfRatio_le _ _)).1 finite
    have nearest := Binary64.isNearest_ofMagnitude num_ne den_ne d.negative small
    rwa [Binary64.div_pow_ten] at nearest

end Decimal
end QueryPlan.Number
