import Mathlib.Algebra.Order.Ring.Abs
import Mathlib.Algebra.Order.Field.Power
import Mathlib.Data.Rat.Cast.Order
import Mathlib.Tactic.FieldSimp
import Mathlib.Tactic.Linarith
import Mathlib.Tactic.NormNum
import Mathlib.Tactic.Positivity
import Mathlib.Tactic.Push
import Mathlib.Tactic.Ring
import QueryPlan.Number.Binary64

/-!
# Rounding

A finite pattern stands for a rational number (`Binary64.value`), and the pattern made of a ratio
stands for the one that is nearest to it among all finite ones, ties going to an even significand
(`isNearest_ofMagnitude`).
-/

namespace QueryPlan.Number
set_option autoImplicit false

/-! ### Rounding a quotient -/

/-- Whether a natural number is the rounded one of a rational: it is at most a half away, and even
if it is that far. -/
def IsRounded (x : ℚ) (m : Nat) : Prop :=
  |(m : ℚ) - x| ≤ 1 / 2 ∧ (|(m : ℚ) - x| = 1 / 2 → m % 2 = 0)

theorem isRounded_roundDiv (num : Nat) {den : Nat} (positive : 0 < den) :
    IsRounded (num / den) (roundDiv num den) := by
  have den_pos : (0 : ℚ) < den := by exact_mod_cast positive
  have parts : (num : ℚ) / den = (num / den : Nat) + ((num % den : Nat) : ℚ) / den := by
    have whole : (num : ℚ) = den * (num / den : Nat) + (num % den : Nat) := by
      exact_mod_cast (Nat.div_add_mod num den).symm
    rw [div_eq_iff den_pos.ne', add_mul, div_mul_cancel₀ _ den_pos.ne', mul_comm _ (den : ℚ)]
    exact whole
  have below_half : ((num % den : Nat) : ℚ) / den < 1 / 2 ↔ 2 * (num % den) < den := by
    rw [div_lt_div_iff₀ den_pos two_pos, one_mul, mul_comm]
    exact_mod_cast Iff.rfl
  have above_half : 1 / 2 < ((num % den : Nat) : ℚ) / den ↔ den < 2 * (num % den) := by
    rw [div_lt_div_iff₀ two_pos den_pos, one_mul, mul_comm _ (2 : ℚ)]
    exact_mod_cast Iff.rfl
  have nonneg : 0 ≤ ((num % den : Nat) : ℚ) / den := by positivity
  have below_one : ((num % den : Nat) : ℚ) / den < 1 := by
    rw [div_lt_one den_pos]
    exact_mod_cast Nat.mod_lt num positive
  unfold IsRounded roundDiv
  rw [parts]
  generalize ((num % den : Nat) : ℚ) / den = f at *
  dsimp only
  split
  next down =>
    have error : |((num / den : Nat) : ℚ) - ((num / den : Nat) + f)| = f := by
      rw [sub_add_cancel_left, abs_neg, abs_of_nonneg nonneg]
    have at_most : f ≤ 1 / 2 := le_of_not_gt fun above => by
      have := above_half.1 above
      omega
    rw [error]
    refine ⟨at_most, fun tie => ?_⟩
    have exactly : ¬ 2 * (num % den) < den := fun less => (below_half.2 less).ne tie
    exact (down.resolve_left exactly).2
  next up =>
    have error : |((num / den + 1 : Nat) : ℚ) - ((num / den : Nat) + f)| = 1 - f := by
      have rest : ((num / den + 1 : Nat) : ℚ) - ((num / den : Nat) + f) = 1 - f := by
        push_cast
        ring
      rw [rest, abs_of_pos (sub_pos.2 below_one)]
    have at_least : 1 / 2 ≤ f := le_of_not_gt fun below => up (.inl (below_half.1 below))
    rw [error]
    refine ⟨by linarith, fun tie => ?_⟩
    have exactly : ¬ den < 2 * (num % den) := fun more => by
      have := above_half.2 more
      linarith
    omega

/-- Two integers are at least one apart, so no number is less than a half away from both. -/
theorem one_le_dist {m : Nat} {k : ℤ} (other : (k : ℚ) ≠ m) (x : ℚ) :
    1 ≤ |(m : ℚ) - x| + |(k : ℚ) - x| := by
  have apart : (1 : ℚ) ≤ |((m : ℤ) - k : ℤ)| := by
    exact_mod_cast Int.one_le_abs (sub_ne_zero.2 fun same => other (by exact_mod_cast same.symm))
  calc (1 : ℚ) ≤ |((m : ℤ) - k : ℤ)| := apart
    _ = |((m : ℚ) - x) - (k - x)| := by push_cast; ring_nf
    _ ≤ |(m : ℚ) - x| + |(k : ℚ) - x| := abs_sub _ _

namespace IsRounded
variable {x : ℚ} {m : Nat} (h : IsRounded x m)
include h

/-- No integer is nearer. -/
theorem le (k : ℤ) : |(m : ℚ) - x| ≤ |(k : ℚ) - x| := by
  by_cases same : (k : ℚ) = m
  · rw [same]
  · have apart := one_le_dist same x
    have close := h.1
    linarith

/-- If another integer is as near, the rounded one is even. -/
theorem even {k : ℤ} (other : (k : ℚ) ≠ m) (tie : |(m : ℚ) - x| = |(k : ℚ) - x|) :
    m % 2 = 0 := by
  have apart := one_le_dist other x
  have close := h.1
  exact h.2 (by linarith)

/-- Neither is a number below an integer that is not above what is rounded. -/
theorem lt_of_lt {y : ℚ} {k : ℤ} (below : y < k) (above : (k : ℚ) ≤ x) :
    |(m : ℚ) - x| < |y - x| := by
  calc |(m : ℚ) - x| ≤ |(k : ℚ) - x| := h.le k
    _ = x - k := by rw [abs_of_nonpos (sub_nonpos.2 above), neg_sub]
    _ < x - y := sub_lt_sub_left below x
    _ = |y - x| := by rw [abs_of_neg (sub_neg.2 (below.trans_le above)), neg_sub]

end IsRounded

/-! ### The order of magnitude -/

theorem zpow_mul_toNat {b : ℚ} (nonzero : b ≠ 0) (k : ℤ) :
    b ^ k * b ^ (-k).toNat = b ^ k.toNat := by
  rw [← zpow_natCast, ← zpow_natCast, ← zpow_add₀ nonzero]
  congr 1
  omega

theorem zpow_two_add (k : Nat) (q : ℤ) : (2 : ℚ) ^ (k + q) = 2 ^ k * 2 ^ q := by
  rw [zpow_add₀ two_ne_zero, zpow_natCast]

/-- The quotient of two numbers, by the powers of two that they lie between. -/
theorem zpow_lt_div {num den : Nat} (hn : num ≠ 0) (hd : den ≠ 0) :
    (2 : ℚ) ^ ((num.log2 : ℤ) - den.log2 - 1) ≤ num / den ∧
      (num : ℚ) / den < 2 ^ ((num.log2 : ℤ) - den.log2 + 1) := by
  have den_pos : (0 : ℚ) < den := by exact_mod_cast Nat.pos_of_ne_zero hd
  have num_le : (2 : ℚ) ^ (num.log2 : ℤ) ≤ num := by exact_mod_cast Nat.log2_self_le hn
  have lt_num : (num : ℚ) < 2 ^ ((num.log2 : ℤ) + 1) := by exact_mod_cast Nat.lt_log2_self
  have den_le : (2 : ℚ) ^ (den.log2 : ℤ) ≤ den := by exact_mod_cast Nat.log2_self_le hd
  have lt_den : (den : ℚ) < 2 ^ ((den.log2 : ℤ) + 1) := by exact_mod_cast Nat.lt_log2_self
  generalize (num.log2 : ℤ) = a at *
  generalize (den.log2 : ℤ) = b at *
  constructor
  · rw [le_div_iff₀ den_pos]
    calc (2 : ℚ) ^ (a - b - 1) * den ≤ 2 ^ (a - b - 1) * 2 ^ (b + 1) := by gcongr
      _ = 2 ^ a := by rw [← zpow_add₀ two_ne_zero]; congr 1; omega
      _ ≤ num := num_le
  · rw [div_lt_iff₀ den_pos]
    calc (num : ℚ) < 2 ^ (a + 1) := lt_num
      _ = 2 ^ (a - b + 1) * 2 ^ b := by rw [← zpow_add₀ two_ne_zero]; congr 1; omega
      _ ≤ 2 ^ (a - b + 1) * den := by gcongr

/-- Comparing with a power of two that may be a fraction, in natural numbers. -/
theorem mul_pow_le_iff {num den : Nat} (hd : den ≠ 0) (k : ℤ) :
    den * Nat.pow 2 k.toNat ≤ num * Nat.pow 2 (-k).toNat ↔ (2 : ℚ) ^ k ≤ num / den := by
  have den_pos : (0 : ℚ) < den := by exact_mod_cast Nat.pos_of_ne_zero hd
  have power_pos : (0 : ℚ) < 2 ^ (-k).toNat := by positivity
  rw [le_div_iff₀ den_pos, ← mul_le_mul_iff_left₀ power_pos, mul_right_comm,
    zpow_mul_toNat two_ne_zero, mul_comm _ (den : ℚ)]
  exact_mod_cast Iff.rfl

/-- The power of two next below a ratio. -/
theorem zpow_log2Ratio {num den : Nat} (hn : num ≠ 0) (hd : den ≠ 0) :
    (2 : ℚ) ^ log2Ratio num den ≤ num / den ∧ (num : ℚ) / den < 2 ^ (log2Ratio num den + 1) := by
  obtain ⟨low, high⟩ := zpow_lt_div hn hd
  unfold log2Ratio
  dsimp only
  split
  next reached => exact ⟨(mul_pow_le_iff hd _).1 reached, high⟩
  next missed =>
    rw [sub_add_cancel]
    exact ⟨low, not_le.1 fun reached => missed ((mul_pow_le_iff hd _).2 reached)⟩

/-! ### The values of patterns -/

namespace Binary64

/-- One or minus one. -/
def sign (negative : Bool) : ℚ := if negative then -1 else 1

/-- The number that a finite pattern stands for. -/
def value (x : Binary64) : ℚ := sign x.isNegative * (x.significand * 2 ^ x.scale)

/-- Whether a pattern is finite and stands for the number nearest to a rational: no other finite one
is nearer, and the significand is even if another number is as near. -/
structure IsNearest (x : Binary64) (r : ℚ) : Prop where
  finite : x.isFinite = true
  le : ∀ y : Binary64, y.isFinite = true → |x.value - r| ≤ |y.value - r|
  even : ∀ y : Binary64, y.isFinite = true → y.value ≠ x.value →
    |x.value - r| = |y.value - r| → x.significand % 2 = 0

/-- The nearest number is the rational itself just if that is a floating-point number. -/
theorem IsNearest.value_eq_iff {x : Binary64} {r : ℚ} (h : IsNearest x r) :
    x.value = r ↔ ∃ y : Binary64, y.isFinite = true ∧ y.value = r := by
  constructor
  · intro same
    exact ⟨x, h.finite, same⟩
  · rintro ⟨y, finite, rfl⟩
    have distance := h.le y finite
    rw [sub_self, abs_zero] at distance
    exact sub_eq_zero.1 (abs_nonpos_iff.1 distance)

theorem significand_lt (x : Binary64) : x.significand < 2 * fractionSpan := by
  have fraction_lt : x.fraction < fractionSpan := Nat.mod_lt _ (by decide)
  unfold significand
  split <;> omega

theorem le_scale (x : Binary64) : -1074 ≤ x.scale := by
  unfold scale
  split <;> omega

theorem abs_sign (negative : Bool) : |sign negative| = 1 := by cases negative <;> simp [sign]

theorem sign_mul_self (negative : Bool) : sign negative * sign negative = 1 := by
  cases negative <;> simp [sign]

/-- Distances from a number with a sign, counted in units. -/
theorem dist_eq (negative : Bool) (r z : ℚ) {power : ℚ} (positive : 0 < power) :
    |z - sign negative * r| = |sign negative * z / power - r / power| * power := by
  have scaled : sign negative * z / power - r / power =
      sign negative * (z - sign negative * r) / power := by
    rw [mul_sub, ← mul_assoc, sign_mul_self, one_mul, sub_div]
  rw [scaled, abs_div, abs_mul, abs_sign, one_mul, abs_of_pos positive,
    div_mul_cancel₀ _ positive.ne']

theorem abs_value (x : Binary64) : |x.value| = x.significand * 2 ^ x.scale := by
  rw [value, abs_mul, abs_sign, one_mul, abs_of_nonneg (by positivity)]

/-- A finite number is an integer multiple of a scale, or it is less than any full significand at
that scale, which is then not the least one. -/
theorem value_grid (x : Binary64) (q : ℤ) :
    (∃ k : ℤ, x.value = k * 2 ^ q) ∨ -1074 < q ∧ |x.value| < fractionSpan * 2 ^ q := by
  by_cases finer : q ≤ x.scale
  · left
    have power : (2 : ℚ) ^ x.scale = 2 ^ (x.scale - q).toNat * 2 ^ q := by
      rw [← zpow_natCast, ← zpow_add₀ two_ne_zero]
      congr 1
      omega
    refine ⟨(if x.isNegative then -1 else 1) * (x.significand * 2 ^ (x.scale - q).toNat), ?_⟩
    unfold value sign
    rw [power]
    push_cast
    ring
  · right
    have least := x.le_scale
    refine ⟨by omega, ?_⟩
    have significand_lt : (x.significand : ℚ) < 2 * fractionSpan := by
      exact_mod_cast x.significand_lt
    calc |x.value| = x.significand * 2 ^ x.scale := x.abs_value
      _ < 2 * fractionSpan * 2 ^ x.scale := by gcongr
      _ ≤ 2 * fractionSpan * 2 ^ (q - 1) :=
        mul_le_mul_of_nonneg_left (zpow_le_zpow_right₀ one_le_two (by omega)) (by positivity)
      _ = fractionSpan * 2 ^ q := by rw [zpow_sub₀ two_ne_zero, zpow_one]; ring

section
variable {word : Nat} (negative : Bool) (small : word ≤ infinityWord)
include small

theorem toNat_ofMagnitude : (ofMagnitude negative word).bits.toNat =
    (if negative then signWord else 0) + word := by
  unfold ofMagnitude
  unfold infinityWord fractionSpan at small
  unfold signWord
  rw [UInt64.toNat_ofNat', Nat.mod_eq_of_lt]
  · split <;> omega
  · split <;> omega

theorem isNegative_ofMagnitude : (ofMagnitude negative word).isNegative = negative := by
  unfold isNegative
  rw [toNat_ofMagnitude negative small]
  unfold infinityWord fractionSpan at small
  cases negative <;> simp [signWord]; omega

theorem exponentField_ofMagnitude :
    (ofMagnitude negative word).exponentField = word / fractionSpan := by
  unfold exponentField
  rw [toNat_ofMagnitude negative small]
  unfold infinityWord at small
  cases negative <;> simp [signWord, fractionSpan, exponentSpan] at * <;> omega

theorem fraction_ofMagnitude : (ofMagnitude negative word).fraction = word % fractionSpan := by
  unfold fraction
  rw [toNat_ofMagnitude negative small]
  cases negative <;> simp [signWord, fractionSpan] at *; omega

theorem isFinite_ofMagnitude :
    (ofMagnitude negative word).isFinite = true ↔ word < infinityWord := by
  unfold isFinite
  rw [exponentField_ofMagnitude negative small, bne_iff_ne]
  unfold infinityWord fractionSpan at *
  omega

end

section
variable {unit m : Nat} (negative : Bool) (normal : fractionSpan ≤ m ∨ unit = 0)
  (full : m ≤ 2 * fractionSpan) (finite : unit * fractionSpan + m < infinityWord)
include normal full finite

/-- A pattern that counts units keeps its significand, and one that has carried into the exponent
has the least full significand of the next scale. -/
theorem significand_ofMagnitude :
    (ofMagnitude negative (unit * fractionSpan + m)).significand = m ∧
        (ofMagnitude negative (unit * fractionSpan + m)).scale = unit - 1074 ∨
      m = 2 * fractionSpan ∧
        (ofMagnitude negative (unit * fractionSpan + m)).significand = fractionSpan ∧
        (ofMagnitude negative (unit * fractionSpan + m)).scale = unit - 1074 + 1 := by
  unfold significand scale
  rw [exponentField_ofMagnitude negative finite.le, fraction_ofMagnitude negative finite.le]
  unfold infinityWord fractionSpan at *
  rcases Nat.lt_trichotomy m (2 * 4503599627370496) with part | carried | beyond
  · left
    split <;> omega
  · right
    split <;> omega
  · omega

theorem value_ofMagnitude :
    (ofMagnitude negative (unit * fractionSpan + m)).value =
      sign negative * (m * 2 ^ ((unit : ℤ) - 1074)) := by
  unfold value
  rw [isNegative_ofMagnitude negative finite.le]
  rcases significand_ofMagnitude negative normal full finite with
    ⟨significand, scale⟩ | ⟨rfl, significand, scale⟩
  · rw [significand, scale]
  · rw [significand, scale, zpow_add₀ two_ne_zero, zpow_one]
    push_cast
    ring

theorem even_ofMagnitude (even : m % 2 = 0) :
    (ofMagnitude negative (unit * fractionSpan + m)).significand % 2 = 0 := by
  rcases significand_ofMagnitude negative normal full finite with
    ⟨significand, -⟩ | ⟨-, significand, -⟩
  · rw [significand, even]
  · rw [significand]
    rfl

end

/-! ### Ratios -/

/-- Whether a ratio is rounded to a count of units, each two to the power of `unit - 1074`: it has
a full significand of them, unless the unit is the least one. -/
structure IsScaled (r : ℚ) (unit m : Nat) : Prop where
  rounded : IsRounded (r / 2 ^ ((unit : ℤ) - 1074)) m
  full : fractionSpan ≤ r / 2 ^ ((unit : ℤ) - 1074) ∨ unit = 0
  below : r / 2 ^ ((unit : ℤ) - 1074) < 2 * fractionSpan

theorem fractionSpan_eq : (fractionSpan : ℚ) = 2 ^ 52 := by norm_num [fractionSpan]

/-- The pattern of a ratio, as long as it is not that of infinity. -/
theorem wordOfRatio_isScaled {num den : Nat} (hn : num ≠ 0) (hd : den ≠ 0) :
    ∃ unit m, IsScaled (num / den) unit m ∧
      wordOfRatio num den = min (unit * fractionSpan + m) infinityWord := by
  obtain ⟨low, high⟩ := zpow_log2Ratio hn hd
  have den_pos : (0 : ℚ) < den := by exact_mod_cast Nat.pos_of_ne_zero hd
  rw [wordOfRatio, if_neg hn]
  dsimp only
  generalize hq : max (log2Ratio num den - 52) (-1074) = q
  generalize log2Ratio num den = k at *
  have scale : (((q + 1074).toNat : Nat) : ℤ) - 1074 = q := by omega
  have scaled : (num : ℚ) / den / 2 ^ q =
      ((num * Nat.pow 2 (-q).toNat : Nat) : ℚ) / (den * Nat.pow 2 q.toNat : Nat) := by
    have power : ((den * Nat.pow 2 q.toNat : Nat) : ℚ) = den * (2 ^ q * 2 ^ (-q).toNat) := by
      rw [zpow_mul_toNat two_ne_zero]
      exact_mod_cast rfl
    have scaled_num : ((num * Nat.pow 2 (-q).toNat : Nat) : ℚ) = num * 2 ^ (-q).toNat := by
      exact_mod_cast rfl
    rw [power, scaled_num, div_div, ← mul_assoc, mul_div_mul_right _ _ (by positivity)]
  refine ⟨_, _, ⟨?_, ?_, ?_⟩, rfl⟩
  · rw [scale, scaled]
    exact isRounded_roundDiv _ (Nat.mul_pos (Nat.pos_of_ne_zero hd) (Nat.two_pow_pos _))
  · rw [scale, fractionSpan_eq, le_div_iff₀ (by positivity), ← zpow_two_add]
    by_cases least : q = -1074
    · exact .inr (by omega)
    · have top : ((52 : Nat) : ℤ) + q = k := by omega
      exact .inl (top ▸ low)
  · rw [scale, fractionSpan_eq, div_lt_iff₀ (by positivity), ← pow_succ', ← zpow_two_add]
    calc (num : ℚ) / den < 2 ^ (k + 1) := high
      _ ≤ 2 ^ (((52 + 1 : Nat) : ℤ) + q) := zpow_le_zpow_right₀ one_le_two (by omega)

namespace IsScaled
variable {r : ℚ} {unit m : Nat} (h : IsScaled r unit m)
include h

theorem full_count : fractionSpan ≤ m ∨ unit = 0 := by
  refine h.full.imp_left fun full => ?_
  have close := (abs_le.1 h.rounded.1).1
  have more : (fractionSpan : ℚ) < (m + 1 : Nat) := by
    push_cast
    linarith
  exact Nat.lt_succ_iff.1 (by exact_mod_cast more)

theorem count_le : m ≤ 2 * fractionSpan := by
  have close := (abs_le.1 h.rounded.1).2
  have below := h.below
  have less : (m : ℚ) < (2 * fractionSpan + 1 : Nat) := by
    push_cast
    linarith
  exact Nat.lt_succ_iff.1 (by exact_mod_cast less)

/-- Counted in units, no finite number is nearer than what is rounded to. -/
theorem le_of_grid {y : ℚ} (grid : (∃ k : ℤ, y = k) ∨ 0 < unit ∧ |y| < fractionSpan) :
    |(m : ℚ) - r / 2 ^ ((unit : ℤ) - 1074)| ≤ |y - r / 2 ^ ((unit : ℤ) - 1074)| ∧
      (y ≠ m → |(m : ℚ) - r / 2 ^ ((unit : ℤ) - 1074)| = |y - r / 2 ^ ((unit : ℤ) - 1074)| →
        m % 2 = 0) := by
  rcases grid with ⟨k, rfl⟩ | ⟨coarse, small⟩
  · exact ⟨h.rounded.le k, h.rounded.even⟩
  · have full := h.full.resolve_right coarse.ne'
    have farther := h.rounded.lt_of_lt (k := fractionSpan) ((le_abs_self y).trans_lt small) full
    exact ⟨farther.le, fun _ tie => absurd tie farther.ne⟩

/-- The pattern that counts the units stands for the nearest number. -/
theorem isNearest (negative : Bool) (finite : unit * fractionSpan + m < infinityWord) :
    IsNearest (ofMagnitude negative (unit * fractionSpan + m)) (sign negative * r) := by
  have positive : (0 : ℚ) < 2 ^ ((unit : ℤ) - 1074) := by positivity
  have value := value_ofMagnitude negative h.full_count h.count_le finite
  have counted : sign negative * (sign negative * (m * 2 ^ ((unit : ℤ) - 1074))) /
      2 ^ ((unit : ℤ) - 1074) = (m : ℚ) := by
    rw [← mul_assoc, sign_mul_self, one_mul, mul_div_cancel_right₀ _ positive.ne']
  -- Every finite number is an integer count of units or less than a full significand of them.
  have grid (y : Binary64) : (∃ k : ℤ, sign negative * y.value / 2 ^ ((unit : ℤ) - 1074) = k) ∨
      0 < unit ∧ |sign negative * y.value / 2 ^ ((unit : ℤ) - 1074)| < fractionSpan := by
    rcases y.value_grid ((unit : ℤ) - 1074) with ⟨k, multiple⟩ | ⟨coarse, small⟩
    · refine .inl ⟨(if negative then -1 else 1) * k, ?_⟩
      rw [multiple, ← mul_assoc, mul_div_cancel_right₀ _ positive.ne']
      push_cast
      rfl
    · refine .inr ⟨by omega, ?_⟩
      rwa [abs_div, abs_mul, abs_sign, one_mul, abs_of_pos positive, div_lt_iff₀ positive]
  have is_finite := (isFinite_ofMagnitude negative finite.le).2 finite
  refine ⟨is_finite, fun y _ => ?_, fun y _ other tie => ?_⟩
  · rw [value, dist_eq negative r _ positive, dist_eq negative r y.value positive, counted]
    exact mul_le_mul_of_nonneg_right (h.le_of_grid (grid y)).1 positive.le
  · rw [value, dist_eq negative r _ positive, dist_eq negative r y.value positive, counted] at tie
    refine even_ofMagnitude negative h.full_count h.count_le finite
      ((h.le_of_grid (grid y)).2 (fun same => other ?_) (mul_right_cancel₀ positive.ne' tie))
    rw [value, ← same, div_mul_cancel₀ _ positive.ne', ← mul_assoc, sign_mul_self, one_mul]

/-- At the greatest scale of a finite number, a ratio carries into the exponent of infinity from the
middle between the greatest significand and the next one, which is even. -/
theorem lt_full_iff : m < 2 * fractionSpan ↔
    r / 2 ^ ((unit : ℤ) - 1074) < 2 * fractionSpan - 1 / 2 := by
  have close := abs_le.1 h.rounded.1
  constructor
  · intro less
    by_contra beyond
    have count : (m : ℚ) ≤ 2 * fractionSpan - 1 := by
      have : (m : ℚ) + 1 ≤ 2 * fractionSpan := by exact_mod_cast less
      linarith
    have tie : (m : ℚ) - r / 2 ^ ((unit : ℤ) - 1074) = -(1 / 2) := by linarith
    have last : (m : ℚ) = (2 * fractionSpan - 1 : Nat) := by
      have : ((2 * fractionSpan - 1 : Nat) : ℚ) = 2 * fractionSpan - 1 := by norm_num [fractionSpan]
      linarith
    have even := h.rounded.2 (by rw [tie, abs_neg, abs_of_pos one_half_pos])
    rw [Nat.cast_injective last] at even
    exact absurd even (by decide)
  · intro below
    have less : (m : ℚ) < (2 * fractionSpan : Nat) := by
      push_cast
      linarith
    exact_mod_cast less

/-- What is rounded to a finite pattern. -/
theorem lt_infinityWord_iff :
    unit * fractionSpan + m < infinityWord ↔ r < 2 ^ (1024 : ℤ) - 2 ^ (970 : ℤ) := by
  have positive : (0 : ℚ) < 2 ^ ((unit : ℤ) - 1074) := by positivity
  have count := h.count_le
  have bound : (2 : ℚ) ^ (1024 : ℤ) = 2 ^ 54 * 2 ^ (970 : ℤ) := zpow_two_add 54 970
  rcases Nat.lt_trichotomy unit 2045 with fine | rfl | coarse
  · have finite : unit * fractionSpan + m < infinityWord := by
      unfold infinityWord fractionSpan at *
      omega
    have below := (div_lt_iff₀ positive).1 h.below
    have scale : (2 : ℚ) ^ ((unit : ℤ) - 1074) ≤ 2 ^ (970 : ℤ) :=
      zpow_le_zpow_right₀ one_le_two (by omega)
    rw [fractionSpan_eq] at below
    refine iff_of_true finite ?_
    rw [bound]
    generalize (2 : ℚ) ^ (970 : ℤ) = power at *
    linarith
  · have full : 2045 * fractionSpan + m < infinityWord ↔ m < 2 * fractionSpan := by
      unfold infinityWord
      omega
    have scale : (2 : ℚ) ^ (((2045 : Nat) : ℤ) - 1074) = 2 ^ 1 * 2 ^ (970 : ℤ) := zpow_two_add 1 970
    have middle : (2 * fractionSpan - 1 / 2) * (2 : ℚ) ^ (((2045 : Nat) : ℤ) - 1074) =
        2 ^ (1024 : ℤ) - 2 ^ (970 : ℤ) := by
      rw [bound, scale, fractionSpan_eq]
      ring
    rw [full, h.lt_full_iff, div_lt_iff₀ positive, middle]
  · have full := h.full_count.resolve_right (by omega)
    have infinite : ¬ unit * fractionSpan + m < infinityWord := by
      unfold infinityWord fractionSpan at *
      omega
    have reached := (le_div_iff₀ positive).1 (h.full.resolve_right (by omega))
    have scale : (2 : ℚ) ^ 2 * 2 ^ (970 : ℤ) ≤ 2 ^ ((unit : ℤ) - 1074) := by
      rw [← zpow_two_add]
      exact zpow_le_zpow_right₀ one_le_two (by omega)
    have least : (0 : ℚ) < 2 ^ (970 : ℤ) := by positivity
    rw [fractionSpan_eq] at reached
    refine iff_of_false infinite (not_lt.2 ?_)
    rw [bound]
    generalize (2 : ℚ) ^ (970 : ℤ) = power at *
    linarith

end IsScaled

theorem wordOfRatio_le (num den : Nat) : wordOfRatio num den ≤ infinityWord := by
  unfold wordOfRatio
  split
  · exact Nat.zero_le _
  · exact min_le_right _ _

section
variable {num den : Nat} (hn : num ≠ 0) (hd : den ≠ 0)
include hn hd

/-- A ratio is rounded to a finite number just below the middle between the greatest one and the
next power of two. -/
theorem wordOfRatio_lt_iff : wordOfRatio num den < infinityWord ↔
    (num : ℚ) / den < 2 ^ (1024 : ℤ) - 2 ^ (970 : ℤ) := by
  obtain ⟨unit, m, scaled, word⟩ := wordOfRatio_isScaled hn hd
  rw [word, ← scaled.lt_infinityWord_iff]
  omega

/-- **Rounding.** The pattern of a ratio stands for the finite number that is nearest to it, if it
is finite. -/
theorem isNearest_ofMagnitude (negative : Bool) (finite : wordOfRatio num den < infinityWord) :
    IsNearest (ofMagnitude negative (wordOfRatio num den)) (sign negative * (num / den)) := by
  obtain ⟨unit, m, scaled, word⟩ := wordOfRatio_isScaled hn hd
  rw [word] at finite ⊢
  rw [min_eq_left (by omega)]
  exact scaled.isNearest negative (by omega)

end
end Binary64
end QueryPlan.Number
