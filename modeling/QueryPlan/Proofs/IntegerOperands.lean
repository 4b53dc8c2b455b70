import QueryPlan.Coercion
import QueryPlan.Proofs.Decimals

/-!
# Integer operands of numeric fields

An integer that fits a signed word is bound as it is. Any other one is bound as the nearest
floating-point number, or refused if that is infinite, whether it is written as a number or as a
numeral (`integer_operand_bound`). So two integers can be bound alike, but only beyond the range of
words.
-/

namespace QueryPlan
set_option autoImplicit false
open Number

/-- The integer that an operand is written as: a number in the range of words, signed or not, or a
numeral between blanks. -/
inductive Json.IsIntegerOperand : Json → Int → Prop where
  | int {n : Int} (low : minSigned ≤ n) (high : n ≤ maxUnsigned) : IsIntegerOperand (.int n) n
  | text {s : String} {n : Int} (denotes : IsNumeral (Text.trimChars s.toList) n) :
    IsIntegerOperand (.text s) n

/-! ### Numerals as decimals -/

namespace Number

theorem unsignedDecimal?_of_isDigits {s : List Char} (run : IsDigits s) :
    unsignedDecimal? s = some (ofDigits s, 0) := by
  have read := @unsignedDecimal?_whole s [] run.all nofun
  rw [List.append_nil, if_neg run.nonempty] at read
  exact read

theorem decimal?_of_split {s digits : List Char} {negative : Bool}
    (split : splitSign s = (negative, digits)) (run : IsDigits digits) :
    decimal? s = some ⟨negative, ofDigits digits, 0⟩ := by
  rw [decimal?_eq_map split, unsignedDecimal?_of_isDigits run]
  rfl

/-- A numeral is a decimal without exponent. The sign of zero is as it is written. -/
theorem decimal?_of_isNumeral {s : List Char} {n : Int} (h : IsNumeral s n) (nonzero : n ≠ 0) :
    decimal? s = some ⟨n < 0, n.natAbs, 0⟩ := by
  cases h with
  | unsigned run =>
    rw [decimal?_of_split run.splitSign run]
    simp
  | plus run =>
    rw [decimal?_of_split (splitSign_plus _) run]
    simp
  | minus run =>
    rw [decimal?_of_split (splitSign_minus _) run, decide_eq_true (by omega), Int.natAbs_neg,
      Int.natAbs_natCast]

namespace Binary64

/-- A numeral denotes the same floating-point number as its integer. -/
theorem ofDecimal_eq_ofInt {n : Int} (nonzero : n ≠ 0) :
    ofDecimal (n < 0) n.natAbs 0 = ofInt n := by
  have word : wordOfDecimal n.natAbs 0 = wordOfRatio n.natAbs 1 := by
    rw [wordOfDecimal_eq (Int.natAbs_ne_zero.2 nonzero)]
    exact congrArg (wordOfRatio · 1) (Nat.mul_one _)
  rw [ofDecimal, ofInt, word]

/-- The number nearest to an integer is finite just below the middle between the greatest finite
number and the next power of two. -/
theorem isFinite_ofInt {n : Int} (nonzero : n ≠ 0) :
    (ofInt n).isFinite = true ↔ |n| < 2 ^ 1024 - 2 ^ 970 := by
  have size : ((n.natAbs : Nat) : ℚ) / (1 : Nat) = ((|n| : ℤ) : ℚ) := by
    rw [Nat.cast_one, div_one, Nat.cast_natAbs]
  rw [ofInt, isFinite_ofMagnitude _ (wordOfRatio_le _ _),
    wordOfRatio_lt_iff (Int.natAbs_ne_zero.2 nonzero) one_ne_zero, size]
  exact_mod_cast Iff.rfl

theorem isNearest_ofInt {n : Int} (nonzero : n ≠ 0) (finite : (ofInt n).isFinite = true) :
    IsNearest (ofInt n) n := by
  have small := (isFinite_ofMagnitude _ (wordOfRatio_le _ _)).1 finite
  have nearest := isNearest_ofMagnitude (Int.natAbs_ne_zero.2 nonzero) one_ne_zero (n < 0) small
  have value : sign (n < 0) * ((n.natAbs : ℚ) / (1 : Nat)) = n := by
    rw [Nat.cast_one, div_one, Nat.cast_natAbs]
    by_cases negative : n < 0
    · simp [sign, negative, abs_of_neg negative]
    · simp [sign, negative, abs_of_nonneg (not_lt.1 negative)]
  rwa [value] at nearest

end Binary64
end Number

/-! ### Operands -/

namespace Coercion
variable {v w : Json} {m n : Int}

theorem finite?_of_isNumeral {s : List Char} (denotes : IsNumeral s n) (nonzero : n ≠ 0) :
    (finite? s).map Value.float = finiteValue? (Binary64.ofInt n) := by
  rw [finite?, decimal?_of_isNumeral denotes nonzero, Option.map_some, Decimal.toBinary64,
    Binary64.ofDecimal_eq_ofInt nonzero]
  unfold finiteValue?
  cases finite : (Binary64.ofInt n).isFinite <;> simp [finite]

theorem ne_zero_of_not_fits (unfit : fitsSigned n = false) : n ≠ 0 := by
  rintro rfl
  cases unfit

/-- An integer is read as itself or as the nearest floating-point number, however it is written. -/
theorem number?_of_isIntegerOperand (operand : v.IsIntegerOperand n) :
    number? v = if fitsSigned n then some (.int n) else finiteValue? (Binary64.ofInt n) := by
  cases operand with
  | int => rfl
  | text denotes =>
    rw [number?, signedWord?, integer?_eq_some_iff.2 denotes, Option.filter_some]
    cases fits : fitsSigned n with
    | true => rfl
    | false => exact finite?_of_isNumeral denotes (ne_zero_of_not_fits fits)

theorem scalar_numeric (key : String) (operand : v.IsIntegerOperand n) :
    scalar key .numeric v =
      match number? v with
      | some value => .ok value
      | none => .error (mismatch key (StorageType.numeric.describe ++ " value") v) := by
  cases operand <;> rfl

theorem scalar_of_number? (key : String) (operand : v.IsIntegerOperand n) {b : Value}
    (read : number? v = some b) : scalar key .numeric v = .ok b := by
  rw [scalar_numeric key operand, read]

/-- What is bound for an integer. -/
theorem scalar_eq_ok_iff (key : String) (operand : v.IsIntegerOperand n) {b : Value} :
    scalar key .numeric v = .ok b ↔
      fitsSigned n = true ∧ b = .int n ∨
        fitsSigned n = false ∧ (Binary64.ofInt n).isFinite = true ∧
          b = .float (Binary64.ofInt n) := by
  rw [scalar_numeric key operand, number?_of_isIntegerOperand operand]
  unfold finiteValue?
  cases fits : fitsSigned n <;> cases finite : (Binary64.ofInt n).isFinite <;>
    simp [eq_comm]

/-- Words are far below the greatest floating-point number. -/
theorem not_fits_of_large (large : 2 ^ 1024 - 2 ^ 970 ≤ |n|) : fitsSigned n = false := by
  refine Bool.eq_false_iff.2 fun fits => ?_
  obtain ⟨low, high⟩ := fitsSigned_iff.1 fits
  unfold minSigned maxSigned at *
  have small : |n| ≤ 2 ^ 63 := abs_le.2 ⟨by omega, by omega⟩
  have less : (2 : ℤ) ^ 63 < 2 ^ 1024 - 2 ^ 970 := by decide +kernel
  exact absurd (large.trans small) (not_le.2 less)

/-- An integer beyond words is bound as the number nearest to it. -/
theorem scalar_nearest (key : String) (operand : v.IsIntegerOperand n)
    (unfit : fitsSigned n = false) (small : |n| < 2 ^ 1024 - 2 ^ 970) :
    ∃ x, scalar key .numeric v = .ok (.float x) ∧ x.IsNearest n := by
  have nonzero := ne_zero_of_not_fits unfit
  have finite := (Binary64.isFinite_ofInt nonzero).2 small
  exact ⟨_, (scalar_eq_ok_iff key operand).2 (.inr ⟨unfit, finite, rfl⟩),
    Binary64.isNearest_ofInt nonzero finite⟩

/-- An integer beyond all finite numbers is refused. -/
theorem scalar_refused (key : String) (operand : v.IsIntegerOperand n)
    (large : 2 ^ 1024 - 2 ^ 970 ≤ |n|) : ∃ e, scalar key .numeric v = .error e := by
  have unfit := not_fits_of_large large
  cases outcome : scalar key .numeric v with
  | error e => exact ⟨e, rfl⟩
  | ok b =>
    rcases (scalar_eq_ok_iff key operand).1 outcome with ⟨fits, -⟩ | ⟨-, finite, -⟩
    · rw [unfit] at fits
      cases fits
    · have small := (Binary64.isFinite_ofInt (ne_zero_of_not_fits unfit)).1 finite
      exact absurd large (not_le.2 small)

/-- Two integers are bound alike only as the number that is nearest to both. -/
theorem of_bound_alike {key other : String} {b : Value} (operand : v.IsIntegerOperand n)
    (operand' : w.IsIntegerOperand m) (different : m ≠ n) (bound : scalar key .numeric v = .ok b)
    (bound' : scalar other .numeric w = .ok b) :
    fitsSigned n = false ∧ fitsSigned m = false ∧
      ∃ x, b = .float x ∧ x.IsNearest n ∧ x.IsNearest m := by
  rcases (scalar_eq_ok_iff key operand).1 bound with ⟨-, rfl⟩ | ⟨unfit, finite, rfl⟩
  · rcases (scalar_eq_ok_iff other operand').1 bound' with ⟨-, same⟩ | ⟨-, -, same⟩
    · cases same
      exact absurd rfl different
    · cases same
  · rcases (scalar_eq_ok_iff other operand').1 bound' with ⟨-, same⟩ | ⟨unfit', finite', same⟩
    · cases same
    · have nearest := Binary64.isNearest_ofInt (ne_zero_of_not_fits unfit) finite
      have nearest' := Binary64.isNearest_ofInt (ne_zero_of_not_fits unfit') finite'
      rw [← Value.float.inj same] at nearest'
      exact ⟨unfit, unfit', _, rfl, nearest, nearest'⟩

end Coercion

/-- **Integers are bound exactly, as the nearest number, or refused.** An integer that fits a signed
word is bound as it is. Any other one is bound as the nearest floating-point number, which is the
integer itself just if some floating-point number is, and refused if that number would be infinite.
Two integers are bound alike only if neither fits and the same number is nearest to both. -/
theorem integer_operand_bound {v : Json} {n : Int} (operand : v.IsIntegerOperand n)
    (key : String) :
    (fitsSigned n = true → Coercion.scalar key .numeric v = .ok (.int n)) ∧
    (fitsSigned n = false → |n| < 2 ^ 1024 - 2 ^ 970 →
      ∃ x, Coercion.scalar key .numeric v = .ok (.float x) ∧ x.IsNearest n ∧
        (x.value = n ↔ ∃ y : Binary64, y.isFinite = true ∧ y.value = n)) ∧
    (2 ^ 1024 - 2 ^ 970 ≤ |n| → ∃ e, Coercion.scalar key .numeric v = .error e) ∧
    ∀ w m other b, Json.IsIntegerOperand w m → m ≠ n →
      Coercion.scalar key .numeric v = .ok b → Coercion.scalar other .numeric w = .ok b →
      fitsSigned n = false ∧ fitsSigned m = false ∧
        ∃ x, b = .float x ∧ x.IsNearest n ∧ x.IsNearest m := by
  refine ⟨fun fits => (Coercion.scalar_eq_ok_iff key operand).2 (.inl ⟨fits, rfl⟩),
    fun unfit small => ?_, Coercion.scalar_refused key operand,
    fun _ _ _ _ operand' => Coercion.of_bound_alike operand operand'⟩
  obtain ⟨x, bound, nearest⟩ := Coercion.scalar_nearest key operand unfit small
  exact ⟨x, bound, nearest, nearest.value_eq_iff⟩

/-- One more than two to the power of 63, written with a sign and blanks, is bound as the number
nearest to it, and that is bound for the power itself too. -/
theorem beyond_words_bound :
    Json.IsIntegerOperand (.text " +9223372036854775809 ") 9223372036854775809 ∧
    Json.IsIntegerOperand (.int 9223372036854775808) 9223372036854775808 ∧
    fitsSigned 9223372036854775809 = false ∧
    |(9223372036854775809 : Int)| < 2 ^ 1024 - 2 ^ 970 ∧
    (∃ x, Coercion.scalar "id_eq" .numeric (.text " +9223372036854775809 ") = .ok (.float x) ∧
      x.IsNearest (9223372036854775809 : Int)) ∧
    Binary64.IsNearest ⟨0x43E0000000000000⟩ (9223372036854775809 : Int) ∧
    Binary64.IsNearest ⟨0x43E0000000000000⟩ (9223372036854775808 : Int) := by
  have numeral : IsNumeral (Text.trimChars " +9223372036854775809 ".toList) 9223372036854775809 :=
    integer?_eq_some_iff.1 (by decide +kernel)
  have operand : Json.IsIntegerOperand (.text " +9223372036854775809 ") 9223372036854775809 :=
    .text numeral
  have operand' : Json.IsIntegerOperand (.int 9223372036854775808) 9223372036854775808 :=
    .int (by decide) (by decide)
  have unfit : fitsSigned 9223372036854775809 = false := by decide
  have small : |(9223372036854775809 : Int)| < 2 ^ 1024 - 2 ^ 970 := by decide +kernel
  have bound : Coercion.scalar "id_eq" .numeric (.text " +9223372036854775809 ") =
      .ok (.float ⟨0x43E0000000000000⟩) :=
    Coercion.scalar_of_number? "id_eq" operand (by decide +kernel)
  have bound' : Coercion.scalar "id_eq" .numeric (.int 9223372036854775808) =
      .ok (.float ⟨0x43E0000000000000⟩) :=
    Coercion.scalar_of_number? "id_eq" operand' (by decide +kernel)
  obtain ⟨-, nearest, -, alike⟩ := integer_operand_bound operand "id_eq"
  obtain ⟨x, accepted, near, -⟩ := nearest unfit small
  obtain ⟨-, -, y, same, first, second⟩ := alike _ _ _ _ operand' (by decide) bound bound'
  cases same
  exact ⟨operand, operand', unfit, small, ⟨x, accepted, near⟩, first, second⟩

/-- One more than two to the power of 63 is accepted and bound as the power itself. -/
theorem beyond_words_inexact :
    Json.IsIntegerOperand (.int 9223372036854775809) 9223372036854775809 ∧
    Json.IsIntegerOperand (.text "9223372036854775808") 9223372036854775808 ∧
    Coercion.scalar "id_eq" .numeric (.int 9223372036854775809) =
      .ok (.float ⟨0x43E0000000000000⟩) ∧
    Coercion.scalar "id_eq" .numeric (.text "9223372036854775808") =
      .ok (.float ⟨0x43E0000000000000⟩) ∧
    Binary64.value ⟨0x43E0000000000000⟩ = 9223372036854775808 := by
  have operand : Json.IsIntegerOperand (.int 9223372036854775809) 9223372036854775809 :=
    .int (by decide) (by decide)
  have operand' : Json.IsIntegerOperand (.text "9223372036854775808") 9223372036854775808 :=
    .text (integer?_eq_some_iff.1 (by decide +kernel))
  refine ⟨operand, operand', Coercion.scalar_of_number? "id_eq" operand (by decide +kernel),
    Coercion.scalar_of_number? "id_eq" operand' (by decide +kernel), ?_⟩
  have negative : Binary64.isNegative ⟨0x43E0000000000000⟩ = false := by decide
  have significand : Binary64.significand ⟨0x43E0000000000000⟩ = 2 ^ 52 := by decide
  have scale : Binary64.scale ⟨0x43E0000000000000⟩ = 11 := by decide
  rw [Binary64.value, negative, significand, scale]
  norm_num [Binary64.sign]

end QueryPlan
