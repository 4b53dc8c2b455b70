/-!
# Binary64

Floating-point numbers of 64 bits as their bit patterns, with exact arithmetic only. A finite
number is plus or minus `significand * 2 ^ scale`. A decimal or a ratio becomes the nearest
number, a tie going to the even pattern, and what lies beyond the largest finite number becomes
infinite.
-/

namespace QueryPlan.Number
set_option autoImplicit false

/-- A 64-bit floating-point number, by its bit pattern. -/
structure Binary64 where
  /-- Sign, exponent field and fraction, from the highest bit down. -/
  bits : UInt64
  deriving DecidableEq, Repr

/-- The quotient rounded to the nearest natural number, a half going to the even one. -/
def roundDiv (num den : Nat) : Nat :=
  let q := num / den
  let r := num % den
  if 2 * r < den ∨ (2 * r = den ∧ q % 2 = 0) then q else q + 1

/-- The largest `k` with `2 ^ k ≤ num / den`, for positive `num` and `den`. -/
def log2Ratio (num den : Nat) : Int :=
  let k : Int := (num.log2 : Int) - den.log2
  if den * Nat.pow 2 k.toNat ≤ num * Nat.pow 2 (-k).toNat then k else k - 1

namespace Binary64

/-- The pattern of the sign bit alone. -/
def signWord : Nat := 0x8000000000000000

/-- The number of values of the fraction, which is also the least significand of a number that is
not subnormal: two to the power of 52. -/
def fractionSpan : Nat := 0x10000000000000

/-- The number of values of the exponent field: two to the power of eleven. -/
def exponentSpan : Nat := 0x800

/-- Whether the sign bit is set. -/
def isNegative (x : Binary64) : Bool := signWord ≤ x.bits.toNat

/-- The biased exponent. -/
def exponentField (x : Binary64) : Nat := x.bits.toNat / fractionSpan % exponentSpan

/-- The stored part of the significand. -/
def fraction (x : Binary64) : Nat := x.bits.toNat % fractionSpan

/-- Neither infinite nor not-a-number. -/
def isFinite (x : Binary64) : Bool := x.exponentField != 2047

/-- The integer significand of a finite number. -/
def significand (x : Binary64) : Nat :=
  if x.exponentField = 0 then x.fraction else fractionSpan + x.fraction

/-- The power of two that the significand is multiplied by. -/
def scale (x : Binary64) : Int :=
  if x.exponentField = 0 then -1074 else (x.exponentField : Int) - 1075

/-- The number with the given sign and the given pattern below the sign bit. -/
def ofMagnitude (negative : Bool) (word : Nat) : Binary64 :=
  ⟨UInt64.ofNat (if negative then signWord + word else word)⟩

/-- The pattern of infinity, which is above those of all finite numbers. -/
def infinityWord : Nat := 2047 * fractionSpan

/-- The pattern of the number nearest to `num / den`. One unit of the pattern is one unit in the
last place, so a significand that rounds up to the next power of two carries into the exponent. -/
def wordOfRatio (num den : Nat) : Nat :=
  if num = 0 then 0
  else
    let q := max (log2Ratio num den - 52) (-1074)
    let m := roundDiv (num * Nat.pow 2 (-q).toNat) (den * Nat.pow 2 q.toNat)
    min ((q + 1074).toNat * fractionSpan + m) infinityWord

/-- The number of decimal digits of a natural number. -/
def digitCount (n : Nat) : Nat := (Nat.toDigits 10 n).length

/-- The pattern of the number nearest to `digits * 10 ^ exponent`. Decimals from `10 ^ 310` up are
infinite and those below `10 ^ -330` are zero, so that no power beyond them is ever formed. -/
def wordOfDecimal (digits : Nat) (exponent : Int) : Nat :=
  if digits = 0 then 0
  else
    let magnitude := (digitCount digits : Int) + exponent
    if magnitude > 310 then infinityWord
    else if magnitude < -330 then 0
    else wordOfRatio (digits * Nat.pow 10 exponent.toNat) (Nat.pow 10 (-exponent).toNat)

/-- The number nearest to plus or minus `digits * 10 ^ exponent`. -/
def ofDecimal (negative : Bool) (digits : Nat) (exponent : Int) : Binary64 :=
  ofMagnitude negative (wordOfDecimal digits exponent)

/-- The number nearest to an integer. -/
def ofInt (n : Int) : Binary64 := ofMagnitude (n < 0) (wordOfRatio n.natAbs 1)

/-- The infinity of a sign. -/
def infinity (negative : Bool) : Binary64 := ofMagnitude negative infinityWord

/-- The quiet not-a-number of a sign. -/
def quietNaN (negative : Bool) : Binary64 := ofMagnitude negative (infinityWord + fractionSpan / 2)

/-- The integer that a number equals, if it is finite and has no fractional part. -/
def whole? (x : Binary64) : Option Int :=
  if x.isFinite then
    let divisor := Nat.pow 2 (-x.scale).toNat
    if x.significand % divisor = 0 then
      let magnitude : Int := (x.significand / divisor * Nat.pow 2 x.scale.toNat : Nat)
      some (if x.isNegative then -magnitude else magnitude)
    else none
  else none

end Binary64
end QueryPlan.Number
