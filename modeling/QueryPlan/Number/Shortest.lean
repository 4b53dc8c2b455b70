import QueryPlan.Number.Binary64

/-!
# Shortest decimal digits

The decimal with the fewest digits among those that read back as a given floating-point number,
and of several with that many digits the one nearest to it. The decimals that read back are those
between the midpoints to the two neighbouring numbers; the midpoints themselves belong to a number
with an even significand.
-/

namespace QueryPlan.Number.Binary64
set_option autoImplicit false

/-- The midpoints around a positive finite number, with the number between them, in quarters of its
last place. Below a power of two the neighbour is half as far away. -/
def quarters (x : Binary64) : Nat × Nat × Nat :=
  let v := 4 * x.significand
  let below := if x.fraction = 0 ∧ 1 < x.exponentField then 1 else 2
  (v - below, v, v + 2)

/-- The multiple of `10 ^ power` next to `x` that reads back as `x`, as the multiplier: the nearer
of two, the even one of two equally near. -/
def gridHit? (x : Binary64) (power : Int) : Option Nat :=
  let (low, value, high) := x.quarters
  let factor := Nat.pow 2 (x.scale - 2).toNat * Nat.pow 10 (-power).toNat
  let unit := Nat.pow 2 (2 - x.scale).toNat * Nat.pow 10 power.toNat
  let value := value * factor
  let floor := value / unit
  let inside (a b : Nat) : Bool := if x.significand % 2 = 0 then a ≤ b else a < b
  let lower := inside (low * factor) (floor * unit)
  let upper := inside ((floor + 1) * unit) (high * factor)
  if lower && upper then
    let down := value - floor * unit
    let up := (floor + 1) * unit - value
    some (if down < up ∨ (down = up ∧ floor % 2 = 0) then floor else floor + 1)
  else if lower then some floor
  else if upper then some (floor + 1)
  else none

/-- The first hit on the grids `10 ^ power`, `10 ^ (power - 1)`, and so on. -/
def firstHit (x : Binary64) : Nat → Int → Nat × Int
  | 0, power => (0, power)
  | steps + 1, power =>
    match x.gridHit? power with
    | some digits => (digits, power)
    | none => firstHit x steps (power - 1)

/-- Digits and power of ten of the shortest decimal that reads back as a positive finite number.
The search starts above the leading digit and goes below the seventeenth, where a grid point always
reads back. -/
def shortest (x : Binary64) : Nat × Int :=
  firstHit x 24 ((((x.significand.log2 : Int) + x.scale) * 30103).fdiv 100000 + 2)

end QueryPlan.Number.Binary64
