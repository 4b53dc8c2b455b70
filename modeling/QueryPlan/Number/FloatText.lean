import QueryPlan.Number.Numeral
import QueryPlan.Number.Shortest

/-!
# Text of floating-point numbers

Writes the shortest digits of a number either positionally, always with a fraction, or with an
exponent. Which of the two is decided by the exponent of the leading digit and the bounds of a
`FloatLayout`.
-/

namespace QueryPlan.Number
set_option autoImplicit false

/-- The exponents of the leading digit between which a number is written positionally. -/
structure FloatLayout where
  /-- The least exponent written positionally. -/
  least : Int
  /-- The greatest exponent written positionally. -/
  greatest : Int

/-- Zeros in a row. -/
def zeros (n : Nat) : List Char := List.replicate n '0'

/-- Digits times a power of ten, positionally and with at least one digit on either side of the
point. -/
def positional (digits : List Char) (power : Int) : List Char :=
  if 0 ≤ power then digits ++ zeros power.toNat ++ ['.', '0']
  else
    let places := (-power).toNat
    if places < digits.length then
      digits.take (digits.length - places) ++ '.' :: digits.drop (digits.length - places)
    else '0' :: '.' :: (zeros (places - digits.length) ++ digits)

/-- Digits with the exponent of the leading one, which has a sign in any case. -/
def scientific (digits : List Char) (exponent : Int) : List Char :=
  let fraction := digits.drop 1
  digits.take 1 ++ (if fraction.isEmpty then [] else '.' :: fraction) ++
    'e' :: (if exponent < 0 then '-' else '+') :: (Nat.repr exponent.natAbs).toList

/-- The text of a finite number. -/
def FloatLayout.render (layout : FloatLayout) (x : Binary64) : String :=
  let sign := if x.isNegative then ['-'] else []
  if x.significand = 0 then String.ofList (sign ++ ['0', '.', '0'])
  else
    let (n, power) := x.shortest
    let digits := Nat.toDigits 10 n
    let exponent := power + digits.length - 1
    let body :=
      if layout.least ≤ exponent ∧ exponent ≤ layout.greatest then positional digits power
      else scientific digits exponent
    String.ofList (sign ++ body)

end QueryPlan.Number
