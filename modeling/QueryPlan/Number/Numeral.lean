import QueryPlan.Number.Binary64
import QueryPlan.Number.Word

/-!
# Numerals

Reading integers and decimals from text, and writing integers. An integer numeral is an optional
sign and one or more ASCII digits, of any length. A decimal numeral has an optional sign, digits
with an optional point (at least one digit on either side of it) and an optional exponent.
-/

namespace QueryPlan.Number
set_option autoImplicit false

/-- The value of an ASCII digit. -/
def digitValue (c : Char) : Nat := c.toNat - 0x30

/-- The number that a run of decimal digits denotes. -/
def ofDigits (digits : List Char) : Nat :=
  digits.foldl (fun n c => 10 * n + digitValue c) 0

@[simp] theorem ofDigits_nil : ofDigits [] = 0 := rfl

theorem ofDigits_snoc (digits : List Char) (c : Char) :
    ofDigits (digits ++ [c]) = 10 * ofDigits digits + digitValue c := by
  simp [ofDigits]

/-- A leading sign taken off: whether it is a minus, and what follows. -/
def splitSign : List Char → Bool × List Char
  | '-' :: rest => (true, rest)
  | '+' :: rest => (false, rest)
  | s => (false, s)

/-- A natural number under a sign. -/
def signed (negative : Bool) (n : Nat) : Int := if negative then -n else n

/-- The number of an unsigned run of one or more digits. -/
def natural? (s : List Char) : Option Nat :=
  if !s.isEmpty && s.all Char.isDigit then some (ofDigits s) else none

/-- The integer of an optionally signed run of one or more digits. -/
def integer? (s : List Char) : Option Int :=
  let (negative, digits) := splitSign s
  (natural? digits).map (signed negative)

/-- The integer of a numeral that fits a signed 64-bit word. -/
def signedWord? (s : List Char) : Option Int := (integer? s).filter fitsSigned

/-- The natural number of a numeral with an optional plus sign that is at most `bound`. -/
def boundedNatural? (bound : Nat) (s : List Char) : Option Nat :=
  let digits := match s with
    | '+' :: rest => rest
    | s => s
  (natural? digits).filter (· ≤ bound)

/-- An integer in decimal digits, with a minus sign if it is negative. -/
def intText (n : Int) : String :=
  if n < 0 then "-" ++ Nat.repr n.natAbs else Nat.repr n.natAbs

/-- A decimal read from text: plus or minus `digits * 10 ^ exponent`. -/
structure Decimal where
  /-- Whether the sign is a minus. -/
  negative : Bool
  /-- All digits as one number. -/
  digits : Nat
  /-- The power of ten. -/
  exponent : Int
  deriving DecidableEq, Repr

/-- The exponent part of a decimal numeral: zero if it is missing. -/
def exponent? : List Char → Option Int
  | [] => some 0
  | c :: rest => if c = 'e' ∨ c = 'E' then integer? rest else none

/-- The decimal of an unsigned numeral with optional point and exponent. -/
def unsignedDecimal? (s : List Char) : Option (Nat × Int) :=
  let whole := s.takeWhile Char.isDigit
  let (fraction, rest) := match s.dropWhile Char.isDigit with
    | '.' :: rest => (rest.takeWhile Char.isDigit, rest.dropWhile Char.isDigit)
    | rest => ([], rest)
  if whole.isEmpty && fraction.isEmpty then none
  else (exponent? rest).map fun e => (ofDigits (whole ++ fraction), e - fraction.length)

/-- The decimal of a numeral with optional sign, point and exponent. -/
def decimal? (s : List Char) : Option Decimal :=
  let (negative, rest) := splitSign s
  (unsignedDecimal? rest).map fun (digits, exponent) => ⟨negative, digits, exponent⟩

/-- The floating-point number nearest to a decimal. -/
def Decimal.toBinary64 (d : Decimal) : Binary64 :=
  Binary64.ofDecimal d.negative d.digits d.exponent

/-- The finite floating-point number that a numeral denotes. The words for infinity and
not-a-number denote none, and neither does a decimal that rounds to infinity. -/
def finite? (s : List Char) : Option Binary64 :=
  ((decimal? s).map Decimal.toBinary64).filter Binary64.isFinite

end QueryPlan.Number
