/-!
# Reading UTF-8

Bytes to text, either strictly or with every maximal ill-formed part replaced by U+FFFD. A part is
maximal when it is the longest beginning of some well-formed sequence, or one byte if no sequence
begins there.
-/

namespace QueryPlan.Text
set_option autoImplicit false

/-- Whether a byte lies in an inclusive range. -/
def within (lo hi b : UInt8) : Bool := lo ≤ b && b ≤ hi

/-- For a lead byte of a sequence of two to four bytes: the bits it contributes and the inclusive
range of each byte that must follow. The first range is narrowed so that no overlong form, no
surrogate and nothing above U+10FFFF is well-formed. -/
def leadByte? (b : UInt8) : Option (Nat × List (UInt8 × UInt8)) :=
  let tail := (0x80, 0xBF)
  if within 0xC2 0xDF b then some (b.toNat % 0x20, [tail])
  else if b == 0xE0 then some (b.toNat % 0x10, [(0xA0, 0xBF), tail])
  else if b == 0xED then some (b.toNat % 0x10, [(0x80, 0x9F), tail])
  else if within 0xE1 0xEF b then some (b.toNat % 0x10, [tail, tail])
  else if b == 0xF0 then some (b.toNat % 0x08, [(0x90, 0xBF), tail, tail])
  else if within 0xF1 0xF3 b then some (b.toNat % 0x08, [tail, tail, tail])
  else if b == 0xF4 then some (b.toNat % 0x08, [(0x80, 0x8F), tail, tail])
  else none

/-- The bytes that follow a lead byte: how many of them are as they must be, and the code point if
all are. -/
def continuation : Nat → List (UInt8 × UInt8) → List UInt8 → Nat × Option Nat
  | code, [], _ => (0, some code)
  | _, _ :: _, [] => (0, none)
  | code, range :: ranges, b :: rest =>
    if within range.1 range.2 b then
      let (used, code) := continuation (code * 0x40 + b.toNat % 0x40) ranges rest
      (used + 1, code)
    else (0, none)

/-- The characters of a byte sequence, `none` standing for each maximal ill-formed part, after
`skip` bytes that belong to a character already read. -/
def decodeFrom : Nat → List UInt8 → List (Option Char)
  | _, [] => []
  | skip + 1, _ :: rest => decodeFrom skip rest
  | 0, b :: rest =>
    if b < 0x80 then some (Char.ofNat b.toNat) :: decodeFrom 0 rest
    else match leadByte? b with
      | none => none :: decodeFrom 0 rest
      | some (bits, ranges) =>
        let (used, code) := continuation bits ranges rest
        code.map Char.ofNat :: decodeFrom used rest

/-- The text that the bytes spell, if they are well-formed UTF-8. -/
def ofUtf8? (bytes : List UInt8) : Option String :=
  ((decodeFrom 0 bytes).mapM id).map String.ofList

/-- The text that the bytes spell, U+FFFD standing for every maximal ill-formed part. -/
def ofUtf8Lossy (bytes : List UInt8) : String :=
  String.ofList ((decodeFrom 0 bytes).map (·.getD '\uFFFD'))

end QueryPlan.Text
