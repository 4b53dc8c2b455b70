/-!
# Machine ranges

The ranges of signed and unsigned 64-bit words as bounds on `Int` and `Nat`, and saturation at the
signed bounds.
-/

namespace QueryPlan.Number
set_option autoImplicit false

/-- The least signed 64-bit integer. -/
def minSigned : Int := -0x8000000000000000

/-- The greatest signed 64-bit integer. -/
def maxSigned : Int := 0x7FFFFFFFFFFFFFFF

/-- The greatest unsigned 64-bit integer. -/
def maxUnsigned : Nat := 0xFFFFFFFFFFFFFFFF

/-- Whether an integer fits a signed 64-bit word. -/
def fitsSigned (n : Int) : Bool := minSigned ≤ n && n ≤ maxSigned

/-- The integer of the signed 64-bit range that is nearest to `n`. -/
def saturate (n : Int) : Int := max minSigned (min n maxSigned)

theorem fitsSigned_iff {n : Int} : fitsSigned n = true ↔ minSigned ≤ n ∧ n ≤ maxSigned := by
  simp [fitsSigned]

theorem saturate_of_fits {n : Int} (h : fitsSigned n = true) : saturate n = n := by
  have := fitsSigned_iff.1 h
  simp only [saturate]
  omega

theorem saturate_of_le_min {n : Int} (h : n ≤ minSigned) : saturate n = minSigned := by
  simp only [saturate, minSigned, maxSigned] at h ⊢
  omega

theorem saturate_of_max_le {n : Int} (h : maxSigned ≤ n) : saturate n = maxSigned := by
  simp only [saturate, minSigned, maxSigned] at h ⊢
  omega

end QueryPlan.Number
