/-!
# White space

The characters of the Unicode property `White_Space`, and trimming by them. Trimming drops blanks
at both ends and keeps what lies between; blanks before a text do not change it once it is
trimmed (`trimStart_blank_append`).
-/

namespace QueryPlan.Text
set_option autoImplicit false

/-- The code points with the property `White_Space`, as inclusive ranges in ascending order. -/
def blankRanges : List (Nat × Nat) :=
  [(0x09, 0x0D), (0x20, 0x20), (0x85, 0x85), (0xA0, 0xA0), (0x1680, 0x1680),
   (0x2000, 0x200A), (0x2028, 0x2029), (0x202F, 0x202F), (0x205F, 0x205F), (0x3000, 0x3000)]

/-- Whether a character is white space in the sense of Unicode. -/
def isBlank (c : Char) : Bool :=
  blankRanges.any fun range => range.1 ≤ c.toNat && c.toNat ≤ range.2

/-- The blanks at the start removed. -/
def trimStart (s : List Char) : List Char := s.dropWhile isBlank

/-- The blanks at both ends removed. -/
def trimChars (s : List Char) : List Char := (trimStart (trimStart s).reverse).reverse

/-- The blanks at both ends of a text removed. -/
def trim (s : String) : String := String.ofList (trimChars s.toList)

@[simp] theorem toList_trim (s : String) : (trim s).toList = trimChars s.toList := by
  simp [trim]

@[simp] theorem trimStart_nil : trimStart [] = [] := rfl

theorem trimStart_blank_append {b s : List Char} (h : ∀ c ∈ b, isBlank c = true) :
    trimStart (b ++ s) = trimStart s := by
  induction b with
  | nil => rfl
  | cons c b ih =>
    have hc := h c (by simp)
    simp only [trimStart, List.cons_append, List.dropWhile_cons, hc, if_true]
    exact ih fun d hd => h d (by simp [hd])

end QueryPlan.Text
