import QueryPlan.Proofs.DecimalIntegers
import QueryPlan.Proofs.IntegerOperands

/-!
# Integers of any size

A page number may be a numeral of any length, or a number of any size, but what is read is a word: a
numeral that no word holds is read as the end of the range towards which its sign points. That is
the nearest word to what it denotes, and rounding a number that is too large to be kept exactly does
not change the nearest word either (`integer_text_saturates`). A text without a digit is refused.
-/

namespace QueryPlan
set_option autoImplicit false
open Number

/-- The integer that a number is written as. In the range of words, signed or not, the number is
kept as it is, and beyond it, like minus zero, as the nearest floating-point number. -/
inductive Json.IsIntegerNumber : Json → Int → Prop where
  | word {n : Int} (low : minSigned ≤ n) (high : n ≤ maxUnsigned) : IsIntegerNumber (.int n) n
  | rounded {x : Binary64} {n : Int} (nearest : x.IsNearest n)
    (kept : x.value = n ∨ n < minSigned ∨ maxUnsigned < n) : IsIntegerNumber (.float x) n

/-! ### Texts without digits -/

namespace Number
variable {s : List Char}

/-- A text has a decimal digit. -/
def HasDigit (s : List Char) : Prop := ∃ c ∈ s, c.isDigit = true

theorem IsDigits.hasDigit (run : IsDigits s) : HasDigit s := by
  obtain ⟨c, rest, rfl⟩ := List.exists_cons_of_ne_nil run.nonempty
  exact ⟨c, List.mem_cons_self, run.all c List.mem_cons_self⟩

theorem HasDigit.cons {c : Char} (h : HasDigit s) : HasDigit (c :: s) := by
  obtain ⟨d, member, digit⟩ := h
  exact ⟨d, List.mem_cons_of_mem c member, digit⟩

theorem IsNumeral.hasDigit {n : Int} (h : IsNumeral s n) : HasDigit s := by
  cases h with
  | unsigned run => exact run.hasDigit
  | plus run => exact run.hasDigit.cons
  | minus run => exact run.hasDigit.cons

theorem IsMantissa.hasDigit {m : ℚ} (h : IsMantissa s m) : HasDigit s := by
  cases h with
  | whole run => exact run.hasDigit
  | point run =>
    obtain ⟨c, member, digit⟩ := run.hasDigit
    refine ⟨c, ?_, digit⟩
    rcases List.mem_append.1 member with before | behind
    · exact List.mem_append_left _ before
    · exact List.mem_append_right _ (List.mem_cons_of_mem _ behind)

theorem IsMagnitude.hasDigit {m : ℚ} (h : IsMagnitude s m) : HasDigit s := by
  cases h with
  | parts digits power =>
    obtain ⟨c, member, digit⟩ := digits.hasDigit
    exact ⟨c, List.mem_append_left _ member, digit⟩

theorem IsDecimal.hasDigit {r : ℚ} (h : IsDecimal s r) : HasDigit s := by
  cases h with
  | unsigned magnitude => exact magnitude.hasDigit
  | plus magnitude => exact magnitude.hasDigit.cons
  | minus magnitude => exact magnitude.hasDigit.cons

end Number

/-! ### What is read -/

namespace Request

/-- A number that is written as an integer is read as the nearest word. -/
theorem word?_of_isIntegerNumber {v : Json} {n : Int} (written : v.IsIntegerNumber n) :
    word? v = some (saturate n) := by
  cases written with
  | word low high => rfl
  | @rounded x n nearest kept =>
    -- Rounding may change the integer, but only beyond an end of the range.
    have near : ∃ m : ℤ, x.value = m ∧ saturate m = saturate n := by
      rcases kept with exact_value | small | large
      · exact ⟨n, exact_value, rfl⟩
      · exact exists_saturate_of_reaches nearest (.inl (by exact_mod_cast small.le))
      · have high : maxSigned ≤ n := by
          unfold maxSigned maxUnsigned at *
          omega
        exact exists_saturate_of_reaches nearest (.inr (by exact_mod_cast high))
    obtain ⟨m, value, same⟩ := near
    rw [word?, (Binary64.whole?_eq_some_iff nearest.finite).2 value, Option.map_some, same]

/-- Nothing is read from a text without digits. -/
theorem wordOfText?_of_not_hasDigit {s : List Char} (bare : ¬ HasDigit s) :
    wordOfText? s = none := by
  have no_numeral : integer? s = none := by
    cases read : integer? s with
    | none => rfl
    | some n => exact absurd (integer?_eq_some_iff.1 read).hasDigit bare
  have no_decimal : decimal? s = none := by
    cases read : decimal? s with
    | none => rfl
    | some d => exact absurd (isDecimal_iff.2 ⟨d, read, rfl⟩).hasDigit bare
  rw [wordOfText?_of_not_numeral no_numeral, finite?, no_decimal]
  rfl

end Request

/-- **Integers of any size are read as the nearest word.** A text that holds a numeral between
blanks, of any length and with any zeros in front, is read as what the numeral denotes or as the end
of the 64-bit range nearest to it, and so is a number that is written as an integer. A text without
a digit is refused as a fault in the shape of the request. -/
theorem integer_text_saturates (key : String) :
    (∀ (s : String) (n : Int), IsNumeral (Text.trimChars s.toList) n →
      Request.integerField key (.text s) = .ok (some (max (-2 ^ 63) (min n (2 ^ 63 - 1))))) ∧
    (∀ (v : Json) (n : Int), v.IsIntegerNumber n →
      Request.integerField key v = .ok (some (max (-2 ^ 63) (min n (2 ^ 63 - 1))))) ∧
    ∀ s : String, (∀ c ∈ s.toList, c.isDigit = false) →
      ∃ e, Request.integerField key (.text s) = .error e ∧ e.code = .requestShape ∧
        e = Request.shapeError (.notInteger key (.text s)) := by
  have clamp (n : Int) : saturate n = max (-2 ^ 63) (min n (2 ^ 63 - 1)) := by
    norm_num [saturate, minSigned, maxSigned]
  refine ⟨fun s n denotes => ?_, fun v n written => ?_, fun s bare => ?_⟩
  · rw [← clamp]
    exact Request.integerField_of_word? key (Request.wordOfText?_of_isNumeral denotes)
  · rw [← clamp]
    exact Request.integerField_of_word? key (Request.word?_of_isIntegerNumber written)
  · have unread : Request.wordOfText? (Text.trimChars s.toList) = none := by
      apply Request.wordOfText?_of_not_hasDigit
      rintro ⟨c, member, digit⟩
      rw [bare c (Text.mem_of_mem_trimChars member)] at digit
      cases digit
    exact ⟨_, by rw [Request.integerField_text, unread], rfl, rfl⟩

/-- A numeral with blanks, a sign and zeros is read as the least word, a number from two to the
power of 64 on as the greatest one, and signs alone are refused. -/
theorem long_numeral_clamped :
    IsNumeral (Text.trimChars "\u2003-0009223372036854775809 ".toList) (-9223372036854775809) ∧
    Request.integerField "page" (.text "\u2003-0009223372036854775809 ") =
      .ok (some (-9223372036854775808)) ∧
    Json.IsIntegerNumber (.float ⟨0x43F0000000000000⟩) 18446744073709551616 ∧
    Request.integerField "page" (.float ⟨0x43F0000000000000⟩) = .ok (some 9223372036854775807) ∧
    ∃ e, Request.integerField "page" (.text " +-") = .error e ∧ e.code = .requestShape := by
  have numeral : IsNumeral (Text.trimChars "\u2003-0009223372036854775809 ".toList)
      (-9223372036854775809) := integer?_eq_some_iff.1 (by decide +kernel)
  have power : Binary64.ofInt 18446744073709551616 = ⟨0x43F0000000000000⟩ := by decide +kernel
  have nearest : Binary64.IsNearest ⟨0x43F0000000000000⟩ (18446744073709551616 : Int) := by
    rw [← power]
    exact Binary64.isNearest_ofInt (by decide) (by rw [power]; decide)
  have number : Json.IsIntegerNumber (.float ⟨0x43F0000000000000⟩) 18446744073709551616 :=
    .rounded nearest (.inr (.inr (by decide)))
  have least : max (-2 ^ 63) (min (-9223372036854775809) (2 ^ 63 - 1)) =
      (-9223372036854775808 : Int) := by norm_num
  have greatest : max (-2 ^ 63) (min 18446744073709551616 (2 ^ 63 - 1)) =
      (9223372036854775807 : Int) := by norm_num
  obtain ⟨texts, numbers, refused⟩ := integer_text_saturates "page"
  have low := texts _ _ numeral
  have high := numbers _ _ number
  rw [least] at low
  rw [greatest] at high
  obtain ⟨e, failed, code, -⟩ := refused " +-" (by simp)
  exact ⟨numeral, low, number, high, e, failed, code⟩

end QueryPlan
