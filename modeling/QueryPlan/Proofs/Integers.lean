import Mathlib.Algebra.Group.Nat.Defs
import Mathlib.Tactic.SplitIfs
import QueryPlan.Proofs.Trimming
import QueryPlan.Request.Envelope

/-!
# Integers in envelopes

A number without a fraction denotes an integer, and so does a text that holds a numeral between
blanks: one or more digits behind at most one sign. A numeral has no bound on its length and a
number none on its size, but what is read is a word, so an integer is read as the nearest one
(`word?_of_isInteger`).
-/

namespace QueryPlan
set_option autoImplicit false
open Number

/-! ### Numerals -/

namespace Number

/-- A run of one or more decimal digits. -/
structure IsDigits (s : List Char) : Prop where
  nonempty : s ≠ []
  all : ∀ c ∈ s, c.isDigit = true

/-- The digits at the start of a text are taken off where no digit follows. -/
theorem takeWhile_isDigit_append {digits rest : List Char} (all : ∀ c ∈ digits, c.isDigit = true)
    (stop : ∀ c ∈ rest.head?, c.isDigit = false) :
    (digits ++ rest).takeWhile Char.isDigit = digits ∧
      (digits ++ rest).dropWhile Char.isDigit = rest := by
  rw [List.takeWhile_append_of_pos all, List.dropWhile_append_of_pos all]
  cases rest with
  | nil => simp
  | cons c rest =>
    have other := stop c rfl
    simp [other]

/-- The integer that a numeral denotes. -/
inductive IsNumeral : List Char → Int → Prop where
  | unsigned {digits : List Char} (run : IsDigits digits) : IsNumeral digits (ofDigits digits)
  | plus {digits : List Char} (run : IsDigits digits) : IsNumeral ('+' :: digits) (ofDigits digits)
  | minus {digits : List Char} (run : IsDigits digits) :
    IsNumeral ('-' :: digits) (-ofDigits digits)

theorem ofDigits_eq_ofDigitChars (digits : List Char) :
    ofDigits digits = Nat.ofDigitChars 10 digits 0 := by
  rw [Nat.ofDigitChars_eq_foldl]
  rfl

theorem ofDigits_append (digits more : List Char) :
    ofDigits (digits ++ more) = 10 ^ more.length * ofDigits digits + ofDigits more := by
  simp only [ofDigits_eq_ofDigitChars, Nat.ofDigitChars_append]
  exact Nat.ofDigitChars_eq_ofDigitChars_zero

theorem ofDigits_toDigits (n : Nat) : ofDigits (Nat.toDigits 10 n) = n := by
  rw [ofDigits_eq_ofDigitChars]
  exact Nat.ofDigitChars_ten_toDigits

theorem IsDigits.toDigits (n : Nat) : IsDigits (Nat.toDigits 10 n) where
  nonempty := Nat.toDigits_ne_nil
  all _ member := Nat.isDigit_of_mem_toDigits (by decide) (by decide) member

theorem isDigits_iff {s : List Char} :
    IsDigits s ↔ (!s.isEmpty && s.all Char.isDigit) = true := by
  simp only [Bool.and_eq_true, Bool.not_eq_true', List.isEmpty_eq_false_iff, List.all_eq_true]
  exact ⟨fun run => ⟨run.nonempty, run.all⟩, fun run => ⟨run.1, run.2⟩⟩

theorem natural?_eq_some_iff {s : List Char} {n : Nat} :
    natural? s = some n ↔ IsDigits s ∧ ofDigits s = n := by
  rw [natural?, Option.ite_none_right_eq_some, Option.some_inj, isDigits_iff]

theorem splitSign_minus (rest : List Char) : splitSign ('-' :: rest) = (true, rest) := rfl

theorem splitSign_plus (rest : List Char) : splitSign ('+' :: rest) = (false, rest) := rfl

/-- A text starts with a minus, with a plus, or without a sign. -/
theorem splitSign_cases (s : List Char) :
    (∃ rest, s = '-' :: rest ∧ splitSign s = (true, rest)) ∨
      (∃ rest, s = '+' :: rest ∧ splitSign s = (false, rest)) ∨ splitSign s = (false, s) := by
  fun_cases splitSign s with
  | case1 rest => exact .inl ⟨rest, rfl, splitSign_minus rest⟩
  | case2 rest => exact .inr (.inl ⟨rest, rfl, splitSign_plus rest⟩)
  | case3 s unsigned => exact .inr (.inr rfl)

/-- Digits have no sign in front. -/
theorem IsDigits.splitSign {s : List Char} (run : IsDigits s) : splitSign s = (false, s) := by
  rcases splitSign_cases s with ⟨rest, rfl, -⟩ | ⟨rest, rfl, -⟩ | same
  · exact absurd (run.all '-' (by simp)) (by decide)
  · exact absurd (run.all '+' (by simp)) (by decide)
  · exact same

theorem integer?_of_split {s digits : List Char} {negative : Bool}
    (split : Number.splitSign s = (negative, digits)) :
    integer? s = (natural? digits).map (signed negative) := by
  rw [integer?, split]

/-- What is read as an integer are the numerals. -/
theorem integer?_eq_some_iff {s : List Char} {n : Int} :
    integer? s = some n ↔ IsNumeral s n := by
  constructor
  · intro h
    rcases splitSign_cases s with ⟨rest, rfl, split⟩ | ⟨rest, rfl, split⟩ | split
    all_goals
      rw [integer?_of_split split, Option.map_eq_some_iff] at h
      obtain ⟨magnitude, read, rfl⟩ := h
      obtain ⟨run, rfl⟩ := natural?_eq_some_iff.1 read
    · exact .minus run
    · exact .plus run
    · exact .unsigned run
  · intro h
    cases h with
    | unsigned run =>
      rw [integer?_of_split run.splitSign, natural?_eq_some_iff.2 ⟨run, rfl⟩]
      rfl
    | plus run =>
      rw [integer?_of_split (splitSign_plus _), natural?_eq_some_iff.2 ⟨run, rfl⟩]
      rfl
    | minus run =>
      rw [integer?_of_split (splitSign_minus _), natural?_eq_some_iff.2 ⟨run, rfl⟩]
      rfl

end Number

namespace Number.IsNumeral
variable {s : List Char} {n : Int}

theorem nonempty (h : IsNumeral s n) : s ≠ [] := by
  cases h with
  | unsigned run => exact run.nonempty
  | plus run => exact List.cons_ne_nil _ _
  | minus run => exact List.cons_ne_nil _ _

/-- A numeral has no blanks. -/
theorem solid (h : IsNumeral s n) : ∀ c ∈ s, Text.isBlank c = false := by
  have digits {t : List Char} (run : IsDigits t) : ∀ c ∈ t, Text.isBlank c = false :=
    fun c member => Text.isBlank_of_isDigit (run.all c member)
  cases h with
  | unsigned run => exact digits run
  | plus run => exact List.forall_mem_cons.2 ⟨by decide, digits run⟩
  | minus run => exact List.forall_mem_cons.2 ⟨by decide, digits run⟩

end Number.IsNumeral

/-! ### Values -/

/-- The integer that a value denotes. -/
inductive Json.IsInteger : Json → Int → Prop where
  | int (n : Int) : IsInteger (.int n) n
  /-- A number that is too large for an integer, or one whose fraction is zero. -/
  | whole {x : Binary64} {n : Int} (value : x.whole? = some n) : IsInteger (.float x) n
  /-- A numeral between blanks. -/
  | text {s : String} {n : Int} {before numeral after : List Char}
    (parts : s.toList = before ++ numeral ++ after)
    (opens : ∀ c ∈ before, Text.isBlank c = true) (closes : ∀ c ∈ after, Text.isBlank c = true)
    (denotes : Number.IsNumeral numeral n) : IsInteger (.text s) n

namespace Request

/-- A numeral is read as the nearest word: it is one, or it lies beyond the end of the range towards
which its sign points. -/
theorem wordOfText?_of_isNumeral {s : List Char} {n : Int} (denotes : IsNumeral s n) :
    wordOfText? s = some (saturate n) := by
  unfold wordOfText?
  rw [signedWord?, integer?_eq_some_iff.2 denotes, Option.filter_some]
  cases fits : fitsSigned n with
  | true => simp [saturate_of_fits fits]
  | false =>
    have beyond : n < minSigned ∨ maxSigned < n := by
      have outside := mt fitsSigned_iff.2 (by rw [fits]; decide)
      omega
    have below : minSigned ≤ 0 := by decide
    have above : 0 ≤ maxSigned := by decide
    cases denotes with
    | unsigned run =>
      have high : maxSigned ≤ ofDigits s := by omega
      simp [run.splitSign, isDigits_iff.1 run, saturate_of_max_le high]
    | @plus digits run =>
      have high : maxSigned ≤ ofDigits digits := by omega
      simp [splitSign_plus, isDigits_iff.1 run, saturate_of_max_le high]
    | @minus digits run =>
      have low : -(ofDigits digits : Int) ≤ minSigned := by omega
      simp [splitSign_minus, isDigits_iff.1 run, saturate_of_le_min low]

/-- A text that is no numeral is read as a decimal. -/
theorem wordOfText?_of_not_numeral {s : List Char} (unread : integer? s = none) :
    wordOfText? s = ((finite? s).bind Binary64.whole?).map saturate := by
  cases split : splitSign s with
  | mk negative digits =>
    have no_digits : ¬(!digits.isEmpty && digits.all Char.isDigit) = true := by
      intro run
      rw [integer?_of_split split, natural?_eq_some_iff.2 ⟨isDigits_iff.2 run, rfl⟩] at unread
      cases unread
    rw [wordOfText?, signedWord?, unread, split]
    exact if_neg no_digits

/-- An integer is read as the nearest word. -/
theorem word?_of_isInteger {v : Json} {n : Int} (h : v.IsInteger n) :
    word? v = some (saturate n) := by
  cases h with
  | int n => rfl
  | whole value =>
    rw [word?, value]
    rfl
  | text parts opens closes denotes =>
    rw [word?, parts, Text.trimChars_around denotes.solid opens closes]
    exact wordOfText?_of_isNumeral denotes

/-- A value that is read as a word is read so under any key. -/
theorem integerField_of_word? {v : Json} {n : Int} (key : String) (read : word? v = some n) :
    integerField key v = .ok (some n) := by
  unfold integerField
  split
  · cases read
  · rw [read]

/-- An integer under an envelope key is the nearest word. -/
theorem integerField_of_isInteger {v : Json} {n : Int} (key : String) (h : v.IsInteger n) :
    integerField key v = .ok (some (saturate n)) :=
  integerField_of_word? key (word?_of_isInteger h)

end Request
end QueryPlan
