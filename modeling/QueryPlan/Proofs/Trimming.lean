import Mathlib.Data.List.TakeWhile
import QueryPlan.Text.Blank

/-!
# Trimming

What trimming leaves of a text: the text is that with blanks on both sides (`exists_trimChars_eq`),
so blanks that are put around a text are taken off again (`trimChars_blanks`), and what starts and
ends with characters that are no blanks stays as it is.
-/

namespace QueryPlan.Text
set_option autoImplicit false

variable {s before after : List Char} {c : Char}

/-- A text is what trimming leaves of it between blanks. -/
theorem exists_trimChars_eq (s : List Char) :
    ∃ before after, (∀ c ∈ before, isBlank c = true) ∧ (∀ c ∈ after, isBlank c = true) ∧
      s = before ++ trimChars s ++ after := by
  have front : s.takeWhile isBlank ++ trimStart s = s := List.takeWhile_append_dropWhile
  have back : trimChars s ++ ((trimStart s).reverse.takeWhile isBlank).reverse = trimStart s := by
    have halves : (trimStart s).reverse.takeWhile isBlank ++ trimStart (trimStart s).reverse =
        (trimStart s).reverse := List.takeWhile_append_dropWhile
    rw [trimChars, ← List.reverse_append, halves, List.reverse_reverse]
  refine ⟨s.takeWhile isBlank, ((trimStart s).reverse.takeWhile isBlank).reverse,
    fun c => List.mem_takeWhile_imp, fun c member => ?_, ?_⟩
  · exact List.mem_takeWhile_imp (List.mem_reverse.1 member)
  · rw [List.append_assoc, back, front]

theorem mem_of_mem_trimChars (member : c ∈ trimChars s) : c ∈ s := by
  obtain ⟨before, after, -, -, parts⟩ := exists_trimChars_eq s
  rw [parts]
  simp [member]

/-- Nothing is left of a text just if it is blank. -/
theorem trimChars_eq_nil_iff : trimChars s = [] ↔ ∀ c ∈ s, isBlank c = true := by
  constructor
  · intro none
    obtain ⟨before, after, opens, closes, parts⟩ := exists_trimChars_eq s
    rw [parts, none, List.append_nil]
    exact List.forall_mem_append.2 ⟨opens, closes⟩
  · intro blank
    have front : trimStart s = [] := List.dropWhile_eq_nil_iff.2 blank
    rw [trimChars, front]
    rfl

/-- Blanks around a text make no difference once it is trimmed. -/
theorem trimChars_blanks (opens : ∀ c ∈ before, isBlank c = true)
    (closes : ∀ c ∈ after, isBlank c = true) :
    trimChars (before ++ s ++ after) = trimChars s := by
  by_cases blank : ∀ c ∈ s, isBlank c = true
  · rw [trimChars_eq_nil_iff.2 blank, trimChars_eq_nil_iff]
    exact List.forall_mem_append.2 ⟨List.forall_mem_append.2 ⟨opens, blank⟩, closes⟩
  · have front : trimStart (s ++ after) = trimStart s ++ after := by
      rw [trimStart, List.dropWhile_append, if_neg]
      · rfl
      · rw [List.isEmpty_iff, List.dropWhile_eq_nil_iff]
        exact blank
    have closes_back : ∀ c ∈ after.reverse, isBlank c = true :=
      fun c member => closes c (List.mem_reverse.1 member)
    unfold trimChars
    rw [List.append_assoc, trimStart_blank_append opens, front, List.reverse_append,
      trimStart_blank_append closes_back]

theorem trimChars_trimChars (s : List Char) : trimChars (trimChars s) = trimChars s := by
  obtain ⟨before, after, opens, closes, parts⟩ := exists_trimChars_eq s
  exact (trimChars_blanks opens closes).symm.trans (congrArg trimChars parts.symm)

/-! ### Texts that stay -/

/-- Nothing is taken off a text that starts with a character that is no blank. -/
theorem trimStart_solid_append {core rest : List Char} (nonempty : core ≠ [])
    (solid : ∀ c ∈ core, isBlank c = false) : trimStart (core ++ rest) = core ++ rest := by
  obtain ⟨c, core, rfl⟩ := List.exists_cons_of_ne_nil nonempty
  have first : isBlank c = false := solid c (by simp)
  simp [trimStart, first]

/-- A text that starts and ends with characters that are no blanks is trimmed. -/
theorem trimChars_between {first middle last : List Char} (opens : first ≠ []) (closes : last ≠ [])
    (solid_first : ∀ c ∈ first, isBlank c = false) (solid_last : ∀ c ∈ last, isBlank c = false) :
    trimChars (first ++ (middle ++ last)) = first ++ (middle ++ last) := by
  have solid_back : ∀ c ∈ last.reverse, isBlank c = false := by
    intro c member
    exact solid_last c (List.mem_reverse.1 member)
  have back : (first ++ (middle ++ last)).reverse = last.reverse ++ (first ++ middle).reverse := by
    simp
  unfold trimChars
  rw [trimStart_solid_append opens solid_first, back,
    trimStart_solid_append (by simpa using closes) solid_back, ← back, List.reverse_reverse]

/-- Trimming a text takes off the blanks around its core and no more. -/
theorem trimChars_around {core : List Char} (solid : ∀ c ∈ core, isBlank c = false)
    (opens : ∀ c ∈ before, isBlank c = true) (closes : ∀ c ∈ after, isBlank c = true) :
    trimChars (before ++ core ++ after) = core := by
  have start {t : List Char} (solid : ∀ c ∈ t, isBlank c = false) : trimStart t = t := by
    cases t with
    | nil => rfl
    | cons c t => simp [trimStart, solid c List.mem_cons_self]
  have solid_back : ∀ c ∈ core.reverse, isBlank c = false :=
    fun c member => solid c (List.mem_reverse.1 member)
  rw [trimChars_blanks opens closes, trimChars, start solid, start solid_back, List.reverse_reverse]

/-- A digit is no blank. -/
theorem isBlank_of_isDigit {c : Char} (digit : c.isDigit = true) : isBlank c = false := by
  have range : 48 ≤ c.toNat ∧ c.toNat ≤ 57 := by
    simpa [Char.isDigit, UInt32.le_iff_toNat_le] using digit
  simp only [isBlank, blankRanges, List.any_cons, List.any_nil, Bool.or_eq_false_iff,
    Bool.and_eq_false_iff, decide_eq_false_iff_not, and_true]
  omega

theorem isDigit_of_isBlank {c : Char} (blank : isBlank c = true) : c.isDigit = false := by
  cases digit : c.isDigit with
  | false => rfl
  | true =>
    rw [isBlank_of_isDigit digit] at blank
    cases blank

end QueryPlan.Text
