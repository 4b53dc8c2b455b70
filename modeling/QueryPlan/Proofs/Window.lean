import QueryPlan.Proofs.Traversal
import QueryPlan.Settings.Basic

/-!
# The window of a page

A page has a window if its number lies between one and the ceiling and its offset fits a word, and
the window is then determined (`window_eq_ok_iff`). The size of a page is clamped and never refused,
but it decides how far away a page is. So under usable settings the ceiling on page numbers does not
depend on the size as long as the last page of the largest size can be addressed
(`window_exists_iff`); beyond that it does (`endless_ceiling_depends`).
-/

namespace QueryPlan
set_option autoImplicit false
open Number

/-! ### Usable settings -/

/-- What the check of settings asks for. -/
structure Settings.Usable (s : Settings) : Prop where
  defaultPerPage : 1 ≤ s.pagination.defaultPerPage
  default_le : s.pagination.defaultPerPage ≤ s.pagination.maxPerPage
  maxPage : 1 ≤ s.pagination.maxPage
  maxPage_le : (s.pagination.maxPage : Int) ≤ maxSigned
  maxTotalPredicates : 1 ≤ s.limits.maxTotalPredicates
  maxListValues : 1 ≤ s.limits.maxListValues

theorem Settings.fault?_eq_none_iff {s : Settings} : s.fault? = none ↔ s.Usable := by
  constructor
  · intro h
    simp only [Settings.fault?] at h
    split_ifs at h
    constructor <;> omega
  · intro h
    obtain ⟨default_pos, default_le, page_pos, page_le, keys_pos, values_pos⟩ := h
    simp only [Settings.fault?]
    rw [if_neg (by omega), if_neg (by omega), if_neg (by omega), if_neg (by omega)]

/-- Settings are accepted as they are. -/
theorem Settings.validate_eq_ok_iff {s t : Settings} : s.validate = .ok t ↔ s.Usable ∧ s = t := by
  rw [← Settings.fault?_eq_none_iff]
  unfold Settings.validate
  cases s.fault? <;> simp

namespace PageLimits
variable {limits : PageLimits} {page perPage : Option Int} {w : PageWindow}

/-! ### Sizes and windows -/

theorem pageSize_pos (limits : PageLimits) (requested : Option Int) :
    1 ≤ limits.pageSize requested := by
  unfold pageSize
  cases requested with
  | none => simp only; omega
  | some n => simp only; split <;> omega

theorem pageSize_le (limits : PageLimits) (requested : Option Int) :
    limits.pageSize requested ≤ max 1 limits.maxPerPage := by
  unfold pageSize
  cases requested with
  | none => simp only; omega
  | some n => simp only; split <;> omega

/-- Whether a page number is one that the limits allow. -/
def InRange (limits : PageLimits) (number : Int) : Prop := 1 ≤ number ∧ number ≤ limits.maxPage

/-- The number of rows before a page. -/
def rowsBefore (limits : PageLimits) (perPage : Option Int) (number : Int) : Nat :=
  (number.toNat - 1) * limits.pageSize perPage

/-- The window that a page has, if it has any. -/
def windowOf (limits : PageLimits) (perPage : Option Int) (number : Int) : PageWindow where
  page := number.toNat
  perPage := limits.pageSize perPage
  limit := limits.pageSize perPage
  offset := limits.rowsBefore perPage number

theorem inRange_iff {number : Int} :
    limits.InRange number ↔ ¬ (number < 1 ∨ limits.maxPage < number.toNat) := by
  unfold InRange
  omega

/-- What becomes of a request for a page. -/
theorem window_cases (limits : PageLimits) (page perPage : Option Int) :
    (¬ limits.InRange (page.getD 1) ∧ limits.window page perPage =
        .error (Cause.pageOutOfRange (page.getD 1) limits.maxPage).toError) ∨
    (limits.InRange (page.getD 1) ∧ maxUnsigned < limits.rowsBefore perPage (page.getD 1) ∧
      limits.window page perPage =
        .error (Cause.offsetOverflow (page.getD 1).toNat (limits.pageSize perPage)).toError) ∨
    (limits.InRange (page.getD 1) ∧ limits.rowsBefore perPage (page.getD 1) ≤ maxUnsigned ∧
      limits.window page perPage = .ok (limits.windowOf perPage (page.getD 1))) := by
  unfold window
  simp only
  split
  next outside => exact .inl ⟨fun inside => inRange_iff.1 inside outside, rfl⟩
  next inside =>
    rw [← inRange_iff] at inside
    split
    next far => exact .inr (.inl ⟨inside, far, rfl⟩)
    next near => exact .inr (.inr ⟨inside, Nat.le_of_not_lt near, rfl⟩)

theorem window_eq_ok_iff : limits.window page perPage = .ok w ↔
    limits.InRange (page.getD 1) ∧ limits.rowsBefore perPage (page.getD 1) ≤ maxUnsigned ∧
      w = limits.windowOf perPage (page.getD 1) := by
  rcases limits.window_cases page perPage with ⟨outside, failed⟩ | ⟨-, far, failed⟩ |
    ⟨inside, near, found⟩
  · simp [failed, outside]
  · simp [failed, Nat.not_le.2 far]
  · simp [found, inside, near, eq_comm]

/-- The first page has no rows before it. -/
theorem window_first (some_page : 1 ≤ limits.maxPage) (perPage : Option Int) :
    limits.window (some 1) perPage = .ok (limits.windowOf perPage 1) := by
  have near : limits.rowsBefore perPage 1 = 0 := Nat.zero_mul _
  refine window_eq_ok_iff.2 ⟨⟨Int.le_refl 1, Int.ofNat_le.2 some_page⟩, ?_, rfl⟩
  show limits.rowsBefore perPage 1 ≤ maxUnsigned
  omega

/-- A page that has no window is out of range or too far away. -/
theorem code_of_window_error {e : QueryError} (failed : limits.window page perPage = .error e) :
    (e.code = .pageOutOfRange ∧ ¬ limits.InRange (page.getD 1)) ∨
      (e.code = .offsetOverflow ∧ limits.InRange (page.getD 1)) := by
  rcases limits.window_cases page perPage with ⟨outside, same⟩ | ⟨inside, -, same⟩ | ⟨-, -, same⟩
  · cases same.symm.trans failed
    exact .inl ⟨rfl, outside⟩
  · cases same.symm.trans failed
    exact .inr ⟨rfl, inside⟩
  · cases same.symm.trans failed

/-- No page in range is further away than the last one of the largest size. -/
theorem rowsBefore_le {number : Int} (inside : limits.InRange number) (requested : Option Int) :
    limits.rowsBefore requested number ≤ (limits.maxPage - 1) * max 1 limits.maxPerPage := by
  have pages : number.toNat - 1 ≤ limits.maxPage - 1 := by
    have := inside.2
    omega
  exact Nat.mul_le_mul pages (limits.pageSize_le requested)

end PageLimits

/-! ### The ceiling on page numbers -/

/-- **The ceiling on page numbers.** Under settings that are accepted a page has a window if its
number lies between one and the ceiling and its offset fits a word. A page outside that range is
refused as such, whatever size is asked for, and a page inside it only for its offset. If the last
page of the largest size is not too far away, no page inside the range is refused at all. -/
theorem window_exists_iff {s : Settings} (accepted : s.validate = .ok s) (number : Int)
    (perPage : Option Int) :
    ((∃ w, s.pagination.window (some number) perPage = .ok w) ↔
      s.pagination.InRange number ∧ s.pagination.rowsBefore perPage number ≤ maxUnsigned) ∧
    (∀ e, s.pagination.window (some number) perPage = .error e →
      (e.code = .pageOutOfRange ↔ ¬ s.pagination.InRange number) ∧
        (e.code = .offsetOverflow ↔ s.pagination.InRange number)) ∧
    ((s.pagination.maxPage - 1) * s.pagination.maxPerPage ≤ maxUnsigned →
      ((∃ w, s.pagination.window (some number) perPage = .ok w) ↔
        s.pagination.InRange number)) := by
  have usable := (Settings.validate_eq_ok_iff.1 accepted).1
  have exact : (∃ w, s.pagination.window (some number) perPage = .ok w) ↔
      s.pagination.InRange number ∧ s.pagination.rowsBefore perPage number ≤ maxUnsigned := by
    constructor
    · rintro ⟨w, found⟩
      obtain ⟨inside, near, -⟩ := PageLimits.window_eq_ok_iff.1 found
      exact ⟨inside, near⟩
    · rintro ⟨inside, near⟩
      exact ⟨_, PageLimits.window_eq_ok_iff.2 ⟨inside, near, rfl⟩⟩
  refine ⟨exact, ?_, ?_⟩
  · intro e failed
    rcases PageLimits.code_of_window_error failed with ⟨code, outside⟩ | ⟨code, inside⟩
    · exact ⟨by simpa [code] using outside, by simpa [code] using outside⟩
    · exact ⟨by simpa [code] using inside, by simpa [code] using inside⟩
  · intro near
    rw [exact]
    refine and_iff_left_of_imp fun inside => ?_
    have farthest := PageLimits.rowsBefore_le inside perPage
    have largest : max 1 s.pagination.maxPerPage = s.pagination.maxPerPage := by
      have := usable.defaultPerPage
      have := usable.default_le
      omega
    rw [largest] at farthest
    omega

namespace Sample

/-- Settings with the highest ceiling on page numbers that is accepted. -/
def endless : Settings where
  pagination := { maxPage := 0x7FFFFFFFFFFFFFFF }

end Sample

open Sample in
/-- The last page of all has a window for two rows at a time, and none for three. With the limits
that settings have unless they say otherwise it has one for any number of rows. -/
theorem last_page_window :
    endless.validate = .ok endless ∧
      (∃ w, endless.pagination.window (some maxSigned) (some 2) = .ok w) ∧
      (¬ ∃ w, endless.pagination.window (some maxSigned) (some 3) = .ok w) ∧
      ∃ w, ({} : Settings).pagination.window (some 10000) (some 1000000) = .ok w := by
  have accepted : endless.validate = .ok endless := by decide
  refine ⟨accepted, ?_, ?_, ?_⟩
  · exact (window_exists_iff accepted _ _).1.2 ⟨⟨by decide, by decide⟩, by decide⟩
  · intro found
    exact absurd ((window_exists_iff accepted _ _).1.1 found).2 (by decide)
  · have usual : ({} : Settings).validate = .ok {} := by decide
    exact ((window_exists_iff usual _ _).2.2 (by decide)).2 ⟨by decide, by decide⟩

open Sample in
/-- **A ceiling that depends on the size of a page.** Settings are accepted under which a page
within the ceiling has a window for one row at a time, but none for the usual number of rows. -/
theorem endless_ceiling_depends :
    endless.validate = .ok endless ∧
      (∃ w, endless.pagination.window (some maxSigned) (some 1) = .ok w) ∧
      ¬ ((∃ w, endless.pagination.window (some maxSigned) none = .ok w) ↔
        1 ≤ maxSigned ∧ maxSigned ≤ endless.pagination.maxPage) := by
  refine ⟨by decide, ⟨_, rfl⟩, ?_⟩
  intro independent
  obtain ⟨w, found⟩ := independent.2 (by decide)
  have far := (PageLimits.window_eq_ok_iff.1 found).2.1
  exact absurd far (by decide)

end QueryPlan
