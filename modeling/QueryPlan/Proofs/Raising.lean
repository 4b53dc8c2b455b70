import QueryPlan.Proofs.Stages
import QueryPlan.Proofs.Window

/-!
# Raised ceilings

A ceiling is a gate: what passes it is not changed by how far below it stays. Each stage that looks
at a ceiling has the same result under a higher one (`checkSize_of_raised`, `condition_of_raised`,
`window_of_raised`), so a request that compiles has the same plan however much the ceilings are
raised (`compile_of_raised`). Page sizes are no ceilings in this sense: they are clamped, and
another largest size gives another window.
-/

namespace QueryPlan
set_option autoImplicit false
open Number

/-- Whether ceilings are at least as high as others. -/
structure RequestLimits.Raised (low high : RequestLimits) : Prop where
  maxTotalPredicates : low.maxTotalPredicates ≤ high.maxTotalPredicates
  maxGroups : low.maxGroups ≤ high.maxGroups
  maxSortKeys : low.maxSortKeys ≤ high.maxSortKeys
  maxListValues : low.maxListValues ≤ high.maxListValues

/-- Whether limits on pages give the same sizes as others and allow as many pages at least. -/
structure PageLimits.Raised (low high : PageLimits) : Prop where
  defaultPerPage : high.defaultPerPage = low.defaultPerPage
  maxPerPage : high.maxPerPage = low.maxPerPage
  maxPage : low.maxPage ≤ high.maxPage

/-- Whether settings differ from others by higher ceilings at most. -/
structure Settings.Raised (low high : Settings) : Prop where
  strict : high.isStrict = low.isStrict
  pagination : low.pagination.Raised high.pagination
  limits : low.limits.Raised high.limits

/-! ### Stages that look at a ceiling -/

theorem Admitted.checkSize_eq_ok_iff {a : Admitted} {limits : RequestLimits} :
    a.checkSize limits = .ok () ↔ a.keyCount ≤ limits.maxTotalPredicates ∧
      a.groups.length ≤ limits.maxGroups ∧ a.sort.length ≤ limits.maxSortKeys := by
  unfold checkSize
  split
  · simp only [reduceCtorEq, false_iff]
    omega
  · split
    · simp only [reduceCtorEq, false_iff]
      omega
    · split
      · simp only [reduceCtorEq, false_iff]
        omega
      · simp only [true_iff]
        omega

section
variable {low high : RequestLimits} (raised : low.Raised high)
include raised

theorem Admitted.checkSize_of_raised {a : Admitted} (h : a.checkSize low = .ok ()) :
    a.checkSize high = .ok () := by
  rw [checkSize_eq_ok_iff] at h ⊢
  obtain ⟨keys, groups, sorts⟩ := h
  exact ⟨Nat.le_trans keys raised.maxTotalPredicates, Nat.le_trans groups raised.maxGroups,
    Nat.le_trans sorts raised.maxSortKeys⟩

/-- Only the members of a list are counted against a ceiling, before any of them is coerced. -/
theorem KnownKey.condition_of_raised {k : KnownKey} {condition : Condition}
    (h : k.condition low = .ok condition) : k.condition high = .ok condition := by
  rw [KnownKey.condition_eq] at h ⊢
  cases form : k.kind.form with
  | list =>
    rw [form] at h
    obtain ⟨items, counted, made⟩ := bind_eq_ok_iff.1 h
    obtain ⟨operand, nonempty, short⟩ := members_eq_ok_iff.1 counted
    have room := Nat.le_trans short raised.maxListValues
    apply bind_eq_ok_iff.2
    exact ⟨items, members_eq_ok_iff.2 ⟨operand, nonempty, room⟩, made⟩
  | _ =>
    rw [form] at h
    exact h

theorem conditionsOf_of_raised {keys : List KnownKey} {conditions : List Condition}
    (h : conditionsOf low keys = .ok conditions) : conditionsOf high keys = .ok conditions :=
  mapM_eq_ok_iff.2 ((mapM_eq_ok_iff.1 h).imp fun _ _ => KnownKey.condition_of_raised raised)

theorem groupsOf_of_raised {groups : List (List KnownKey)} {compiled : List (List Condition)}
    (h : groupsOf low groups = .ok compiled) : groupsOf high groups = .ok compiled :=
  mapM_eq_ok_iff.2 ((mapM_eq_ok_iff.1 h).imp fun _ _ => conditionsOf_of_raised raised)

end

namespace PageLimits
variable {low high : PageLimits} (raised : low.Raised high)
include raised

theorem pageSize_of_raised (requested : Option Int) :
    high.pageSize requested = low.pageSize requested := by
  unfold pageSize
  rw [raised.defaultPerPage, raised.maxPerPage]

/-- The offset of a page does not depend on how many pages there may be. -/
theorem window_of_raised {page perPage : Option Int} {w : PageWindow}
    (h : low.window page perPage = .ok w) : high.window page perPage = .ok w := by
  have size := pageSize_of_raised raised perPage
  rw [window_eq_ok_iff] at h ⊢
  obtain ⟨⟨first, last⟩, near, window⟩ := h
  have inside : page.getD 1 ≤ high.maxPage := Int.le_trans last (Int.ofNat_le.2 raised.maxPage)
  refine ⟨⟨first, inside⟩, ?_, ?_⟩
  · rw [rowsBefore, size]
    exact near
  · rw [window, windowOf, windowOf, rowsBefore, rowsBefore, size]

end PageLimits

/-- **Raising a ceiling changes no plan.** Under settings with the same strictness, the same page
sizes and ceilings that are at least as high, whatever compiled compiles to the same plan. -/
theorem compile_of_raised {low high : Settings} (raised : low.Raised high) {c : Catalog}
    {r : Request} {p : Plan} (compiled : c.compile low r = .ok p) : c.compile high r = .ok p := by
  obtain ⟨a, h⟩ := compile_eq_ok_iff.1 compiled
  apply compile_eq_ok_iff.2
  refine ⟨a, h.admitted, ?_, ?_, ?_, ?_, h.order, ?_, h.dropped⟩
  · exact Admitted.checkSize_of_raised raised.limits h.sized
  · rw [raised.strict]
    exact h.known
  · exact conditionsOf_of_raised raised.limits h.conditions
  · exact groupsOf_of_raised raised.limits h.groups
  · exact PageLimits.window_of_raised raised.pagination h.window

namespace Sample

/-- Settings with every ceiling as low as the request `brimming` allows. -/
def low : Settings where
  pagination := ⟨5, 20, 3⟩
  limits := ⟨3, 1, 2, 2⟩

/-- Settings with higher ceilings, strict in neither way. -/
def high : Settings where
  pagination := ⟨5, 20, 4⟩
  limits := ⟨4, 2, 3, 3⟩

/-- A request that meets every ceiling of `low`, for the last page that it allows. -/
def brimming : Request where
  filters := [.inherent (.map [("size_gt", .int 3), ("views_gt", .int 3)])]
  groups := [.inherent (.map [("views_in", .list [.int 3, .int 4])])]
  sort := ["title:asc", "views:up"]
  page := some 3

/-- The plan of `brimming`. -/
def brimmingPlan : Plan where
  conditions := [⟨"views", .gt, .one (.int 3)⟩]
  groups := [[⟨"views", .isIn, .list [.int 3, .int 4]⟩]]
  order := [⟨"title", .asc, none, false⟩]
  window := ⟨3, 5, 5, 10⟩
  dropped := [⟨"size_gt", .unknownPredicate, none⟩, ⟨"views:up", .unknownSort, none⟩]

end Sample

open Sample in
/-- A request that fills its limits to the brim has the same plan when there is more room. -/
theorem brimming_raised :
    low.Raised high ∧ articles.catalog.compile low brimming = .ok brimmingPlan ∧
      articles.catalog.compile high brimming = .ok brimmingPlan := by
  have raised : low.Raised high := ⟨rfl, ⟨rfl, rfl, by decide⟩, by constructor <;> decide⟩
  have compiled : articles.catalog.compile low brimming = .ok brimmingPlan := rfl
  exact ⟨raised, compiled, compile_of_raised raised compiled⟩

end QueryPlan
