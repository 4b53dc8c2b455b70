import QueryPlan.Proofs.Dropping
import QueryPlan.Proofs.Filtering
import QueryPlan.Proofs.Parameters
import QueryPlan.Proofs.Window

/-!
# Plans within the ceilings

The ceilings are checked on a request as it arrived, before its filter maps are merged and its
unknown keys are dropped. Nothing that happens afterwards makes the request grow: each entry gives
at most one condition or one dropped key, and each condition binds no more values than a list may
have members, or the two of a range. So the settings alone bound every part of a compiled plan
(`compiled_within`).
-/

namespace QueryPlan
set_option autoImplicit false
open Sql Number

/-! ### Keys -/

/-- Merging makes no list of entries longer. -/
theorem length_lastValues_le (entries : Fields) : (lastValues entries).length ≤ entries.length := by
  rw [← List.length_map Prod.fst, map_fst_lastValues]
  exact (length_eraseDups_le _).trans (List.length_map Prod.fst).le

theorem Request.length_entries_le (r : Request) : r.entries.length ≤ r.keyCount := by
  rw [Request.entries, List.length_append, Request.keyCount]
  exact Nat.add_le_add_right (length_lastValues_le _) _

namespace Catalog.Stages
variable {c : Catalog} {s : Settings} {r : Request} {a : Admitted} {p : Plan}

/-- A request that compiles is within the ceilings. -/
theorem size_le (h : c.Stages s r a p) : r.keyCount ≤ s.limits.maxTotalPredicates ∧
    r.groups.length ≤ s.limits.maxGroups ∧ r.sort.length ≤ s.limits.maxSortKeys := by
  apply sizeFault?_eq_none_iff.1
  rw [← reported_checkSize (admit_eq_ok h.admitted), h.sized]
  rfl

/-- Each entry of a request has at most one condition. -/
theorem conditionCount_le (h : c.Stages s r a p) : p.conditionCount ≤ r.keyCount := by
  have known : p.conditionCount = (c.predicates.known r.entries).length :=
    (conditions_of_stages h).length_eq.symm
  rw [known]
  exact (List.length_filterMap_le ..).trans r.length_entries_le

/-- Groups without recognized keys are left out. -/
theorem length_groups_le (h : c.Stages s r a p) : p.groups.length ≤ r.groups.length := by
  have compiled := (mapM_eq_ok_iff.1 h.groups).length_eq
  have admits := admit_eq_ok h.admitted
  rw [← compiled, recognize_eq c admits]
  refine (List.length_filter_le ..).trans (Nat.le_of_eq ?_)
  rw [List.length_map, Request.groupFields, List.length_map]

/-- A sort key that occurs again orders nothing. -/
theorem length_order_le (h : c.Stages s r a p) : p.order.length ≤ r.sort.length := by
  have admits := admit_eq_ok h.admitted
  rw [h.order, recognize_eq c admits]
  exact (List.length_filterMap_le ..).trans (length_eraseDups_le _)

/-- Each entry and each sort key is dropped at most once. -/
theorem length_dropped_le (h : c.Stages s r a p) :
    p.dropped.length ≤ r.keyCount + r.sort.length := by
  have admits := admit_eq_ok h.admitted
  have reports := congrArg List.length (map_report_recognize (c := c) admits)
  have filters : (c.predicates.unknownReports (r.entries.map Prod.fst)).length ≤ r.keyCount := by
    rw [PredicateRegistry.unknownReports, List.length_map]
    refine (List.length_filter_le ..).trans ?_
    rw [List.length_map]
    exact r.length_entries_le
  have sorts : (r.sort.filter fun key => (c.sorts.resolve? key).isNone).length ≤ r.sort.length :=
    List.length_filter_le ..
  rw [List.length_map, List.length_append, List.length_map] at reports
  rw [h.dropped, List.length_map, reports]
  exact Nat.add_le_add filters sorts

end Catalog.Stages

/-! ### Values -/

/-- A condition holds the members of a list, or at most the two values of a range. -/
theorem KnownKey.Compiles.length_values_le {limits : RequestLimits} {k : KnownKey} {c : Condition}
    (h : k.Compiles limits c) : c.operand.values.length ≤ max 2 limits.maxListValues := by
  have two : 2 ≤ max 2 limits.maxListValues := Nat.le_max_left ..
  cases h with
  | scalar => exact (by decide : 1 ≤ 2).trans two
  | pattern => exact (by decide : 1 ≤ 2).trans two
  | range => exact two
  | @list items values form operand nonempty short coerced =>
    have same : items.length = values.length := (mapM_eq_ok_iff.1 coerced).length_eq
    show values.length ≤ _
    omega
  | flag => exact Nat.zero_le _

theorem length_flatMap_le {α β : Type} {f : α → List β} {most : Nat} {l : List α}
    (each : ∀ a ∈ l, (f a).length ≤ most) : (l.flatMap f).length ≤ l.length * most := by
  induction l with
  | nil => exact Nat.zero_le _
  | cons a l ih =>
    obtain ⟨head, tail⟩ := List.forall_mem_cons.1 each
    have rest := ih tail
    rw [List.flatMap_cons, List.length_append, List.length_cons, Nat.succ_mul]
    omega

/-! ### Plans -/

/-- Whether the settings alone bound every part of a plan. -/
structure Plan.Within (p : Plan) (s : Settings) : Prop where
  conditions : p.conditionCount ≤ s.limits.maxTotalPredicates
  groups : p.groups.length ≤ s.limits.maxGroups
  order : p.order.length ≤ s.limits.maxSortKeys
  dropped : p.dropped.length ≤ s.limits.maxTotalPredicates + s.limits.maxSortKeys
  /-- Every rendering binds the values that the operands hold. -/
  bound : ∀ table d, (p.select table d).params.length = p.paramCount ∧
    (p.count table).params.length = p.paramCount
  params : p.paramCount ≤ s.limits.maxTotalPredicates * max 2 s.limits.maxListValues
  page : 1 ≤ p.window.page ∧ p.window.page ≤ s.pagination.maxPage
  limit : 1 ≤ p.window.limit ∧ p.window.limit ≤ max 1 s.pagination.maxPerPage
  perPage : p.window.perPage = p.window.limit
  offset : p.window.offset = (p.window.page - 1) * p.window.limit ∧
    p.window.offset ≤ maxUnsigned

/-- **The settings bound the plan.** Whatever a catalog has registered and a request asks for, and
whether or not the settings would be accepted, a compiled plan has no more conditions, groups,
orderings, dropped keys and parameters than the ceilings allow, and its window lies on a page within
range. -/
theorem compiled_within {c : Catalog} {s : Settings} {r : Request} {p : Plan}
    (compiled : c.compile s r = .ok p) : p.Within s := by
  obtain ⟨a, h⟩ := compile_eq_ok_iff.1 compiled
  obtain ⟨keys, groups, sorts⟩ := h.size_le
  have wellFormed := (readable_of_stages h).wellFormed
  have each : ∀ condition ∈ p.allConditions,
      condition.operand.values.length ≤ max 2 s.limits.maxListValues := by
    intro condition member
    obtain ⟨k, -, from_key⟩ := exists_of_forall₂_mem (conditions_of_stages h) member
    exact from_key.length_values_le
  have params : p.paramCount ≤ p.conditionCount * max 2 s.limits.maxListValues :=
    length_flatMap_le each
  obtain ⟨⟨first, last⟩, near, window⟩ := PageLimits.window_eq_ok_iff.1 h.window
  refine ⟨h.conditionCount_le.trans keys, h.length_groups_le.trans groups,
    h.length_order_le.trans sorts, ?_, ?_, ?_, ?_, ?_, ?_, ?_⟩
  · exact h.length_dropped_le.trans (Nat.add_le_add keys sorts)
  · intro table d
    rw [Plan.params_select, Plan.params_count, Plan.length_boundValues wellFormed]
    exact ⟨rfl, rfl⟩
  · exact params.trans (Nat.mul_le_mul_right _ (h.conditionCount_le.trans keys))
  · rw [window]
    show 1 ≤ (r.page.getD 1).toNat ∧ (r.page.getD 1).toNat ≤ _
    omega
  · rw [window]
    exact ⟨s.pagination.pageSize_pos r.perPage, s.pagination.pageSize_le r.perPage⟩
  · rw [window]
    rfl
  · rw [window]
    exact ⟨rfl, near⟩

namespace Sample

/-- Settings that would not be accepted, for a page of no rows is of no use. -/
def narrow : Settings where
  pagination := ⟨0, 0, 3⟩
  limits := ⟨5, 2, 3, 2⟩

/-- A request that meets every ceiling of `narrow`: it has a key twice, keys that nothing is
registered for in a filter map and alone in a group, a sort key twice and one that is unknown. -/
def crowded : Request where
  filters := [.inherent (.map [("views_between", .list [.int 1, .int 2]), ("size_gt", .int 3)]),
    .inherent (.map [("views_between", .list [.int 4, .int 5])])]
  groups := [.inherent (.map [("colour_eq", .text "red")]),
    .inherent (.map [("views_in", .list [.int 3, .int 4])])]
  sort := ["title:asc", "title:asc", "views:asc"]
  page := some 3
  perPage := some 50

/-- The plan of `crowded`. -/
def crowdedPlan : Plan where
  conditions := [⟨"views", .between, .range (.int 4) (.int 5)⟩]
  groups := [[⟨"views", .isIn, .list [.int 3, .int 4]⟩]]
  order := [⟨"title", .asc, none, false⟩]
  window := ⟨3, 1, 1, 2⟩
  dropped := [⟨"size_gt", .unknownPredicate, none⟩, ⟨"colour_eq", .unknownPredicate, some 0⟩,
    ⟨"views:asc", .unknownSort, none⟩]

end Sample

open Sample in
/-- Settings that are not even accepted bound a plan as well. -/
theorem crowded_within :
    (∀ s, narrow.validate ≠ .ok s) ∧ articles.catalog.compile narrow crowded = .ok crowdedPlan ∧
      crowdedPlan.Within narrow := by
  have compiled : articles.catalog.compile narrow crowded = .ok crowdedPlan := rfl
  exact ⟨fun s => nofun, compiled, compiled_within compiled⟩

end QueryPlan
