import Mathlib.Data.List.Basic
import Mathlib.Data.List.Induction
import QueryPlan.Request.Recognized

/-!
# Merged filter maps

Maps merged key by key list each key once: at the place of its first occurrence and with the value
of its last one (`mergeFields_eq`). Keys may be left out before the maps are merged or afterwards
(`lastValues_filter`).
-/

namespace QueryPlan
set_option autoImplicit false

/-! ### Lists without repeats -/

section
variable {α : Type} [BEq α] [LawfulBEq α] {l : List α} {a : α}

/-- A member that occurs again is not listed again. -/
theorem eraseDups_snoc_of_mem (seen : a ∈ l) : (l ++ [a]).eraseDups = l.eraseDups := by
  simp [List.eraseDups_append, List.removeAll, seen]

/-- A new member is listed last. -/
theorem eraseDups_snoc_of_notMem (fresh : a ∉ l) :
    (l ++ [a]).eraseDups = l.eraseDups ++ [a] := by
  simp [List.eraseDups_append, List.removeAll, List.eraseDups_cons, fresh]

/-- Leaving members out of a list and listing each member once can be done in either order. -/
theorem eraseDups_filter (p : α → Bool) (l : List α) :
    (l.filter p).eraseDups = l.eraseDups.filter p := by
  induction l using List.reverseRecOn with
  | nil => rfl
  | append_singleton l a ih =>
    cases kept : p a with
    | false =>
      rw [List.filter_append, List.filter_singleton, kept, cond_false, List.append_nil, ih]
      by_cases seen : a ∈ l
      · rw [eraseDups_snoc_of_mem seen]
      · simp [eraseDups_snoc_of_notMem seen, kept]
    | true =>
      rw [List.filter_append, List.filter_singleton, kept, cond_true]
      by_cases seen : a ∈ l
      · rw [eraseDups_snoc_of_mem (List.mem_filter.2 ⟨seen, kept⟩), eraseDups_snoc_of_mem seen, ih]
      · have fresh : a ∉ l.filter p := fun member => seen (List.mem_filter.1 member).1
        simp [eraseDups_snoc_of_notMem fresh, eraseDups_snoc_of_notMem seen, ih, kept]

theorem length_eraseDups_le (l : List α) : l.eraseDups.length ≤ l.length := by
  induction l using List.reverseRecOn with
  | nil => exact Nat.le_refl _
  | append_singleton l a ih =>
    rw [List.length_append, List.length_singleton]
    by_cases seen : a ∈ l
    · rw [eraseDups_snoc_of_mem seen]
      omega
    · rw [eraseDups_snoc_of_notMem seen, List.length_append, List.length_singleton]
      omega

end

namespace OrderedMap
variable {α : Type}

theorem ofList_snoc (entries : List (String × α)) (entry : String × α) :
    ofList (entries ++ [entry]) = (ofList entries).insert entry.1 entry.2 := by
  simp [ofList, List.foldl_append]

/-- The keys of a list of entries, each once. -/
theorem keys_ofList (entries : List (String × α)) :
    (ofList entries).keys = (entries.map Prod.fst).eraseDups := by
  induction entries using List.reverseRecOn with
  | nil => rfl
  | append_singleton entries entry ih =>
    rw [ofList_snoc, keys_insert, ih, List.map_append, List.map_singleton]
    by_cases h : entry.1 ∈ entries.map Prod.fst
    · rw [if_pos (List.mem_eraseDups.2 h), eraseDups_snoc_of_mem h]
    · rw [if_neg fun m => h (List.mem_eraseDups.1 m), eraseDups_snoc_of_notMem h]

/-- The value of a key is that of its last entry. -/
theorem get?_ofList (entries : List (String × α)) (key : String) :
    (ofList entries).get? key = entries.reverse.lookup key := by
  induction entries using List.reverseRecOn with
  | nil => rfl
  | append_singleton entries entry ih =>
    rw [ofList_snoc, get?_insert, ih, List.reverse_append, List.reverse_singleton,
      List.singleton_append, List.lookup_cons]
    by_cases h : key = entry.1
    · simp [h]
    · rw [if_neg h, beq_false_of_ne h]

/-- A list of entries with distinct keys is what its keys look up in it. -/
theorem filterMap_lookup_keys {entries : List (String × α)} (h : (entries.map Prod.fst).Nodup) :
    ((entries.map Prod.fst).filterMap fun key => (entries.lookup key).map fun v => (key, v)) =
      entries := by
  induction entries with
  | nil => rfl
  | cons entry rest ih =>
    obtain ⟨k, v⟩ := entry
    obtain ⟨fresh, distinct⟩ := List.nodup_cons.1 h
    have tail : ∀ key ∈ rest.map Prod.fst, ((k, v) :: rest).lookup key = rest.lookup key := by
      intro key hk
      have other : key ≠ k := fun e => fresh (e ▸ hk)
      rw [List.lookup_cons, beq_false_of_ne other]
    rw [List.map_cons, List.filterMap_cons, List.lookup_cons_self, Option.map_some]
    refine congrArg ((k, v) :: ·) (Eq.trans (List.filterMap_congr fun key hk => ?_) (ih distinct))
    rw [tail key hk]

theorem entries_eq (m : OrderedMap α) :
    m.entries = m.keys.filterMap fun key => (m.get? key).map fun v => (key, v) :=
  (filterMap_lookup_keys m.nodup).symm

end OrderedMap

/-- Each key of a list of entries once, in the order of first occurrence, with the value of its last
occurrence. -/
def lastValues (entries : Fields) : Fields :=
  (entries.map Prod.fst).eraseDups.filterMap fun key =>
    (entries.reverse.lookup key).map fun v => (key, v)

theorem mergeFields_eq (maps : List Fields) : mergeFields maps = lastValues maps.flatten := by
  rw [mergeFields, OrderedMap.entries_eq, OrderedMap.keys_ofList]
  simp only [OrderedMap.get?_ofList]
  rfl

theorem map_fst_lastValues (entries : Fields) :
    (lastValues entries).map Prod.fst = (entries.map Prod.fst).eraseDups := by
  have merged : mergeFields [entries] = lastValues entries := by
    rw [mergeFields_eq, List.flatten_singleton]
  rw [← merged]
  exact (OrderedMap.keys_ofList _).trans (by rw [List.flatten_singleton])

/-! ### Keys that are left out -/

/-- Entries with other keys do not matter for the value of a key. -/
theorem lookup_filter_keys {α : Type} {keep : String → Bool} {key : String}
    (kept : keep key = true) (entries : List (String × α)) :
    (entries.filter fun entry => keep entry.1).lookup key = entries.lookup key := by
  induction entries with
  | nil => rfl
  | cons entry entries ih =>
    obtain ⟨k, v⟩ := entry
    by_cases same : key = k
    · subst same
      rw [List.filter_cons, if_pos kept, List.lookup_cons_self, List.lookup_cons_self]
    · rw [List.lookup_cons, beq_false_of_ne same, ← ih, List.filter_cons]
      split
      · rw [List.lookup_cons, beq_false_of_ne same]
      · rfl

/-- Leaving keys out before the last values are taken or afterwards is the same. -/
theorem lastValues_filter (keep : String → Bool) (entries : Fields) :
    lastValues (entries.filter fun entry => keep entry.1) =
      (lastValues entries).filter fun entry => keep entry.1 := by
  have keys : (entries.filter fun entry => keep entry.1).map Prod.fst =
      (entries.map Prod.fst).filter keep := by
    rw [List.filter_map]
    rfl
  rw [lastValues, lastValues, keys, eraseDups_filter, List.filterMap_filter,
    List.filter_filterMap]
  refine List.filterMap_congr fun key _ => ?_
  cases kept : keep key with
  | true =>
    rw [← List.filter_reverse, lookup_filter_keys kept]
    cases entries.reverse.lookup key <;> simp [Option.filter, kept]
  | false => cases entries.reverse.lookup key <;> simp [Option.filter, kept]

end QueryPlan
