import QueryPlan.Proofs.Recognition
import QueryPlan.Proofs.Strictness

/-!
# Dropped keys

Lenient compilation leaves out the keys that nothing is registered for. Deleting these keys from the
request itself, together with the OR-groups that have no others, gives the stripped request
(`Catalog.strip`). It compiles in strict mode to the plan that the request has in lenient mode, and
the plan lists the deleted keys (`dropping_is_erasure`). Nothing else about a request matters for
its plan: the last values of the keys that stay are the same (`lastValues_strip`), and so are the
groups that are not empty (`groupsOf_strip`).
-/

namespace QueryPlan
set_option autoImplicit false

/-! ### The stripped request -/

namespace Catalog
variable (c : Catalog)

/-- Whether a filter key spells a registered pair. -/
def knowsFilter (key : String) : Bool := (c.predicates.parseKey key).isSome

/-- Whether an ordering is registered under a sort key. -/
def knowsSort (key : String) : Bool := (c.sorts.resolve? key).isSome

/-- The entries of a map with registered keys. -/
def stripFields (fields : Fields) : Fields := fields.filter fun entry => c.knowsFilter entry.1

/-- A map without its unknown keys. Other values have no keys. -/
def stripValue : Json → Json
  | .map fields => .map (c.stripFields fields)
  | v => v

/-- An input without unknown keys. -/
def stripInput (i : Input) : Input := { i with value := c.stripValue i.value }

/-- Whether a map has keys but none that is registered. -/
def losesAll (fields : Fields) : Bool := !fields.isEmpty && (c.stripFields fields).isEmpty

/-- A request without its unknown keys and without the OR-groups that lose all of their keys. -/
def strip (r : Request) : Request :=
  { r with
    filters := r.filters.map c.stripInput
    groups := (r.groups.filter fun i => !c.losesAll i.value.fields).map c.stripInput
    sort := r.sort.filter c.knowsSort }

/-- The keys that a request is stripped of: those of the filter maps once each, in the order of
first occurrence; those of each OR-group with the index of the group; sort keys as often as they
occur. -/
def deletedKeys (r : Request) : List DroppedKey :=
  let unknown (group : Option Nat) (keys : List String) : List DroppedKey :=
    (keys.filter fun key => !c.knowsFilter key).map fun key => ⟨key, .unknownPredicate, group⟩
  unknown none (r.filterFields.map Prod.fst).eraseDups ++
    (r.groupFields.zipIdx.flatMap fun group => unknown (some group.2) (group.1.map Prod.fst)) ++
      (r.sort.filter fun key => !c.knowsSort key).map fun key => ⟨key, .unknownSort, none⟩

end Catalog

/-! ### What stays -/

section
variable {c : Catalog} {r : Request}

theorem fields_stripValue (v : Json) : (c.stripValue v).fields = c.stripFields v.fields := by
  cases v <;> rfl

theorem filterFields_strip : (c.strip r).filterFields = c.stripFields r.filterFields := by
  simp only [Request.filterFields, Catalog.strip, List.flatMap_map, Catalog.stripInput,
    fields_stripValue]
  exact List.filter_flatMap.symm

theorem groupFields_strip : (c.strip r).groupFields =
    (r.groupFields.filter fun fields => !c.losesAll fields).map c.stripFields := by
  simp only [Request.groupFields, Catalog.strip, List.map_map, List.filter_map]
  refine List.map_congr_left fun i _ => ?_
  exact fields_stripValue i.value

/-- A group that loses all of its keys has none that could stay. -/
theorem flatten_groupFields_strip (groups : List Fields) :
    ((groups.filter fun fields => !c.losesAll fields).map c.stripFields).flatten =
      c.stripFields groups.flatten := by
  induction groups with
  | nil => rfl
  | cons fields groups ih =>
    have split : c.stripFields (fields :: groups).flatten =
        c.stripFields fields ++ c.stripFields groups.flatten := List.filter_append ..
    rw [split, ← ih, List.filter_cons]
    cases lost : c.losesAll fields with
    | false => rfl
    | true =>
      have none : c.stripFields fields = [] := by
        simp only [Catalog.losesAll, Bool.and_eq_true, List.isEmpty_iff] at lost
        exact lost.2
      rw [none]
      rfl

/-- Stripping leaves the last values of the keys that stay. -/
theorem lastValues_strip :
    lastValues (c.strip r).filterFields = c.stripFields (lastValues r.filterFields) := by
  rw [filterFields_strip]
  exact lastValues_filter ..

/-! ### Admission -/

/-- A request without a fault in its inputs is admitted. -/
theorem admitted_of_inputFault? {q : Request} (sound : q.inputFault? = none) :
    ∃ a, q.admit = .ok a := by
  rw [← reported_admit] at sound
  exact exists_of_reported sound

/-- Stripping leaves the kind of a value and its permission as they are. -/
theorem faultUnless_isFilterMap_strip (i : Input) :
    (c.stripInput i).faultUnless Input.isFilterMap = i.faultUnless Input.isFilterMap := by
  obtain ⟨value, permission⟩ := i
  cases value <;> rfl

/-- A group that keeps a key is none that could be refused for being empty. -/
theorem faultUnless_isGroupMap_strip {i : Input}
    (accepted : i.faultUnless Input.isGroupMap = none)
    (kept : c.losesAll i.value.fields = false) :
    (c.stripInput i).faultUnless Input.isGroupMap = none := by
  obtain ⟨value, permission⟩ := i
  cases value with
  | map fields =>
    have some_entry : fields.isEmpty = false := by
      cases fields with
      | nil => cases permission <;> cases accepted
      | cons entry rest => rfl
    have stays : (c.stripFields fields).isEmpty = false := by
      simpa [Catalog.losesAll, Json.fields, some_entry] using kept
    cases permission <;>
      simp_all [Input.faultUnless, Catalog.stripInput, Catalog.stripValue, Input.isGroupMap]
  | _ => exact accepted

theorem inputFault?_strip (h : r.inputFault? = none) : (c.strip r).inputFault? = none := by
  obtain ⟨filters, groups⟩ := Option.or_eq_none_iff.1 h
  rw [List.findSome?_eq_none_iff] at filters groups
  refine Option.or_eq_none_iff.2 ⟨?_, ?_⟩
  · refine List.findSome?_eq_none_iff.2 (List.forall_mem_map.2 fun i member => ?_)
    rw [faultUnless_isFilterMap_strip, filters i member]
  · refine List.findSome?_eq_none_iff.2 (List.forall_mem_map.2 fun i member => ?_)
    obtain ⟨inside, kept⟩ := List.mem_filter.1 member
    exact faultUnless_isGroupMap_strip (groups i inside) (by simpa using kept)

theorem sizeFault?_eq_none_iff {limits : RequestLimits} : r.sizeFault? limits = none ↔
    r.keyCount ≤ limits.maxTotalPredicates ∧ r.groups.length ≤ limits.maxGroups ∧
      r.sort.length ≤ limits.maxSortKeys := by
  unfold Request.sizeFault?
  split_ifs <;> simp only [false_iff, true_iff] <;> omega

/-- Stripping a request makes no part of it larger. -/
theorem sizeFault?_strip {limits : RequestLimits} (h : r.sizeFault? limits = none) :
    (c.strip r).sizeFault? limits = none := by
  obtain ⟨keys, groups, sort⟩ := sizeFault?_eq_none_iff.1 h
  have fewer_keys : (c.strip r).keyCount ≤ r.keyCount := by
    rw [Request.keyCount, filterFields_strip, groupFields_strip, flatten_groupFields_strip]
    exact Nat.add_le_add (List.length_filter_le ..) (List.length_filter_le ..)
  have fewer_groups : (c.strip r).groups.length ≤ r.groups.length := by
    simp only [Catalog.strip, List.length_map]
    exact List.length_filter_le ..
  have fewer_sorts : (c.strip r).sort.length ≤ r.sort.length := List.length_filter_le ..
  exact sizeFault?_eq_none_iff.2 ⟨by omega, by omega, by omega⟩

end

/-! ### Recognition -/

section
variable (c : Catalog)

theorem known_stripFields (fields : Fields) :
    c.predicates.known (c.stripFields fields) = c.predicates.known fields := by
  unfold PredicateRegistry.known Catalog.stripFields
  rw [List.filterMap_filter]
  refine List.filterMap_congr fun entry _ => ?_
  unfold Catalog.knowsFilter
  cases c.predicates.parseKey entry.1 <;> rfl

theorem unknown_stripFields (group : Option Nat) (fields : Fields) :
    c.predicates.unknown group (c.stripFields fields) = [] := by
  have none_left : ((c.stripFields fields).filter fun entry =>
      (c.predicates.parseKey entry.1).isNone) = [] := by
    refine List.filter_eq_nil_iff.2 fun entry member => ?_
    have known : (c.predicates.parseKey entry.1).isSome = true := (List.mem_filter.1 member).2
    simp [Option.isSome_iff_ne_none.1 known]
  rw [PredicateRegistry.unknown, none_left]
  rfl

/-- A group that loses all of its keys would be left out anyway. -/
theorem groupsOf_strip (limits : RequestLimits) (groups : List Fields) :
    groupsOf limits (((groups.filter fun fields => !c.losesAll fields).map c.stripFields).map
      c.predicates.known) = groupsOf limits (groups.map c.predicates.known) := by
  have recognized : ((groups.filter fun fields => !c.losesAll fields).map c.stripFields).map
      c.predicates.known = (groups.filter fun fields => !c.losesAll fields).map
        c.predicates.known := by
    rw [List.map_map]
    exact List.map_congr_left fun fields _ => known_stripFields c fields
  have left_out (fields : Fields) :
      (!(c.predicates.known fields).isEmpty && !c.losesAll fields) =
        !(c.predicates.known fields).isEmpty := by
    cases lost : c.losesAll fields with
    | false => exact Bool.and_true _
    | true =>
      have nothing : c.stripFields fields = [] := by
        simp only [Catalog.losesAll, Bool.and_eq_true, List.isEmpty_iff] at lost
        exact lost.2
      rw [← known_stripFields, nothing]
      rfl
  unfold groupsOf
  rw [recognized, List.filter_map, List.filter_map, List.filter_filter]
  simp only [Function.comp_apply, left_out]
  rfl

/-- Sort keys that occur again are those that stay. -/
theorem known_strip_sorts (keys : List String) :
    c.sorts.known (keys.filter c.knowsSort) = c.sorts.known keys := by
  rw [SortRegistry.known, SortRegistry.known, eraseDups_filter, List.filterMap_filter]
  refine List.filterMap_congr fun key _ => ?_
  unfold Catalog.knowsSort
  cases c.sorts.resolve? key <;> rfl

theorem unknown_strip_sorts (keys : List String) :
    c.sorts.unknown (keys.filter c.knowsSort) = [] := by
  have none_left : ((keys.filter c.knowsSort).filter fun key =>
      (c.sorts.resolve? key).isNone) = [] := by
    refine List.filter_eq_nil_iff.2 fun key member => ?_
    have known : (c.sorts.resolve? key).isSome = true := (List.mem_filter.1 member).2
    simp [Option.isSome_iff_ne_none.1 known]
  rw [SortRegistry.unknown, none_left]
  rfl

end

section
variable {c : Catalog} {r : Request} {a b : Admitted}

/-- A stripped request has no unknown keys. -/
theorem unknown_strip (h : (c.strip r).Admits b) : (c.recognize b).unknown = [] := by
  have groups : ((c.strip r).groupFields.zipIdx.flatMap fun entry =>
      c.predicates.unknown (some entry.2) entry.1) = [] := by
    refine List.flatMap_eq_nil_iff.2 fun entry member => ?_
    have inside := List.fst_mem_of_mem_zipIdx member
    rw [groupFields_strip] at inside
    obtain ⟨fields, -, stripped⟩ := List.mem_map.1 inside
    rw [← stripped, unknown_stripFields]
  rw [recognize_eq c h, groups, lastValues_strip, unknown_stripFields]
  exact unknown_strip_sorts c r.sort

/-- The unknown keys of a request are the ones that it is stripped of. -/
theorem dropped_eq_deletedKeys (h : r.Admits a) :
    (c.recognize a).unknown.map UnknownKey.dropped = c.deletedKeys r := by
  have filters (group : Option Nat) (fields : Fields) :
      (c.predicates.unknown group fields).map UnknownKey.dropped =
        ((fields.map Prod.fst).filter fun key => !c.knowsFilter key).map
          fun key => ⟨key, .unknownPredicate, group⟩ := by
    rw [unknown_eq, List.map_map]
    simp only [Catalog.knowsFilter, Option.not_isSome]
    rfl
  have sorts : (c.sorts.unknown r.sort).map UnknownKey.dropped =
      (r.sort.filter fun key => !c.knowsSort key).map fun key => ⟨key, .unknownSort, none⟩ := by
    rw [SortRegistry.unknown, List.map_map]
    simp only [Catalog.knowsSort, Option.not_isSome]
    rfl
  rw [recognize_eq c h]
  simp only [List.map_append, List.map_flatMap, filters, sorts, map_fst_lastValues]
  rfl

end

/-! ### Compilation -/

/-- Plans of keys that compile to the same conditions, groups and orderings are the same up to what
was dropped. -/
theorem Recognized.plan_eq_map {stripped found : Recognized} {strict lenient : Settings}
    {q r : Request} (same : strict.SameLimits lenient)
    (pages : q.page = r.page ∧ q.perPage = r.perPage)
    (filters : stripped.filters = found.filters)
    (groups : groupsOf lenient.limits stripped.groups = groupsOf lenient.limits found.groups)
    (order : stripped.order = found.order) (unknown : stripped.unknown = []) :
    stripped.plan strict q = (found.plan lenient r).map fun p => { p with dropped := [] } := by
  unfold plan
  rw [same.limits, same.pagination, pages.1, pages.2, filters, groups, order, unknown]
  cases conditionsOf lenient.limits found.filters with
  | error e => rfl
  | ok conditions =>
    cases groupsOf lenient.limits found.groups with
    | error e => rfl
    | ok groups =>
      cases lenient.pagination.window r.page r.perPage with
      | error e => rfl
      | ok window => rfl

section
variable {c : Catalog} {strict lenient : Settings} {r : Request} {a : Admitted}

/-- Once a request is admitted, stripping it first has the outcome of leaving its unknown keys
out. -/
theorem compile_strip (same : strict.SameLimits lenient) (isLenient : lenient.isStrict = false)
    (admitted : r.admit = .ok a) (sized : a.checkSize lenient.limits = .ok ()) :
    c.compile strict (c.strip r) =
      (c.compile lenient r).map fun p => { p with dropped := [] } := by
  have admits := admit_eq_ok admitted
  have input : r.inputFault? = none := by
    rw [← reported_admit, admitted]
    rfl
  have size : r.sizeFault? lenient.limits = none := by
    rw [← reported_checkSize admits, sized]
    rfl
  obtain ⟨b, stripped_admitted⟩ := admitted_of_inputFault? (inputFault?_strip (c := c) input)
  have stripped := admit_eq_ok stripped_admitted
  obtain ⟨⟨⟩, stripped_sized⟩ := exists_of_reported
    ((reported_checkSize stripped strict.limits).trans
      (same.limits ▸ sizeFault?_strip (c := c) size))
  rw [Catalog.compile_of_known stripped_admitted stripped_sized (.inr (unknown_strip stripped)),
    Catalog.compile_of_known admitted sized (.inl isLenient)]
  refine Recognized.plan_eq_map same ⟨rfl, rfl⟩ ?_ ?_ ?_ (unknown_strip stripped)
  · rw [recognize_eq c stripped, recognize_eq c admits, lastValues_strip]
    exact known_stripFields c _
  · rw [recognize_eq c stripped, recognize_eq c admits, groupFields_strip]
    exact groupsOf_strip c lenient.limits r.groupFields
  · rw [recognize_eq c stripped, recognize_eq c admits]
    exact known_strip_sorts c r.sort

theorem dropped_of_compile {p : Plan} (h : c.compile lenient r = .ok p) :
    p.dropped = c.deletedKeys r := by
  obtain ⟨a, stages⟩ := compile_eq_ok_iff.1 h
  rw [stages.dropped, dropped_eq_deletedKeys (admit_eq_ok stages.admitted)]

end

/-- **Dropping is erasure.** A request that compiles in lenient mode has, stripped of its unknown
keys, the same plan under any settings with the same limits, strict ones included, except that
nothing is dropped from it; what was dropped are the deleted keys. And a request compiles in lenient
mode if it is admitted, is not too large, and compiles once it is stripped. -/
theorem dropping_is_erasure {strict lenient : Settings} (same : strict.SameLimits lenient)
    (isLenient : lenient.isStrict = false) (e : EntityType) (r : Request) :
    (∀ p, e.compile lenient r = .ok p →
      e.compile strict (e.catalog.strip r) = .ok { p with dropped := [] } ∧
        p.dropped = e.catalog.deletedKeys r) ∧
    ∀ a q, r.admit = .ok a → a.checkSize lenient.limits = .ok () →
      e.compile strict (e.catalog.strip r) = .ok q →
        e.compile lenient r = .ok { q with dropped := e.catalog.deletedKeys r } := by
  simp only [EntityType.compile_eq_ok_iff_catalog]
  constructor
  · intro p made
    obtain ⟨a, stages⟩ := compile_eq_ok_iff.1 made
    refine ⟨?_, dropped_of_compile made⟩
    rw [compile_strip same isLenient stages.admitted stages.sized, made]
    rfl
  · intro a q admitted sized stripped
    rw [compile_strip same isLenient admitted sized] at stripped
    cases made : e.catalog.compile lenient r with
    | error error =>
      rw [made] at stripped
      cases stripped
    | ok p =>
      rw [made] at stripped
      cases stripped
      rw [← dropped_of_compile made]

namespace Sample

/-- A request with unknown keys everywhere: one of them in both filter maps, the only one of the
first OR-group, and a sort key that occurs twice. The title is asked for twice. -/
def garbled : Request where
  filters := [.inherent (.map [("colour", .null), ("title_eq", .text "Coq"), ("size", .int 1)]),
    .inherent (.map [("size", .int 2), ("title_eq", .text "Lean")])]
  groups := [.inherent (.map [("colour_eq", .text "red")]),
    .inherent (.map [("views_null", .bool true), ("views_most", .int 3)])]
  sort := ["title:up", "title:asc", "title:up", "title:asc"]

/-- The request without its unknown keys. -/
def ungarbled : Request where
  filters := [.inherent (.map [("title_eq", .text "Coq")]),
    .inherent (.map [("title_eq", .text "Lean")])]
  groups := [.inherent (.map [("views_null", .bool true)])]
  sort := ["title:asc", "title:asc"]

/-- The plan of `ungarbled`. -/
def ungarbledPlan : Plan where
  conditions := [⟨"title", .eq, .one (.text "Lean")⟩]
  groups := [[⟨"views", .null, .none⟩]]
  order := [⟨"title", .asc, none, false⟩]
  window := ⟨1, 25, 25, 0⟩
  dropped := []

/-- The unknown keys of `garbled`, as a plan lists them. -/
def garbledKeys : List DroppedKey :=
  [⟨"colour", .unknownPredicate, none⟩, ⟨"size", .unknownPredicate, none⟩,
    ⟨"colour_eq", .unknownPredicate, some 0⟩, ⟨"views_most", .unknownPredicate, some 1⟩,
    ⟨"title:up", .unknownSort, none⟩, ⟨"title:up", .unknownSort, none⟩]

end Sample

open Sample in
/-- The keys of the second group are listed with its index in the request, although the group is the
only one that is left. -/
theorem garbled_erased :
    articles.catalog.strip garbled = ungarbled ∧
      articles.catalog.deletedKeys garbled = garbledKeys ∧
      articles.compile { strictMode := true } ungarbled = .ok ungarbledPlan ∧
      articles.compile {} garbled = .ok { ungarbledPlan with dropped := garbledKeys } := by
  have same : Settings.SameLimits { strictMode := true } {} := ⟨rfl, rfl⟩
  have stripped : articles.catalog.strip garbled = ungarbled := rfl
  have deleted : articles.catalog.deletedKeys garbled = garbledKeys := rfl
  have made : articles.compile {} garbled = .ok { ungarbledPlan with dropped := garbledKeys } := rfl
  have erased := (dropping_is_erasure same rfl articles garbled).1 _ made
  exact ⟨stripped, deleted, stripped ▸ erased.1, made⟩

end QueryPlan
