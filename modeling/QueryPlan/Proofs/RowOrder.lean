import QueryPlan.Proofs.Overriding

/-!
# The order of rows

A plan puts rows in the order of its terms, the first term that tells two rows apart being decisive
(`comparison`). How values compare, how they are lower-cased and where nulls stand unless it is said
is left to the database (`Collation`). A sort key that occurs again is compared again only if all
terms before it, its own first occurrence among them, tell nothing apart. So it decides nothing, and
the plan orders like all recognized keys of the request together (`plan_orders_alike`).
-/

namespace QueryPlan
set_option autoImplicit false
open Sql

/-! ### Comparing rows -/

/-- How a database puts values in order. -/
structure Sql.Collation where
  compare : Value → Value → Ordering
  lower : Value → Value
  /-- Where nulls stand in a direction unless it is said. -/
  nulls : Direction → NullPlacement

/-- The order of values in a direction. -/
def Direction.orient : Direction → Ordering → Ordering
  | .asc, o => o
  | .desc, o => o.swap

/-- The order of values that may be null, from that of the others. -/
def NullPlacement.order (placement : NullPlacement) (values : Value → Value → Ordering) :
    Option Value → Option Value → Ordering
  | some x, some y => values x y
  | none, none => .eq
  | none, some _ => if placement = .first then .lt else .gt
  | some _, none => if placement = .first then .gt else .lt

/-- The order of two rows by one term. -/
def OrderTerm.compare (db : Collation) (t : OrderTerm) (row row' : Row) : Ordering :=
  let key (x : Value) : Value := if t.ignoringCase then db.lower x else x
  let placement := t.nulls.getD (db.nulls t.direction)
  placement.order (fun x y => t.direction.orient (db.compare (key x) (key y))) (row t.column)
    (row' t.column)

/-- The first order that tells apart. -/
def lexicographic (orders : List Ordering) : Ordering := orders.foldr Ordering.then .eq

/-- The order of two rows by several terms, the first one being the most significant. -/
def comparison (db : Collation) (terms : List OrderTerm) (row row' : Row) : Ordering :=
  lexicographic (terms.map fun t => t.compare db row row')

/-! ### Orders that occur again -/

section
variable {orders others : List Ordering} {o : Ordering}

theorem lexicographic_append :
    lexicographic (orders ++ others) = (lexicographic orders).then (lexicographic others) := by
  induction orders with
  | nil => rfl
  | cons o orders ih =>
    show o.then (lexicographic (orders ++ others)) = _
    rw [ih, ← Ordering.then_assoc]
    rfl

/-- Nothing is told apart just if no order does. -/
theorem lexicographic_eq_eq_iff : lexicographic orders = .eq ↔ ∀ o ∈ orders, o = .eq := by
  induction orders with
  | nil => simp [lexicographic]
  | cons o orders ih =>
    rw [List.forall_mem_cons, ← ih]
    exact Ordering.then_eq_eq

/-- An order that occurs again never breaks a tie. -/
theorem lexicographic_snoc_of_mem (member : o ∈ orders) :
    lexicographic (orders ++ [o]) = lexicographic orders := by
  rw [lexicographic_append]
  cases tie : lexicographic orders with
  | lt => rfl
  | gt => rfl
  | eq =>
    rw [lexicographic_eq_eq_iff.1 tie o member]
    rfl

/-- What occurs again can be left out, also among what stands for no order. -/
theorem lexicographic_filterMap_eraseDups {α : Type} [BEq α] [LawfulBEq α]
    (order? : α → Option Ordering) (l : List α) :
    lexicographic (l.eraseDups.filterMap order?) = lexicographic (l.filterMap order?) := by
  induction l using List.reverseRecOn with
  | nil => rfl
  | append_singleton l a ih =>
    rw [List.filterMap_append]
    by_cases seen : a ∈ l
    · rw [eraseDups_snoc_of_mem seen, ih]
      cases order : order? a with
      | none => simp [order]
      | some o =>
        have again := lexicographic_snoc_of_mem (List.mem_filterMap.2 ⟨a, seen, order⟩)
        simpa [order] using again.symm
    · rw [eraseDups_snoc_of_notMem seen, List.filterMap_append, lexicographic_append, ih,
        ← lexicographic_append]

end

/-! ### The terms of a plan -/

namespace SortRegistry

/-- The terms of the recognized ones of some sort keys, as often as they occur. -/
def terms (r : SortRegistry) (keys : List String) : List OrderTerm :=
  keys.filterMap fun key => (r.resolve? key).map SortScope.term

/-- Whether keys are the recognized ones of those asked for, each once, in the order in which they
first occur. -/
structure ListsFirst (r : SortRegistry) (asked keys : List String) : Prop where
  nodup : keys.Nodup
  mem : ∀ key, key ∈ keys ↔ key ∈ asked ∧ (r.resolve? key).isSome = true
  order : keys.Pairwise fun a b => asked.idxOf a < asked.idxOf b

variable {r : SortRegistry}

theorem listsFirst_filter (r : SortRegistry) (asked : List String) :
    r.ListsFirst asked (asked.eraseDups.filter fun key => (r.resolve? key).isSome) where
  nodup := (nodup_eraseDups asked).filter _
  mem key := by rw [List.mem_filter, List.mem_eraseDups]
  order := (pairwise_idxOf_eraseDups asked).filter _

/-- Leaving out keys without a term leaves a term for each key. -/
theorem forall₂_terms (r : SortRegistry) (keys : List String) :
    List.Forall₂ (fun key term => ∃ scope, r.resolve? key = some scope ∧ scope.term = term)
      (keys.filter fun key => (r.resolve? key).isSome) (r.terms keys) := by
  induction keys with
  | nil => exact .nil
  | cons key keys ih =>
    unfold terms at ih ⊢
    cases resolved : r.resolve? key with
    | none => simpa [resolved] using ih
    | some scope =>
      rw [List.filter_cons_of_pos (by simp [resolved]),
        List.filterMap_cons_some (by rw [resolved]; rfl)]
      exact .cons ⟨scope, resolved, rfl⟩ ih

theorem comparison_known (db : Collation) (keys : List String) (row row' : Row) :
    comparison db (r.known keys) row row' = comparison db (r.terms keys) row row' := by
  unfold comparison known terms
  rw [List.map_filterMap, List.map_filterMap]
  exact lexicographic_filterMap_eraseDups _ keys

end SortRegistry

/-- **Repeated sort keys order nothing.** The terms of a plan are those of the recognized sort keys,
each key once and in the order in which they first occur, and the plan puts any two rows in the same
order as the terms of all recognized keys, the repeated ones included. -/
theorem plan_orders_alike {c : Catalog} {s : Settings} {r : Request} {p : Plan}
    (compiled : c.compile s r = .ok p) :
    (∃ keys, c.sorts.ListsFirst r.sort keys ∧
      List.Forall₂ (fun key term => ∃ scope, c.sorts.resolve? key = some scope ∧ scope.term = term)
        keys p.order) ∧
    ∀ db row row', comparison db p.order row row' =
      comparison db (c.sorts.terms r.sort) row row' := by
  obtain ⟨a, stages⟩ := compile_eq_ok_iff.1 compiled
  have order : p.order = c.sorts.known r.sort := by
    rw [stages.order, Catalog.recognize, (admit_eq_ok stages.admitted).sort]
  rw [order]
  constructor
  · exact ⟨_, c.sorts.listsFirst_filter r.sort, c.sorts.forall₂_terms r.sort.eraseDups⟩
  · intro db row row'
    exact SortRegistry.comparison_known db r.sort row row'

namespace Sample

/-- A request to order by titles in three ways, one of them twice, and by a key that is unknown. -/
def byTitle : Request where
  sort := ["title:desc_case_insensitive", "views:asc", "title:asc", "title:desc_case_insensitive",
    "title:desc"]

end Sample

open Sample in
/-- Of the keys for the titles, the repeated one can be left out; no more is left out of the plan
than that and the unknown key. -/
theorem titles_order_alike :
    ∃ p, articles.catalog.compile {} byTitle = .ok p ∧
      p.order = [⟨"title", .desc, none, true⟩, ⟨"title", .asc, none, false⟩,
        ⟨"title", .desc, none, false⟩] ∧
      ∀ db row row', comparison db p.order row row' =
        comparison db [⟨"title", .desc, none, true⟩, ⟨"title", .asc, none, false⟩,
          ⟨"title", .desc, none, true⟩, ⟨"title", .desc, none, false⟩] row row' := by
  have compiled : ∃ p, articles.catalog.compile {} byTitle = .ok p := ⟨_, rfl⟩
  obtain ⟨p, compiled⟩ := compiled
  obtain ⟨-, alike⟩ := plan_orders_alike compiled
  refine ⟨p, compiled, ?_, alike⟩
  cases compiled
  rfl

end QueryPlan
