import QueryPlan.Proofs.Filtering
import QueryPlan.Proofs.Recognition

/-!
# OR-groups that lose keys

The groups of a compiled plan are those OR-groups of the request that have a registered key, each
with the conditions of its registered keys (`mem_groups_iff`). As long as there is one, a row is
selected only if it meets all that is left of one of them, so a group that has lost all of its keys
is no branch that lets every row pass (`selected_meets_a_group`). If every group has lost all of its
keys nothing is left of the disjunction (`strays_select_all`).
-/

namespace QueryPlan
set_option autoImplicit false
open Sql

/-! ### Rows that a statement selects -/

/-- Whether a statement selects a row: its filter, read back from its text, is true on the row once
the parameters of the statement are bound. -/
def Sql.Statement.Selects (engine : Engine) (d : Dialect) (row : Row) (s : Statement) : Prop :=
  ∃ filter, filterOf? d (s.text d) = some filter ∧ ∀ f ∈ filter, f.Selects engine row s.params

namespace Plan
variable {engine : Engine} {p : Plan}

theorem selects_iff_of_where? {s : Statement} {row : Row} (d : Dialect) (lexical : s.Lexical)
    (read : ∃ filter, where? (s.tokensFrom .postgres 0) = some filter ∧
      filter.isSome = p.hasConditions ∧
        ∀ row, (∀ f ∈ filter, f.Selects engine row s.params) ↔ p.Holds engine row) :
    s.Selects engine d row ↔ p.Holds engine row := by
  obtain ⟨filter, found, -, selects⟩ := read
  have text : filterOf? d (s.text d) = some filter := (filterOf?_text lexical d).trans found
  constructor
  · rintro ⟨other, same, all⟩
    cases text.symm.trans same
    exact (selects row).1 all
  · intro holds
    exact ⟨filter, text, (selects row).2 holds⟩

theorem selects_select_iff (h : p.Readable) (table : String) (d : Dialect) (row : Row) :
    (p.select table d).Selects engine d row ↔ p.Holds engine row := by
  have head : wordsOf "SELECT * FROM " = [.word "SELECT", .mark '*'] ++ [.word "FROM"] := rfl
  have read := where?_statement engine h head (by simp) (by simp) table (p.endsFilter_tail d)
  rw [← List.append_assoc] at read
  exact selects_iff_of_where? d (p.select_lexical table d) read

theorem selects_count_iff (h : p.Readable) (table : String) (d : Dialect) (row : Row) :
    (p.count table).Selects engine d row ↔ p.Holds engine row := by
  have head : wordsOf "SELECT COUNT(*) FROM " =
      [.word "SELECT", .word "COUNT", .mark '(', .mark '*', .mark ')'] ++ [.word "FROM"] := rfl
  have no_tail (count : Nat) : endsFilter (Statement.tokensFrom .postgres count []) = true := rfl
  have read := where?_statement engine h head (by simp) (by simp) table no_tail
  rw [List.append_nil] at read
  exact selects_iff_of_where? d (p.count_lexical table) read

end Plan

/-! ### What is left of a group -/

namespace Catalog

/-- Whether some conditions are what is left of an OR-group of a request once its unknown keys are
dropped, and are any at all. -/
def Survive (c : Catalog) (limits : RequestLimits) (r : Request) (conditions : List Condition) :
    Prop :=
  conditions ≠ [] ∧ ∃ fields ∈ r.groupFields,
    conditionsOf limits (c.predicates.known fields) = .ok conditions

variable {c : Catalog} {s : Settings} {r : Request} {a : Admitted} {p : Plan}

/-- A group has conditions left if it has registered keys. -/
theorem conditions_eq_nil_iff {limits : RequestLimits} {keys : List KnownKey}
    {conditions : List Condition} (h : conditionsOf limits keys = .ok conditions) :
    conditions = [] ↔ keys = [] := by
  have length := (mapM_eq_ok_iff.1 h).length_eq
  rw [← List.length_eq_zero_iff, ← List.length_eq_zero_iff, length]

/-- The groups of a plan are what is left of the groups of the request. -/
theorem mem_groups_iff (h : c.Stages s r a p) {conditions : List Condition} :
    conditions ∈ p.groups ↔ c.Survive s.limits r conditions := by
  have admits := admit_eq_ok h.admitted
  have compiled : List.Forall₂ (fun keys group => conditionsOf s.limits keys = .ok group)
      ((r.groupFields.map c.predicates.known).filter fun keys => !keys.isEmpty) p.groups := by
    rw [← admits.groups]
    exact mapM_eq_ok_iff.1 h.groups
  constructor
  · intro member
    obtain ⟨keys, inside, made⟩ := exists_of_forall₂_mem compiled member
    obtain ⟨recognized, nonempty⟩ := List.mem_filter.1 inside
    obtain ⟨fields, supplied, rfl⟩ := List.mem_map.1 recognized
    refine ⟨fun none => ?_, fields, supplied, made⟩
    rw [conditions_eq_nil_iff made] at none
    simp [none] at nonempty
  · rintro ⟨nonempty, fields, supplied, made⟩
    have some_key : c.predicates.known fields ≠ [] := mt (conditions_eq_nil_iff made).2 nonempty
    have inside : c.predicates.known fields ∈
        (r.groupFields.map c.predicates.known).filter fun keys => !keys.isEmpty :=
      List.mem_filter.2 ⟨List.mem_map_of_mem supplied, by simp [some_key]⟩
    obtain ⟨group, member, same⟩ := exists_of_forall₂_mem compiled.flip inside
    cases made.symm.trans same
    exact member

/-- A registered key in an OR-group leaves a group in the plan. -/
theorem groups_ne_nil (h : c.Stages s r a p) {fields : Fields} {entry : String × Json}
    (supplied : fields ∈ r.groupFields) (inside : entry ∈ fields)
    (registered : (c.predicates.parseKey entry.1).isSome = true) : p.groups ≠ [] := by
  intro none
  obtain ⟨pair, read⟩ := Option.isSome_iff_exists.1 registered
  have some_key : c.predicates.known fields ≠ [] := by
    refine List.ne_nil_of_mem (a := ⟨entry.1, pair.1, pair.2, entry.2⟩) ?_
    exact List.mem_filterMap.2 ⟨entry, inside, by rw [read]; rfl⟩
  have admits := admit_eq_ok h.admitted
  have compiled := (mapM_eq_ok_iff.1 h.groups).length_eq
  rw [none, List.length_nil, List.length_eq_zero_iff, List.filter_eq_nil_iff] at compiled
  have empty := compiled (c.predicates.known fields)
    (List.mem_map_of_mem (admits.groups ▸ supplied))
  simp [some_key] at empty

end Catalog

/-- **A selected row meets all that is left of an OR-group.** If some key in the OR-groups of a
request is registered, its plan selects just the rows that meet the conditions at the top level and
all conditions that are left of one of the groups that have any left. -/
theorem selected_meets_a_group (engine : Engine) {e : EntityType} {s : Settings} {r : Request}
    {p : Plan} (compiled : e.compile s r = .ok p)
    (left : ∃ fields ∈ r.groupFields, ∃ entry ∈ fields,
      (e.catalog.predicates.parseKey entry.1).isSome = true)
    (table : String) (d : Dialect) (row : Row) :
    ((p.select table d).Selects engine d row ↔
      (∀ c ∈ p.conditions, c.Holds engine row) ∧
        ∃ conditions, e.catalog.Survive s.limits r conditions ∧
          ∀ c ∈ conditions, c.Holds engine row) ∧
    ((p.count table).Selects engine d row ↔ (p.select table d).Selects engine d row) := by
  obtain ⟨a, stages⟩ := EntityType.compile_eq_ok_iff.1 compiled
  obtain ⟨fields, supplied, entry, inside, registered⟩ := left
  have some_group := Catalog.groups_ne_nil stages supplied inside registered
  have readable := readable_of_stages stages
  rw [Plan.selects_select_iff readable, Plan.selects_count_iff readable]
  refine ⟨?_, Iff.rfl⟩
  simp only [Plan.Holds, some_group, ne_eq, not_false_eq_true, forall_const,
    Catalog.mem_groups_iff stages]

namespace Sample

/-- A request for articles without a title or with a number of views, with an unknown key in each of
three OR-groups, the only one of the first group. -/
def strayed : Request where
  filters := [.inherent (.map [("views_null", .bool false)])]
  groups := [.inherent (.map [("colour_eq", .text "red")]),
    .inherent (.map [("title_blank", .bool true), ("size_gt", .int 2)]),
    .inherent (.map [("views_most", .int 9), ("views_in", .list [.int 4])])]

/-- The plan of `strayed`. -/
def strayedPlan : Plan where
  conditions := [⟨"views", .notNull, .none⟩]
  groups := [[⟨"title", .blank, .none⟩], [⟨"views", .isIn, .list [.int 4]⟩]]
  order := []
  window := ⟨1, 25, 25, 0⟩
  dropped := [⟨"colour_eq", .unknownPredicate, some 0⟩, ⟨"size_gt", .unknownPredicate, some 1⟩,
    ⟨"views_most", .unknownPredicate, some 2⟩]

/-- A request all of whose OR-groups have unknown keys only. -/
def strays : Request where
  groups := [.inherent (.map [("colour_eq", .text "red")]),
    .inherent (.map [("size_gt", .int 2)])]

/-- The plan of `strays`. -/
def straysPlan : Plan where
  conditions := []
  groups := []
  order := []
  window := ⟨1, 25, 25, 0⟩
  dropped := [⟨"colour_eq", .unknownPredicate, some 0⟩, ⟨"size_gt", .unknownPredicate, some 1⟩]

end Sample

open Sample in
/-- The group without registered keys does not let an article with a title and 5 views pass. -/
theorem strayed_meets_a_group :
    articles.compile {} strayed = .ok strayedPlan ∧
      ¬ (strayedPlan.select "articles" .mysql).Selects engine .mysql (article "Lean" (some 5)) ∧
      (strayedPlan.select "articles" .mysql).Selects engine .mysql (article "Lean" (some 4)) := by
  have compiled : articles.compile {} strayed = .ok strayedPlan := rfl
  have left : ∃ fields ∈ strayed.groupFields, ∃ entry ∈ fields,
      (articles.catalog.predicates.parseKey entry.1).isSome = true :=
    ⟨_, List.mem_cons_of_mem _ List.mem_cons_self, _, List.mem_cons_self, rfl⟩
  have selects (row : Row) :=
    (selected_meets_a_group engine compiled left "articles" .mysql row).1
  refine ⟨compiled, fun selected => ?_, (selects _).2 ⟨?_, ?_⟩⟩
  · obtain ⟨-, conditions, ⟨nonempty, fields, supplied, made⟩, all⟩ := (selects _).1 selected
    obtain rfl | rfl | rfl : fields = _ ∨ fields = _ ∨ fields = _ := by
      simpa only [Request.groupFields, strayed, List.map_cons, List.map_nil, List.mem_cons,
        List.not_mem_nil, or_false] using supplied
    · exact nonempty (Except.ok.inj made).symm
    · obtain rfl : [⟨"title", .blank, .none⟩] = conditions := Except.ok.inj made
      have blank : some false = some true := all _ List.mem_cons_self
      cases blank
    · obtain rfl : [⟨"views", .isIn, .list [.int 4]⟩] = conditions := Except.ok.inj made
      obtain ⟨v, member, same⟩ := all _ List.mem_cons_self
      obtain rfl := List.mem_singleton.1 member
      cases same
  · intro c member
    obtain rfl := List.mem_singleton.1 member
    exact trivial
  · refine ⟨[⟨"views", .isIn, .list [.int 4]⟩], ⟨by simp, _,
      List.mem_cons_of_mem _ (List.mem_cons_of_mem _ List.mem_cons_self), rfl⟩, fun c member => ?_⟩
    obtain rfl := List.mem_singleton.1 member
    exact ⟨.int 4, List.mem_singleton_self _, rfl⟩

open Sample in
/-- **Nothing is left of a disjunction that loses all of its groups.** A request with OR-groups
selects a row although the row meets what is left of none of its groups. -/
theorem strays_select_all :
    articles.compile {} strays = .ok straysPlan ∧ Settings.isStrict {} = false ∧
      strays.groups ≠ [] ∧
      (straysPlan.select "articles" .postgres).Selects engine .postgres (article "Lean" none) ∧
      ¬ ∃ conditions, articles.catalog.Survive {} strays conditions ∧
        ∀ c ∈ conditions, c.Holds engine (article "Lean" none) := by
  have compiled : articles.compile {} strays = .ok straysPlan := rfl
  obtain ⟨a, stages⟩ := EntityType.compile_eq_ok_iff.1 compiled
  refine ⟨compiled, rfl, List.cons_ne_nil _ _, ?_, ?_⟩
  · rw [Plan.selects_select_iff (readable_of_stages stages)]
    exact ⟨fun c member => absurd member List.not_mem_nil, fun some_group => absurd rfl some_group⟩
  · rintro ⟨conditions, survive, -⟩
    have member : conditions ∈ straysPlan.groups := (Catalog.mem_groups_iff stages).2 survive
    exact absurd member List.not_mem_nil

end QueryPlan
