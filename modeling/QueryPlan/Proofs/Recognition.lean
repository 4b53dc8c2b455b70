import QueryPlan.Proofs.Outcome

/-!
# Recognized keys and their conditions

The entries of a request that spell registered pairs are the keys that a plan is made of: each of
them has one condition, at its place (`conditions_of_stages`). In strict mode all entries do
(`known_of_strict`). A plan depends on a catalog only through what the keys of the request are
looked up as (`recognize_congr`).
-/

namespace QueryPlan
set_option autoImplicit false

/-- What is looked up is what was supplied, merged. -/
theorem Request.Admits.entries {r : Request} {a : Admitted} (h : r.Admits a) :
    mergeFields a.filters ++ a.groups.flatten = r.entries := by
  rw [mergeFields_eq, h.filters, h.groups, Request.entries]

/-- What is recognized, told from the request. -/
theorem recognize_eq (c : Catalog) {r : Request} {a : Admitted} (h : r.Admits a) :
    c.recognize a =
      { filters := c.predicates.known (lastValues r.filterFields)
        groups := r.groupFields.map c.predicates.known
        order := c.sorts.known r.sort
        unknown := c.predicates.unknown none (lastValues r.filterFields) ++
          (r.groupFields.zipIdx.flatMap fun entry =>
            c.predicates.unknown (some entry.2) entry.1) ++ c.sorts.unknown r.sort } := by
  rw [Catalog.recognize, mergeFields_eq, h.filters, h.groups, h.sort]

/-- The recognized keys of an admitted request are those of its entries. -/
theorem keys_recognize (c : Catalog) {r : Request} {a : Admitted} (h : r.Admits a) :
    (c.recognize a).filters ++ (c.recognize a).groups.flatten = c.predicates.known r.entries := by
  have groups : (c.recognize a).groups.flatten = c.predicates.known a.groups.flatten :=
    (List.filterMap_flatten).symm
  rw [groups, ← h.entries]
  exact List.filterMap_append.symm

theorem conditionsOf_eq_ok {limits : RequestLimits} {keys : List KnownKey}
    {conditions : List Condition} (h : conditionsOf limits keys = .ok conditions) :
    List.Forall₂ (KnownKey.Compiles limits) keys conditions :=
  (mapM_eq_ok_iff.1 h).imp fun _ _ => KnownKey.condition_eq_ok

/-- Groups that are left out have no keys. -/
theorem groupsOf_eq_ok {limits : RequestLimits} {groups : List (List KnownKey)}
    {compiled : List (List Condition)} (h : groupsOf limits groups = .ok compiled) :
    List.Forall₂ (KnownKey.Compiles limits) groups.flatten compiled.flatten := by
  rw [← List.flatten_filter_not_isEmpty]
  exact List.rel_flatten ((mapM_eq_ok_iff.1 h).imp fun _ _ => conditionsOf_eq_ok)

/-- Each recognized key has its condition in the plan. -/
theorem conditions_of_stages {c : Catalog} {s : Settings} {r : Request} {a : Admitted} {p : Plan}
    (h : c.Stages s r a p) :
    List.Forall₂ (KnownKey.Compiles s.limits) (c.predicates.known r.entries) p.allConditions := by
  rw [← keys_recognize c (admit_eq_ok h.admitted)]
  exact List.rel_append (conditionsOf_eq_ok h.conditions) (groupsOf_eq_ok h.groups)

/-! ### Strict mode -/

/-- What compiles in strict mode has only registered keys. -/
theorem known_of_strict {c : Catalog} {s : Settings} {r : Request} {p : Plan}
    (strict : s.isStrict = true) (h : c.compile s r = .ok p) :
    (∀ entry ∈ r.entries, (c.predicates.parseKey entry.1).isSome = true) ∧
      ∀ key ∈ r.sort, (c.sorts.resolve? key).isSome = true := by
  have clean : c.firstFault? s r = none := by
    rw [← reported_compile, h]
    rfl
  unfold Catalog.firstFault? at clean
  rw [if_pos strict] at clean
  obtain ⟨-, sized⟩ := Option.or_eq_none_iff.1 clean
  obtain ⟨-, known⟩ := Option.or_eq_none_iff.1 sized
  obtain ⟨filters, sorts⟩ := Option.or_eq_none_iff.1 (Option.or_eq_none_iff.1 known).1
  simpa [Option.isSome_iff_ne_none] using And.intro filters sorts

/-! ### Catalogs that agree on a request -/

section
variable {c d : PredicateRegistry}

theorem known_congr {fields : Fields}
    (h : ∀ entry ∈ fields, d.parseKey entry.1 = c.parseKey entry.1) :
    d.known fields = c.known fields :=
  List.filterMap_congr fun entry member => by rw [h entry member]

theorem unknown_congr {group : Option Nat} {fields : Fields}
    (h : ∀ entry ∈ fields, d.parseKey entry.1 = c.parseKey entry.1) :
    d.unknown group fields = c.unknown group fields :=
  congrArg _ (List.filter_congr fun entry member => by rw [h entry member])

end

/-- Catalogs that look up the keys of a request alike recognize the same. -/
theorem recognize_congr {c d : Catalog} {a : Admitted}
    (filters : ∀ entry ∈ mergeFields a.filters ++ a.groups.flatten,
      d.predicates.parseKey entry.1 = c.predicates.parseKey entry.1)
    (sorts : ∀ key ∈ a.sort, d.sorts.resolve? key = c.sorts.resolve? key) :
    d.recognize a = c.recognize a := by
  obtain ⟨top, groups⟩ := List.forall_mem_append.1 filters
  have group (fields : Fields) (member : fields ∈ a.groups) :
      ∀ entry ∈ fields, d.predicates.parseKey entry.1 = c.predicates.parseKey entry.1 :=
    fun entry inside => groups entry (List.mem_flatten.2 ⟨fields, member, inside⟩)
  have known_groups : a.groups.map d.predicates.known = a.groups.map c.predicates.known :=
    List.map_congr_left fun fields member => known_congr (group fields member)
  have unknown_groups :
      (a.groups.zipIdx.flatMap fun entry => d.predicates.unknown (some entry.2) entry.1) =
        a.groups.zipIdx.flatMap fun entry => c.predicates.unknown (some entry.2) entry.1 :=
    List.flatMap_congr fun entry member =>
      unknown_congr (group entry.1 (List.fst_mem_of_mem_zipIdx member))
  have order : d.sorts.known a.sort = c.sorts.known a.sort :=
    List.filterMap_congr fun key member => by rw [sorts key (List.mem_eraseDups.1 member)]
  have unknown_sorts : d.sorts.unknown a.sort = c.sorts.unknown a.sort :=
    congrArg _ (List.filter_congr fun key member => by rw [sorts key member])
  simp only [Catalog.recognize, known_congr top, unknown_congr top, known_groups, unknown_groups,
    order, unknown_sorts]

end QueryPlan
