import QueryPlan.EntityType
import QueryPlan.Proofs.Traversal

/-!
# The stages of a compilation

What each stage leaves behind when it succeeds. `admit_eq_ok` says that admission keeps the maps of
a request as they are, `condition_eq_ok` says what each kind of key makes of its operand, and
`compile_eq_ok_iff` takes a successful compilation apart into its stages.
-/

namespace QueryPlan
set_option autoImplicit false

/-- The entries of a map; other values have none. -/
def Json.fields : Json → Fields
  | .map fields => fields
  | _ => []

namespace Request

/-- The entries of all filter maps, in the order in which the maps were added. -/
def filterFields (r : Request) : Fields := r.filters.flatMap fun i => i.value.fields

/-- The entries of each OR-group. -/
def groupFields (r : Request) : List Fields := r.groups.map fun i => i.value.fields

end Request

namespace Input

theorem fields_eq_ok_iff {what : String} {i : Input} {fields : Fields} :
    i.fields what = .ok fields ↔ i.permission.allowsUse = true ∧ i.value = .map fields := by
  unfold Input.fields
  split
  · split <;> simp_all
  · simp_all

theorem groupFields_eq_ok_iff {i : Input} {index : Nat} {fields : Fields} :
    i.groupFields index = .ok fields ↔
      i.permission.allowsUse = true ∧ i.value = .map fields ∧ fields ≠ [] := by
  unfold Input.groupFields
  rw [bind_eq_ok_iff]
  constructor
  · rintro ⟨found, hi, h⟩
    obtain ⟨allowed, value⟩ := fields_eq_ok_iff.1 hi
    cases found with
    | nil => simp at h
    | cons entry rest =>
      simp only [List.isEmpty_cons, Bool.false_eq_true, if_false, Except.ok.injEq] at h
      subst h
      exact ⟨allowed, value, by simp⟩
  · rintro ⟨allowed, value, nonempty⟩
    refine ⟨fields, fields_eq_ok_iff.2 ⟨allowed, value⟩, ?_⟩
    simp [nonempty]

/-- A value that says that there are no filters has no entries. -/
theorem fields_of_isAbsent {i : Input} (h : i.isAbsent = true) : i.value.fields = [] := by
  unfold isAbsent at h
  cases e : i.value <;> simp_all [Json.kind, Json.fields]

end Input

/-- What admission leaves behind: the maps as they were supplied, none of the OR-groups empty. -/
structure Request.Admits (r : Request) (a : Admitted) : Prop where
  filters : a.filters.flatten = r.filterFields
  groups : a.groups = r.groupFields
  nonempty : ∀ g ∈ a.groups, g ≠ []
  sort : a.sort = r.sort

/-- The entries of filter maps are those of the maps that are not absent. -/
theorem flatMap_fields_filter (inputs : List Input) :
    ((inputs.filter fun i => !i.isAbsent).flatMap fun i => i.value.fields) =
      inputs.flatMap fun i => i.value.fields := by
  induction inputs with
  | nil => rfl
  | cons i inputs ih =>
    cases h : i.isAbsent with
    | true => simp [h, Input.fields_of_isAbsent h, ih]
    | false => simp [h, ih]

/-- Filter maps that are admitted have the entries that they were supplied with. -/
theorem flatten_of_mapM_fields {what : String} {inputs : List Input} {maps : List Fields}
    (h : (inputs.filter fun i => !i.isAbsent).mapM (Input.fields what) = .ok maps) :
    maps.flatten = inputs.flatMap fun i => i.value.fields := by
  have each := mapM_ok_eq_map (g := fun i => i.value.fields) (fun i fields hi => by
    rw [(Input.fields_eq_ok_iff.1 hi).2]; rfl) h
  rw [each, ← List.flatMap_def, flatMap_fields_filter]

theorem admit_eq_ok {r : Request} {a : Admitted} (h : r.admit = .ok a) : r.Admits a := by
  unfold Request.admit at h
  obtain ⟨filters, hf, h⟩ := bind_eq_ok_iff.1 h
  obtain ⟨groups, hg, h⟩ := bind_eq_ok_iff.1 h
  cases h
  have groups_eq := mapM_ok_eq_map (g := fun entry => entry.1.value.fields)
    (fun entry fields hi => by rw [(Input.groupFields_eq_ok_iff.1 hi).2.1]; rfl) hg
  refine ⟨flatten_of_mapM_fields hf, ?_, ?_, rfl⟩
  · have fst : (r.groups.zipIdx.map Prod.fst).map (fun i => i.value.fields) = r.groupFields := by
      rw [List.zipIdx_map_fst]; rfl
    rw [groups_eq, ← fst, List.map_map]
    rfl
  · intro g hgm
    obtain ⟨entry, -, he⟩ := mem_of_mapM_ok hg hgm
    exact (Input.groupFields_eq_ok_iff.1 he).2.2

/-- Which keys are unknown does not depend on the operands. -/
theorem unknown_eq (r : PredicateRegistry) (group : Option Nat) (fields : Fields) :
    r.unknown group fields =
      ((fields.map Prod.fst).filter fun key => (r.parseKey key).isNone).map (.filter · group) := by
  simp [PredicateRegistry.unknown, List.filter_map, Function.comp_def]

/-- The condition that a recognized key compiles to, by the operand that its kind takes. -/
inductive KnownKey.Compiles (limits : RequestLimits) (k : KnownKey) : Condition → Prop where
  | scalar {v : Value} : k.kind.form = .scalar → k.scalar k.operand = .ok v →
      Compiles limits k (k.holding k.kind (.one v))
  | pattern {position : PatternPosition} {s : String} : k.kind.form = .pattern position →
      Coercion.text k.key k.operand = .ok s →
      Compiles limits k (k.holding k.kind (.one (.text (Like.pattern position s))))
  | range {low high : Json} {v w : Value} : k.kind.form = .range → k.operand = .list [low, high] →
      k.scalar low = .ok v → k.scalar high = .ok w →
      Compiles limits k (k.holding k.kind (.range v w))
  | list {items : List Json} {values : List Value} : k.kind.form = .list → k.operand = .list items →
      items ≠ [] → items.length ≤ limits.maxListValues → items.mapM k.scalar = .ok values →
      Compiles limits k (k.holding k.kind (.list values))
  | flag {opposite : PredicateKind} {on : Bool} : k.kind.form = .flag opposite →
      Coercion.flag k.key k.operand = .ok on →
      Compiles limits k (k.holding (if on then k.kind else opposite) .none)

theorem Coercion.flag_eq_ok_iff {key : String} {v : Json} {on : Bool} :
    Coercion.flag key v = .ok on ↔ Coercion.boolean? v = some on := by
  unfold Coercion.flag
  split <;> simp_all

namespace KnownKey
variable {limits : RequestLimits} {k : KnownKey}

theorem items_eq_ok_iff {items : List Json} : k.items = .ok items ↔ k.operand = .list items := by
  unfold KnownKey.items
  split <;> simp_all

theorem bounds_eq_ok_iff {low high : Json} :
    k.bounds = .ok (low, high) ↔ k.operand = .list [low, high] := by
  unfold bounds
  rw [bind_eq_ok_iff]
  constructor
  · rintro ⟨items, hi, h⟩
    rw [items_eq_ok_iff.1 hi]
    split at h
    · cases h; rfl
    · cases h
  · intro h
    exact ⟨_, items_eq_ok_iff.2 h, rfl⟩

theorem members_eq_ok_iff {ceiling : Nat} {items : List Json} :
    k.members ceiling = .ok items ↔
      k.operand = .list items ∧ items ≠ [] ∧ items.length ≤ ceiling := by
  unfold members
  rw [bind_eq_ok_iff]
  constructor
  · rintro ⟨found, hi, h⟩
    rw [items_eq_ok_iff.1 hi]
    split at h
    · cases h
    · split at h
      · cases h
      · cases h
        exact ⟨rfl, by simp_all, by omega⟩
  · rintro ⟨h, nonempty, short⟩
    refine ⟨items, items_eq_ok_iff.2 h, ?_⟩
    rw [if_neg (by simp [nonempty]), if_neg (by omega)]

theorem condition_eq_ok {c : Condition} (h : k.condition limits = .ok c) : k.Compiles limits c := by
  rw [condition_eq] at h
  split at h
  next form =>
    obtain ⟨v, hv, h⟩ := bind_eq_ok_iff.1 h
    cases h
    exact .scalar form hv
  next position form =>
    obtain ⟨s, hs, h⟩ := bind_eq_ok_iff.1 h
    cases h
    exact .pattern form hs
  next form =>
    obtain ⟨⟨low, high⟩, hb, h⟩ := bind_eq_ok_iff.1 h
    obtain ⟨v, hv, h⟩ := bind_eq_ok_iff.1 h
    obtain ⟨w, hw, h⟩ := bind_eq_ok_iff.1 h
    cases h
    exact .range form (bounds_eq_ok_iff.1 hb) hv hw
  next form =>
    obtain ⟨items, hm, h⟩ := bind_eq_ok_iff.1 h
    obtain ⟨values, hv, h⟩ := bind_eq_ok_iff.1 h
    cases h
    obtain ⟨operand, nonempty, short⟩ := members_eq_ok_iff.1 hm
    exact .list form operand nonempty short hv
  next opposite form =>
    obtain ⟨on, ho, h⟩ := bind_eq_ok_iff.1 h
    cases h
    exact .flag form ho

end KnownKey

theorem checkKnown_eq_ok_iff {c : Catalog} {strict : Bool} {found : Recognized} :
    c.checkKnown strict found = .ok () ↔ strict = false ∨ found.unknown = [] := by
  unfold Catalog.checkKnown
  cases strict <;> cases found.unknown <;> simp

/-- A compilation that succeeded, stage by stage: `a` is what was admitted. -/
structure Catalog.Stages (c : Catalog) (s : Settings) (r : Request) (a : Admitted) (p : Plan) :
    Prop where
  admitted : r.admit = .ok a
  sized : a.checkSize s.limits = .ok ()
  known : c.checkKnown s.isStrict (c.recognize a) = .ok ()
  conditions : conditionsOf s.limits (c.recognize a).filters = .ok p.conditions
  groups : groupsOf s.limits (c.recognize a).groups = .ok p.groups
  order : p.order = (c.recognize a).order
  window : s.pagination.window r.page r.perPage = .ok p.window
  dropped : p.dropped = (c.recognize a).unknown.map UnknownKey.dropped

/-- A compilation succeeds if all of its stages do. -/
theorem compile_eq_ok_iff {c : Catalog} {s : Settings} {r : Request} {p : Plan} :
    c.compile s r = .ok p ↔ ∃ a, c.Stages s r a p := by
  simp only [Catalog.compile, bind_eq_ok_iff]
  constructor
  · rintro ⟨a, ha, _, hs, _, hk, conditions, hc, groups, hg, window, hw, hp⟩
    cases hp
    exact ⟨a, ha, hs, hk, hc, hg, rfl, hw, rfl⟩
  · rintro ⟨a, h⟩
    refine ⟨a, h.admitted, (), h.sized, (), h.known, _, h.conditions, _, h.groups, _, h.window, ?_⟩
    rw [← h.order, ← h.dropped]

/-- Naming the entity type in errors changes no result. -/
theorem EntityType.compile_eq_ok_iff_catalog {e : EntityType} {s : Settings} {r : Request}
    {p : Plan} : e.compile s r = .ok p ↔ e.catalog.compile s r = .ok p :=
  mapError_eq_ok_iff

theorem EntityType.compile_eq_ok_iff {e : EntityType} {s : Settings} {r : Request} {p : Plan} :
    e.compile s r = .ok p ↔ ∃ a, e.catalog.Stages s r a p := by
  rw [compile_eq_ok_iff_catalog, QueryPlan.compile_eq_ok_iff]

namespace Sample

/-- Articles with a title and a number of views that may be missing. -/
def articles : EntityType where
  name := "Article"
  parent := none
  schema :=
    { table := "articles"
      columns := .ofList [("title", ⟨.string, false⟩), ("views", ⟨.numeric, true⟩)] }
  catalog :=
    { predicates := ⟨.ofList [("title", FieldSpec.registration ⟨"title", .string, false⟩),
        ("views", FieldSpec.registration ⟨"views", .numeric, true⟩)]⟩
      sorts := ⟨.ofList [("title", .string)],
        .ofList ((fieldScopes "title" .string).map fun scope => (scope.key, scope))⟩ }

end Sample
end QueryPlan
