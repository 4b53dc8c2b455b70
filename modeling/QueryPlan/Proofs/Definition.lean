import QueryPlan.Proofs.Merging
import QueryPlan.Proofs.Registration

/-!
# What every definition keeps

The registries of an entity type repeat what its schema says of the columns: the type and whether
null is admitted. Nothing that can be done later makes the copy untrue (`EntityType.Sound`): columns
are only added, fields are registered once, and the scopes of a new field are new. The whole
history of a definition is a list of commands, some of which may fail (`Workshop.run`), and every
type that comes out of one is sound (`definition_sound`).
-/

namespace QueryPlan
set_option autoImplicit false

/-! ### Entries of maps -/

namespace OrderedMap
variable {α : Type}

theorem mem_entries_iff {m : OrderedMap α} {key : String} {v : α} :
    (key, v) ∈ m.entries ↔ m.get? key = some v := by
  constructor
  · intro member
    rw [entries_eq] at member
    obtain ⟨k, -, found⟩ := List.mem_filterMap.1 member
    obtain ⟨w, found, same⟩ := Option.map_eq_some_iff.1 found
    cases same
    exact found
  · intro found
    obtain ⟨before, after, same, -⟩ := List.lookup_eq_some_iff.1 found
    rw [same]
    exact List.mem_append_right before List.mem_cons_self

/-- A new key comes last. -/
theorem entries_insert_of_fresh {m : OrderedMap α} {key : String} (v : α)
    (fresh : m.contains key = false) : (m.insert key v).entries = m.entries ++ [(key, v)] := by
  have absent : ∀ entry ∈ m.entries, entry.1 ≠ key := by
    rintro ⟨k, w⟩ member rfl
    rw [contains_of_get? (mem_entries_iff.1 member)] at fresh
    cases fresh
  show insertEntry key v m.entries = _
  generalize m.entries = entries at absent
  induction entries with
  | nil => rfl
  | cons entry rest ih =>
    obtain ⟨head, tail⟩ := List.forall_mem_cons.1 absent
    rw [insertEntry, if_neg head, ih tail, List.cons_append]

end OrderedMap

/-! ### Scopes in order -/

/-- The scopes that the registered fields call for, in the order of registration. -/
def SortRegistry.expected (r : SortRegistry) : List SortScope :=
  r.fields.entries.flatMap fun entry => fieldScopes entry.1 entry.2

theorem mem_fieldScopes {field : String} {type : StorageType} {s : SortScope} :
    s ∈ fieldScopes field type ↔ s.field = field ∧ s.variant ∈ SortVariant.ofType type := by
  unfold fieldScopes
  constructor
  · intro member
    obtain ⟨variant, listed, rfl⟩ := List.mem_map.1 member
    exact ⟨rfl, listed⟩
  · rintro ⟨rfl, listed⟩
    exact List.mem_map_of_mem listed

theorem SortRegistry.mem_expected {r : SortRegistry} {s : SortScope} :
    s ∈ r.expected ↔
      ∃ type, (s.field, type) ∈ r.fields.entries ∧ s.variant ∈ SortVariant.ofType type := by
  simp only [expected, List.mem_flatMap, mem_fieldScopes, Prod.exists]
  constructor
  · rintro ⟨field, type, registered, rfl, listed⟩
    exact ⟨type, registered, listed⟩
  · rintro ⟨type, registered, listed⟩
    exact ⟨s.field, type, registered, rfl, listed⟩

theorem nodup_keys_fieldScopes (field : String) (type : StorageType) :
    ((fieldScopes field type).map SortScope.key).Nodup := by
  have variants : (SortVariant.ofType type).Nodup := by cases type <;> decide
  rw [fieldScopes, List.map_map]
  exact variants.map fun v w same => (sortKey_injective same).2

/-- Scopes with new keys come last, in their order. -/
theorem entries_insertScopes {scopes : List SortScope} {m : OrderedMap SortScope}
    (fresh : ∀ s ∈ scopes, m.contains s.key = false) (distinct : (scopes.map SortScope.key).Nodup) :
    (scopes.foldl (fun m s => m.insert s.key s) m).entries =
      m.entries ++ scopes.map fun s => (s.key, s) := by
  induction scopes generalizing m with
  | nil => simp
  | cons s scopes ih =>
    obtain ⟨head, tail⟩ := List.forall_mem_cons.1 fresh
    obtain ⟨other, distinct⟩ := List.nodup_cons.1 distinct
    have still : ∀ t ∈ scopes, (m.insert s.key s).contains t.key = false := by
      intro t member
      have differs : t.key ≠ s.key := fun same => other (same ▸ List.mem_map_of_mem member)
      rw [OrderedMap.contains_insert, tail t member, beq_false_of_ne differs, Bool.or_false]
    rw [List.foldl_cons, ih still distinct, OrderedMap.entries_insert_of_fresh s head,
      List.append_assoc]
    rfl

/-- The scopes of a new field are called for last. -/
theorem SortRegistry.expected_insert {r : SortRegistry} {field : String}
    (fresh : r.isRegistered field = false) (type : StorageType) (scopes : OrderedMap SortScope) :
    (SortRegistry.mk (r.fields.insert field type) scopes).expected =
      r.expected ++ fieldScopes field type := by
  rw [expected, OrderedMap.entries_insert_of_fresh type fresh, List.flatMap_append,
    List.flatMap_singleton]
  rfl

/-- The fields to order by are columns, and the scopes are those that the fields call for. -/
structure SortRegistry.Sound (r : SortRegistry) (schema : TableSchema) : Prop where
  columns : ∀ name type, r.fields.get? name = some type →
    ∃ nullable, schema.field? name = some ⟨name, type, nullable⟩
  scopes : r.scopes.entries = r.expected.map fun s => (s.key, s)

namespace SortRegistry.Sound
variable {r : SortRegistry} {schema : TableSchema}

theorem keys_eq (h : r.Sound schema) : r.scopes.keys = r.expected.map SortScope.key := by
  rw [OrderedMap.keys, h.scopes, List.map_map]
  rfl

theorem resolve?_eq_some_iff (h : r.Sound schema) {key : String} {s : SortScope} :
    r.resolve? key = some s ↔ s ∈ r.expected ∧ s.key = key := by
  rw [SortRegistry.resolve?, ← OrderedMap.mem_entries_iff, h.scopes, List.mem_map]
  constructor
  · rintro ⟨t, member, same⟩
    cases same
    exact ⟨member, rfl⟩
  · rintro ⟨member, rfl⟩
    exact ⟨s, member, rfl⟩

end SortRegistry.Sound

/-! ### What each step of a definition keeps -/

namespace EntityType
variable {e f : EntityType}

theorem sorts_sound_step (coherent : e.Coherent) (h : e.catalog.sorts.Sound e.schema)
    (step : e.Step f) : f.catalog.sorts.Sound f.schema := by
  cases step with
  | @column name plain column fresh =>
    refine ⟨fun field type registered => ?_, h.scopes⟩
    obtain ⟨nullable, declared⟩ := h.columns field type registered
    obtain ⟨old, known, same⟩ := Option.map_eq_some_iff.1 declared
    exact ⟨nullable, Option.map_eq_some_iff.2
      ⟨old, OrderedMap.get?_insert_of_fresh fresh known, same⟩⟩
  | predicates _ _ => exact ⟨h.columns, h.scopes⟩
  | @sorts field declared fresh =>
    constructor
    · intro name type registered
      simp only [addSorts, OrderedMap.get?_insert] at registered
      split at registered
      next here =>
        cases registered
        exact ⟨field.nullable, here ▸ declared⟩
      next => exact h.columns name type registered
    -- A key that is in use names a registered field, and this field is not registered yet.
    · have unused : ∀ s ∈ fieldScopes field.name field.type,
          e.catalog.sorts.scopes.contains s.key = false := by
        intro s member
        refine Bool.eq_false_iff.2 fun used => ?_
        obtain ⟨old, found⟩ := Option.isSome_iff_exists.1 used
        exact coherent.other_scopes fresh found s member rfl
      simp only [addSorts]
      rw [SortRegistry.expected_insert fresh, List.map_append, ← h.scopes]
      exact entries_insertScopes unused (nodup_keys_fieldScopes field.name field.type)

theorem sorts_sound_steps (coherent : e.Coherent) (h : e.catalog.sorts.Sound e.schema)
    (steps : e.Steps f) : f.catalog.sorts.Sound f.schema := by
  induction steps with
  | refl => exact h
  | tail before step ih => exact sorts_sound_step (coherent.steps before).1 ih step

theorem Reachable.sorts_sound (h : e.Reachable) : e.catalog.sorts.Sound e.schema := by
  induction h with
  | ofSchema name schema => exact ⟨fun _ _ found => (nomatch found), rfl⟩
  | extend name _ ih => exact ⟨ih.columns, ih.scopes⟩
  | declare reachable made ih =>
    exact sorts_sound_steps reachable.coherent ih (steps_of_declare made)

/-- The registries of a type say of its columns what its schema says now. -/
structure Sound (e : EntityType) : Prop where
  /-- A field to filter by is a column as the schema has it, with just the kinds that are legal on
  it. -/
  predicates : ∀ name registration, e.catalog.predicates.get? name = some registration →
    e.schema.field? name = some registration.field ∧
      ∀ kind : PredicateKind, registration.kinds.contains kind =
        kind.appliesTo registration.field.type registration.field.nullable
  /-- A field to order by is a column of the storage type that it is registered with. -/
  fields : ∀ name type, (name, type) ∈ e.catalog.sorts.fields.entries →
    ∃ nullable, e.schema.field? name = some ⟨name, type, nullable⟩
  /-- The scopes are the variants of each field to order by, in the order of registration, each
  under its own key. -/
  scopes : e.catalog.sorts.scopes.entries = e.catalog.sorts.expected.map fun s => (s.key, s)
  /-- No two scopes share a key. -/
  keys : (e.catalog.sorts.expected.map SortScope.key).Nodup
  /-- The keys that can be resolved are those of a field to order by and one of its variants, and
  they stand for the ordering of the variant. -/
  resolve : ∀ key scope, e.catalog.sorts.resolve? key = some scope ↔
    ∃ field type variant, (field, type) ∈ e.catalog.sorts.fields.entries ∧
      variant ∈ SortVariant.ofType type ∧ key = field ++ ":" ++ variant.name ∧
      scope.field = field ∧ scope.variant = variant ∧ scope.term = variant.term field

theorem Reachable.sound (h : e.Reachable) : e.Sound where
  predicates name registration found := by
    obtain ⟨field, column, rfl⟩ := h.coherent.predicates name registration found
    exact ⟨column, fun kind => rfl⟩
  fields name type registered :=
    h.sorts_sound.columns name type (OrderedMap.mem_entries_iff.1 registered)
  scopes := h.sorts_sound.scopes
  keys := h.sorts_sound.keys_eq ▸ e.catalog.sorts.scopes.nodup
  resolve key scope := by
    rw [h.sorts_sound.resolve?_eq_some_iff, SortRegistry.mem_expected]
    constructor
    · rintro ⟨⟨type, registered, listed⟩, rfl⟩
      exact ⟨scope.field, type, scope.variant, registered, listed, rfl, rfl, rfl, rfl⟩
    · rintro ⟨field, type, variant, registered, listed, rfl, rfl, rfl, -⟩
      exact ⟨⟨type, registered, listed⟩, rfl⟩

end EntityType

/-! ### Whole definitions -/

/-- All that was made in a definition: schemas, entity types that are still open, finished ones.
Each change makes a new version, so that versions can be shared and none is lost. -/
structure Workshop where
  schemas : List TableSchema := []
  drafts : List EntityType := []
  types : List EntityType := []

/-- One command of a definition, on versions made before, by their number. -/
inductive Command where
  | schema (table : String)
  | column (schema : Nat) (name : String) (type : StorageType) (nullable : Bool)
  | builder (schema : Nat) (name : String)
  | extend (parent : Nat) (name : String)
  | declare (draft : Nat) (declaration : Declaration)
  | build (draft : Nat)

namespace Workshop

/-- All types, open and finished. -/
def all (w : Workshop) : List EntityType := w.drafts ++ w.types

/-- The workshop with one more version of a schema, if there is one. -/
def addSchema (w : Workshop) (made : Option TableSchema) : Workshop :=
  { w with schemas := w.schemas ++ made.toList }

/-- The workshop with one more version of an open type, if there is one. -/
def addDraft (w : Workshop) (made : Option EntityType) : Workshop :=
  { w with drafts := w.drafts ++ made.toList }

/-- The workshop with what a command makes. A command that fails makes nothing. -/
def perform (w : Workshop) : Command → Workshop
  | .schema table => w.addSchema (TableSchema.ofTable table).toOption
  | .column i name type nullable =>
    w.addSchema (w.schemas[i]?.bind fun schema => (schema.declare name type nullable).toOption)
  | .builder i name => w.addDraft (w.schemas[i]?.map (EntityType.ofSchema name))
  | .extend i name => w.addDraft (w.types[i]?.map (EntityType.extend · name))
  | .declare i d => w.addDraft (w.drafts[i]?.bind fun draft => (draft.declare d).toOption)
  | .build i => { w with types := w.types ++ w.drafts[i]?.toList }

/-- What a list of commands makes. -/
def run (commands : List Command) : Workshop := commands.foldl perform {}

theorem reachable_addDraft {w : Workshop} (h : ∀ e ∈ w.all, e.Reachable) {made : Option EntityType}
    (next : ∀ e, made = some e → e.Reachable) : ∀ e ∈ (w.addDraft made).all, e.Reachable := by
  obtain ⟨drafts, types⟩ := List.forall_mem_append.1 h
  refine List.forall_mem_append.2 ⟨List.forall_mem_append.2 ⟨drafts, fun e member => ?_⟩, types⟩
  exact next e (Option.mem_toList.1 member)

theorem reachable_perform {w : Workshop} (h : ∀ e ∈ w.all, e.Reachable) (c : Command) :
    ∀ e ∈ (w.perform c).all, e.Reachable := by
  obtain ⟨drafts, types⟩ := List.forall_mem_append.1 h
  cases c with
  | schema table => exact h
  | column i name type nullable => exact h
  | builder i name =>
    refine reachable_addDraft h fun e made => ?_
    obtain ⟨schema, -, rfl⟩ := Option.map_eq_some_iff.1 made
    exact .ofSchema name schema
  | extend i name =>
    refine reachable_addDraft h fun e made => ?_
    obtain ⟨parent, found, rfl⟩ := Option.map_eq_some_iff.1 made
    exact .extend name (types parent (List.mem_of_getElem? found))
  | declare i d =>
    refine reachable_addDraft h fun e made => ?_
    obtain ⟨draft, found, declared⟩ := Option.bind_eq_some_iff.1 made
    exact .declare (drafts draft (List.mem_of_getElem? found)) (toOption_eq_some_iff.1 declared)
  | build i =>
    refine List.forall_mem_append.2 ⟨drafts, List.forall_mem_append.2 ⟨types, fun e member => ?_⟩⟩
    exact drafts e (List.mem_of_getElem? (Option.mem_toList.1 member))

theorem reachable_foldl {w : Workshop} (h : ∀ e ∈ w.all, e.Reachable) (commands : List Command) :
    ∀ e ∈ (commands.foldl perform w).all, e.Reachable := by
  induction commands generalizing w with
  | nil => exact h
  | cons c commands ih => exact ih (reachable_perform h c)

end Workshop

/-- **Registries stay true to the schema.** Whatever the commands are that a definition consists of,
failing ones included, each entity type that they finish has sound registries. -/
theorem definition_sound {commands : List Command} {e : EntityType}
    (finished : e ∈ (Workshop.run commands).types) : e.Sound := by
  have nothing : ∀ e ∈ ({} : Workshop).all, e.Reachable := fun e member => nomatch member
  exact (Workshop.reachable_foldl nothing commands e (List.mem_append_right _ finished)).sound

namespace Sample

/-- Articles and a subtype with a score. The column that is declared twice, the one with a blank in
its name and the field of another type are refused. -/
def library : List Command :=
  [.schema "articles", .column 0 "title" .string false, .column 1 "sub title" .string false,
    .builder 1 "Article", .declare 0 (.field "title" .numeric), .declare 0 (.field "title" .string),
    .declare 1 (.column "title" .numeric true), .build 1,
    .extend 0 "Review", .declare 2 (.column "score" .numeric true),
    .declare 3 (.sort "score" .numeric), .declare 4 (.predicate "score" .numeric), .build 5]

end Sample

open Sample in
/-- The subtype has sound registries, and its sort keys are those of both fields in their order. -/
theorem library_sound :
    ∃ review, (Workshop.run library).types[1]? = some review ∧ review.name = "Review" ∧
      review.Sound ∧
      review.catalog.sorts.scopes.keys =
        ["title:asc", "title:desc", "title:asc_case_insensitive", "title:desc_case_insensitive",
          "score:asc", "score:desc", "score:asc_nulls_first", "score:asc_nulls_last",
          "score:desc_nulls_first", "score:desc_nulls_last"] := by
  have made : ∃ review, (Workshop.run library).types[1]? = some review := ⟨_, rfl⟩
  obtain ⟨review, second⟩ := made
  refine ⟨review, second, ?_, definition_sound (List.mem_of_getElem? second), ?_⟩
  · cases second
    rfl
  · cases second
    decide +kernel

end QueryPlan
