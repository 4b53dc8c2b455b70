import Mathlib.Logic.Relation
import QueryPlan.EntityType
import QueryPlan.Proofs.Keys
import QueryPlan.Proofs.Traversal

/-!
# Definitions of entity types

Entity types are defined by declarations, one after the other, and subtypes start from what their
supertype has. `steps_of_declare` says all that a declaration can do: it takes a few steps, each of
which adds a column, a field to filter by or a field to order by that was not there before. From it
follow what holds of every type that can be defined (`Reachable.coherent`) and what the type keeps
of the one that it came from (`Coherent.grows_of_steps`).
-/

namespace QueryPlan
set_option autoImplicit false

/-- A declaration in the definition of an entity type. -/
inductive Declaration where
  | column (name : String) (type : StorageType) (nullable : Bool)
  | predicate (field : String) (type : StorageType)
  | sort (field : String) (type : StorageType)
  /-- To filter and to order by. -/
  | field (field : String) (type : StorageType)

namespace EntityType

/-- The type with a declaration added. -/
def declare (e : EntityType) : Declaration → Except QueryError EntityType
  | .column name type nullable => e.withColumn name type nullable
  | .predicate field type => e.registerPredicate field type
  | .sort field type => e.registerSort field type
  | .field field type => e.registerField field type

/-- The type with several declarations added, the first one first. -/
def declareAll (e : EntityType) (declarations : List Declaration) : Except QueryError EntityType :=
  declarations.foldlM declare e

/-- The entity types that can be defined. -/
inductive Reachable : EntityType → Prop where
  | ofSchema (name : String) (schema : TableSchema) : Reachable (ofSchema name schema)
  | extend {e : EntityType} (name : String) : Reachable e → Reachable (e.extend name)
  | declare {e f : EntityType} {d : Declaration} :
      Reachable e → e.declare d = .ok f → Reachable f

theorem Reachable.declareAll {e f : EntityType} (h : e.Reachable) {declarations : List Declaration}
    (made : e.declareAll declarations = .ok f) : f.Reachable := by
  induction declarations generalizing e with
  | nil =>
    cases made
    exact h
  | cons d rest ih =>
    rw [EntityType.declareAll, List.foldlM_cons] at made
    obtain ⟨between, first, made⟩ := bind_eq_ok_iff.1 made
    exact ih (h.declare first) made

/-! ### What a declaration does -/

/-- The type with one more column in its table. -/
def addColumn (e : EntityType) (name : String) (plain : isIdentifier name = true)
    (column : ColumnDef) : EntityType :=
  { e with schema := e.schema.withColumn name plain column }

/-- The type with one more field to filter by. -/
def addPredicates (e : EntityType) (field : FieldSpec) : EntityType :=
  { e with catalog := { e.catalog with
      predicates := ⟨e.catalog.predicates.entries.insert field.name field.registration⟩ } }

/-- The type with one more field to order by. -/
def addSorts (e : EntityType) (field : FieldSpec) : EntityType :=
  { e with catalog := { e.catalog with
      sorts := ⟨e.catalog.sorts.fields.insert field.name field.type,
        (fieldScopes field.name field.type).foldl (fun m s => m.insert s.key s)
          e.catalog.sorts.scopes⟩ } }

/-- The steps that declarations are made of. -/
inductive Step (e : EntityType) : EntityType → Prop where
  | column {name : String} (plain : isIdentifier name = true) (column : ColumnDef) :
      e.schema.columns.contains name = false → Step e (e.addColumn name plain column)
  | predicates {field : FieldSpec} : e.schema.field? field.name = some field →
      e.catalog.predicates.isRegistered field.name = false → Step e (e.addPredicates field)
  | sorts {field : FieldSpec} : e.schema.field? field.name = some field →
      e.catalog.sorts.isRegistered field.name = false → Step e (e.addSorts field)

/-- Any number of steps. -/
abbrev Steps : EntityType → EntityType → Prop := Relation.ReflTransGen Step

end EntityType

theorem TableSchema.name_of_field? {s : TableSchema} {name : String} {field : FieldSpec}
    (h : s.field? name = some field) : field.name = name := by
  unfold TableSchema.field? at h
  obtain ⟨column, -, rfl⟩ := Option.map_eq_some_iff.1 h
  rfl

theorem TableSchema.resolve_eq_ok {s : TableSchema} {name : String} {type : StorageType}
    {field : FieldSpec} (h : s.resolve name type = .ok field) :
    s.field? name = some field ∧ field.name = name := by
  unfold TableSchema.resolve at h
  split at h
  · cases h
  next found known =>
    split at h <;> cases h
    exact ⟨known, TableSchema.name_of_field? known⟩

namespace EntityType
variable {e f : EntityType} {name : String} {type : StorageType}

theorem steps_of_withColumn {nullable : Bool} (h : e.withColumn name type nullable = .ok f) :
    e.Steps f := by
  unfold withColumn at h
  split at h
  · cases h
  next fresh =>
    obtain ⟨schema, declared, h⟩ := bind_eq_ok_iff.1 h
    obtain ⟨⟨plain⟩, -, made⟩ := bind_eq_ok_iff.1 declared
    cases made
    cases h
    exact .single (.column plain _ ((Bool.not_eq_true _).mp fresh))

/-- A field that is registered already is left as it is. -/
theorem registerPredicate_eq_ok (h : e.registerPredicate name type = .ok f) :
    ∃ field, e.schema.field? name = some field ∧ field.name = name ∧
      (e.catalog.predicates.isRegistered name = true ∧ f = e ∨
        e.catalog.predicates.isRegistered name = false ∧ f = e.addPredicates field) := by
  unfold registerPredicate at h
  obtain ⟨predicates, registered, made⟩ := bind_eq_ok_iff.1 h
  obtain ⟨field, resolved, registered⟩ := bind_eq_ok_iff.1 (mapError_eq_ok_iff.1 registered)
  obtain ⟨found, rfl⟩ := TableSchema.resolve_eq_ok resolved
  cases made
  refine ⟨field, found, rfl, ?_⟩
  split at registered
  next known =>
    cases registered
    exact .inl ⟨known, rfl⟩
  next fresh =>
    cases registered
    exact .inr ⟨(Bool.not_eq_true _).mp fresh, rfl⟩

theorem steps_of_registerPredicate (h : e.registerPredicate name type = .ok f) : e.Steps f := by
  obtain ⟨field, found, rfl, ⟨-, rfl⟩ | ⟨fresh, rfl⟩⟩ := registerPredicate_eq_ok h
  · exact .refl
  · exact .single (.predicates found fresh)

theorem steps_of_registerSort (h : e.registerSort name type = .ok f) : e.Steps f := by
  unfold registerSort at h
  obtain ⟨sorts, registered, made⟩ := bind_eq_ok_iff.1 h
  obtain ⟨field, resolved, registered⟩ := bind_eq_ok_iff.1 (mapError_eq_ok_iff.1 registered)
  obtain ⟨found, rfl⟩ := TableSchema.resolve_eq_ok resolved
  cases made
  split at registered
  · cases registered
    exact .refl
  next fresh =>
    cases registered
    exact .single (.sorts found ((Bool.not_eq_true _).mp fresh))

theorem steps_of_declare {d : Declaration} (h : e.declare d = .ok f) : e.Steps f := by
  cases d with
  | column name type nullable => exact steps_of_withColumn h
  | predicate field type => exact steps_of_registerPredicate h
  | sort field type => exact steps_of_registerSort h
  | field field type =>
    obtain ⟨between, predicates, sorts⟩ := bind_eq_ok_iff.1 h
    exact (steps_of_registerPredicate predicates).trans (steps_of_registerSort sorts)

theorem steps_of_declareAll {declarations : List Declaration}
    (h : e.declareAll declarations = .ok f) : e.Steps f := by
  induction declarations generalizing e with
  | nil =>
    cases h
    exact .refl
  | cons d rest ih =>
    rw [declareAll, List.foldlM_cons] at h
    obtain ⟨between, first, h⟩ := bind_eq_ok_iff.1 h
    exact (steps_of_declare first).trans (ih h)

end EntityType

/-! ### What the steps keep -/

theorem OrderedMap.contains_of_get? {α : Type} {m : OrderedMap α} {key : String} {v : α}
    (h : m.get? key = some v) : m.contains key = true := by
  rw [contains, h]
  rfl

theorem OrderedMap.contains_insert {α : Type} (m : OrderedMap α) (key k : String) (v : α) :
    (m.insert key v).contains k = (k == key || m.contains k) := by
  unfold contains
  rw [get?_insert]
  by_cases h : k = key <;> simp [h]

/-- Inserting a value under a key that was not there changes no other. -/
theorem OrderedMap.get?_insert_of_fresh {α : Type} {m : OrderedMap α} {key k : String} {v w : α}
    (fresh : m.contains key = false) (h : m.get? k = some w) :
    (m.insert key v).get? k = some w := by
  have other : k ≠ key := by
    rintro rfl
    rw [contains_of_get? h] at fresh
    cases fresh
  rw [get?_insert, if_neg other, h]

/-- What follows the last occurrence of a character, and what precedes it, are determined. -/
theorem append_cons_inj_of_not_mem {α : Type} {mark : α} {a b c d : List α} (hb : mark ∉ b)
    (hd : mark ∉ d) (h : a ++ mark :: b = c ++ mark :: d) : a = c ∧ b = d := by
  obtain ⟨more, rfl, same⟩ | ⟨more, rfl, same⟩ := List.append_eq_append_iff.1 h
  all_goals
    cases more with
    | nil => simp_all
    | cons x more =>
      obtain ⟨rfl, rfl⟩ := List.cons.inj same
      simp at hb hd

theorem SortVariant.no_colon (v : SortVariant) : ':' ∉ v.name.toList := by cases v <;> decide

/-- A sort key determines its field, whatever the name of the field, since no variant has a colon in
its name. -/
theorem sortKey_injective {field other : String} {v w : SortVariant}
    (h : sortKey field v = sortKey other w) : field = other ∧ v = w := by
  have chars := congrArg String.toList h
  simp only [sortKey, String.toList_append, List.append_assoc] at chars
  obtain ⟨fields, variants⟩ := append_cons_inj_of_not_mem v.no_colon w.no_colon chars
  exact ⟨String.toList_inj.1 fields, SortVariant.name_injective (String.toList_inj.1 variants)⟩

/-- Scopes are inserted under their own keys. -/
theorem get?_insertScopes {scopes : List SortScope} {m : OrderedMap SortScope} {key : String}
    {scope : SortScope}
    (h : (scopes.foldl (fun m s => m.insert s.key s) m).get? key = some scope) :
    (scope ∈ scopes ∧ scope.key = key) ∨ m.get? key = some scope := by
  induction scopes generalizing m with
  | nil => exact .inr h
  | cons s scopes ih =>
    obtain ⟨member, spelled⟩ | old := ih h
    · exact .inl ⟨List.mem_cons_of_mem s member, spelled⟩
    · rw [OrderedMap.get?_insert] at old
      split at old
      next here =>
        cases old
        exact .inl ⟨List.mem_cons_self, here.symm⟩
      next => exact .inr old

/-- Scopes with other keys leave a key as it is. -/
theorem get?_insertScopes_of_ne {scopes : List SortScope} {m : OrderedMap SortScope} {key : String}
    (other : ∀ s ∈ scopes, s.key ≠ key) :
    (scopes.foldl (fun m s => m.insert s.key s) m).get? key = m.get? key := by
  induction scopes generalizing m with
  | nil => rfl
  | cons s scopes ih =>
    obtain ⟨head, tail⟩ := List.forall_mem_cons.1 other
    rw [List.foldl_cons, ih tail, OrderedMap.get?_insert, if_neg fun h => head h.symm]

namespace EntityType

/-- The registrations of a type agree with its schema and with each other. -/
structure Coherent (e : EntityType) : Prop where
  /-- A field to filter by is a column, with the kinds that are legal on it. -/
  predicates : ∀ name registration, e.catalog.predicates.get? name = some registration →
    ∃ field, e.schema.field? name = some field ∧ registration = field.registration
  /-- A scope is found under its own key, and its field is registered to order by. -/
  scopes : ∀ key scope, e.catalog.sorts.resolve? key = some scope →
    scope.key = key ∧ e.catalog.sorts.isRegistered scope.field = true

/-- What is registered for a type is registered alike for another type. -/
structure Grows (e f : EntityType) : Prop where
  predicates : ∀ name registration, e.catalog.predicates.get? name = some registration →
    f.catalog.predicates.get? name = some registration
  scopes : ∀ key scope, e.catalog.sorts.resolve? key = some scope →
    f.catalog.sorts.resolve? key = some scope

variable {e f g : EntityType}

theorem Grows.refl (e : EntityType) : e.Grows e := ⟨fun _ _ h => h, fun _ _ h => h⟩

theorem Grows.trans (first : e.Grows f) (second : f.Grows g) : e.Grows g where
  predicates _ _ h := second.predicates _ _ (first.predicates _ _ h)
  scopes _ _ h := second.scopes _ _ (first.scopes _ _ h)

/-- The scopes of a field that is new to a type have keys that are new to it. -/
theorem Coherent.other_scopes (h : e.Coherent) {field : FieldSpec}
    (fresh : e.catalog.sorts.isRegistered field.name = false) {key : String} {scope : SortScope}
    (found : e.catalog.sorts.resolve? key = some scope) :
    ∀ s ∈ fieldScopes field.name field.type, s.key ≠ key := by
  intro s hs same
  obtain ⟨spelled, registered⟩ := h.scopes key scope found
  obtain ⟨variant, -, rfl⟩ := List.mem_map.1 hs
  have fields : field.name = scope.field := (sortKey_injective (same.trans spelled.symm)).1
  rw [fields, registered] at fresh
  cases fresh

theorem Coherent.grows_of_step (h : e.Coherent) (step : e.Step f) : e.Grows f := by
  cases step with
  | column _ _ _ => exact ⟨fun _ _ found => found, fun _ _ found => found⟩
  | predicates _ fresh =>
    exact ⟨fun _ _ found => OrderedMap.get?_insert_of_fresh fresh found, fun _ _ found => found⟩
  | sorts _ fresh =>
    refine ⟨fun _ _ found => found, fun key scope found => ?_⟩
    exact (get?_insertScopes_of_ne (h.other_scopes fresh found)).trans found

theorem Coherent.step (h : e.Coherent) (step : e.Step f) : f.Coherent := by
  cases step with
  | @column name plain column fresh =>
    refine ⟨fun field registration found => ?_, h.scopes⟩
    obtain ⟨spec, declared, same⟩ := h.predicates field registration found
    obtain ⟨old, known, rfl⟩ := Option.map_eq_some_iff.1 declared
    exact ⟨_, congrArg (Option.map _) (OrderedMap.get?_insert_of_fresh fresh known), same⟩
  | @predicates field declared fresh =>
    refine ⟨fun name registration found => ?_, h.scopes⟩
    simp only [addPredicates, PredicateRegistry.get?, OrderedMap.get?_insert] at found
    split at found
    next here =>
      cases found
      exact ⟨field, here ▸ declared, rfl⟩
    next => exact h.predicates name registration found
  | @sorts field declared fresh =>
    refine ⟨h.predicates, fun key scope found => ?_⟩
    show _ ∧ (e.catalog.sorts.fields.insert field.name field.type).contains scope.field = true
    rw [OrderedMap.contains_insert]
    obtain ⟨member, spelled⟩ | old := get?_insertScopes found
    · obtain ⟨variant, -, rfl⟩ := List.mem_map.1 member
      exact ⟨spelled, by simp⟩
    · obtain ⟨spelled, registered⟩ := h.scopes key scope old
      have kept : e.catalog.sorts.fields.contains scope.field = true := registered
      exact ⟨spelled, by simp [kept]⟩

/-- Steps keep what was registered before them. -/
theorem Coherent.steps (h : e.Coherent) (steps : e.Steps f) : f.Coherent ∧ e.Grows f := by
  induction steps with
  | refl => exact ⟨h, .refl e⟩
  | tail _ step ih =>
    obtain ⟨coherent, grows⟩ := ih
    exact ⟨coherent.step step, grows.trans (coherent.grows_of_step step)⟩

theorem coherent_ofSchema (name : String) (schema : TableSchema) :
    (ofSchema name schema).Coherent where
  predicates _ _ found := nomatch found
  scopes _ _ found := nomatch found

/-- A subtype starts with all that its supertype has. -/
theorem Coherent.extend (h : e.Coherent) (name : String) : (e.extend name).Coherent :=
  ⟨h.predicates, h.scopes⟩

theorem Reachable.coherent (h : e.Reachable) : e.Coherent := by
  induction h with
  | ofSchema name schema => exact coherent_ofSchema name schema
  | extend name _ ih => exact ih.extend name
  | declare _ made ih => exact (ih.steps (steps_of_declare made)).1

/-- A field to filter by is registered under its own name. -/
theorem Coherent.name_of_get? (h : e.Coherent) {name : String} {registration : Registration}
    (known : e.catalog.predicates.get? name = some registration) :
    registration.field.name = name := by
  obtain ⟨field, column, rfl⟩ := h.predicates name registration known
  exact TableSchema.name_of_field? column

/-- A key is read as a registered field, which is a column, and a kind that is legal on it. -/
theorem Coherent.of_parseKey (h : e.Coherent) {key : String} {pair : FieldSpec × PredicateKind}
    (read : e.catalog.predicates.parseKey key = some pair) :
    e.catalog.predicates.get? pair.1.name = some pair.1.registration ∧
      e.schema.field? pair.1.name = some pair.1 ∧
      pair.2.appliesTo pair.1.type pair.1.nullable = true := by
  obtain ⟨name, registration, spelled, known, same, -⟩ := PredicateRegistry.longest_of_parseKey read
  obtain ⟨_, found, allowed⟩ := PredicateRegistry.isPair_iff.1 spelled.pair
  cases known.symm.trans found
  obtain ⟨field, column, rfl⟩ := h.predicates name registration known
  obtain rfl : field = pair.1 := same
  obtain rfl := TableSchema.name_of_field? column
  exact ⟨known, column, allowed⟩

/-- A subtype keeps the registrations of its supertype. -/
theorem Reachable.grows_of_extend (h : e.Reachable) {name : String}
    {declarations : List Declaration} (made : (e.extend name).declareAll declarations = .ok f) :
    f.Coherent ∧ e.Grows f := by
  obtain ⟨coherent, grows⟩ := (h.coherent.extend name).steps (steps_of_declareAll made)
  exact ⟨coherent, grows.predicates, grows.scopes⟩

end EntityType
end QueryPlan
