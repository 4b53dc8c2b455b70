import QueryPlan.Proofs.Envelopes
import QueryPlan.Proofs.Strictness

/-!
# Null entries

Null under a key of an envelope stands for no entry: null filters are passed over by admission, and
null sort keys and page numbers are read as the ones that a request starts with. So an envelope has
the same outcome with a null entry and without it (`null_entry_absent_iff`), except under `or`,
where null is refused as no list (`null_groups_refused`).
-/

namespace QueryPlan
set_option autoImplicit false

namespace Request
variable {permission : Permission} {r r' s : Request} {field : String × Json} {key : String}

/-! ### Null filters -/

/-- The request without filter maps that are null. -/
def withoutNulls (r : Request) : Request :=
  { r with filters := r.filters.filter fun i => !i.isAbsent }

/-- Admission passes over null filters. -/
theorem admit_withoutNulls (r : Request) : r.withoutNulls.admit = r.admit := by
  unfold Request.admit
  simp [withoutNulls, List.filter_filter]

/-- Null filters change nothing of what a field adds or how it is refused. -/
theorem addField_withoutNulls (r : Request) :
    withoutNulls <$> addField permission r.withoutNulls field =
      withoutNulls <$> addField permission r field := by
  have read {α : Type} (x : Except QueryError α) {f g : α → Request}
      (same : ∀ a, (f a).withoutNulls = (g a).withoutNulls) :
      withoutNulls <$> (x >>= fun a => Except.ok (f a)) =
        withoutNulls <$> (x >>= fun a => Except.ok (g a)) := by
    cases x with
    | error e => rfl
    | ok a => exact congrArg Except.ok (same a)
  obtain ⟨key, v⟩ := field
  simp only [addField]
  split
  case h_1 =>
    apply congrArg Except.ok
    simp [withoutNulls, addFilters, List.filter_append, List.filter_filter]
  case h_6 => rfl
  all_goals
    apply read
    intro found
    simp [withoutNulls, List.filter_filter]

/-- Requests that differ in null filters only go on doing so. -/
theorem foldlM_withoutNulls (fields : Fields) (same : r.withoutNulls = s.withoutNulls) :
    withoutNulls <$> fields.foldlM (addField permission) r =
      withoutNulls <$> fields.foldlM (addField permission) s := by
  induction fields generalizing r s with
  | nil => exact congrArg Except.ok same
  | cons field fields ih =>
    have step : withoutNulls <$> addField permission r field =
        withoutNulls <$> addField permission s field := by
      rw [← addField_withoutNulls r, same, addField_withoutNulls s]
    rw [List.foldlM_cons, List.foldlM_cons, map_bind, map_bind]
    exact bind_eq_of_map_eq step fun a b => ih

/-! ### Null under other keys -/

/-- Nothing has been given under a key of an envelope. -/
structure Lacks (r : Request) (key : String) : Prop where
  sort : key = "sort" → r.sort = []
  page : key = "page" → r.page = none
  perPage : key = "per_page" → r.perPage = none

theorem lacks_empty (key : String) : Lacks {} key := ⟨fun _ => rfl, fun _ => rfl, fun _ => rfl⟩

theorem Lacks.adds (lacks : r.Lacks key) (adds : Adds permission r field r')
    (other : field.1 ≠ key) : r'.Lacks key := by
  cases adds with
  | filters v => exact ⟨lacks.sort, lacks.page, lacks.perPage⟩
  | groups items => exact ⟨lacks.sort, lacks.page, lacks.perPage⟩
  | sort read => exact ⟨fun same => absurd same.symm other, lacks.page, lacks.perPage⟩
  | page read => exact ⟨lacks.sort, fun same => absurd same.symm other, lacks.perPage⟩
  | perPage read => exact ⟨lacks.sort, lacks.page, fun same => absurd same.symm other⟩

theorem Lacks.foldlM {fields : Fields} (lacks : r.Lacks key) (absent : key ∉ fields.map Prod.fst)
    (added : fields.foldlM (addField permission) r = .ok r') : r'.Lacks key := by
  refine foldlM_invariant (P := fun q => q.Lacks key) ?_ lacks added
  intro field member q next lacks step
  have other : field.1 ≠ key := fun same => absent (List.mem_map.2 ⟨field, member, same⟩)
  exact lacks.adds (addField_eq_ok_iff.1 step) other

/-- A null entry adds at most a null filter where nothing was given. -/
theorem Lacks.exists_adds_null (lacks : r.Lacks key) (usable : permission.allowsUse = true)
    (known : key ∈ envelopeKeys) (other : key ≠ "or") :
    ∃ r', Adds permission r (key, .null) r' ∧ r'.withoutNulls = r.withoutNulls := by
  simp only [envelopeKeys, List.mem_cons, List.not_mem_nil, or_false] at known
  rcases known with rfl | rfl | rfl | rfl | rfl
  · refine ⟨_, .filters .null, ?_⟩
    have absent : (Input.mk .null permission).isAbsent = true := by
      rw [Input.isAbsent, usable]
      rfl
    simp [withoutNulls, addFilters, List.filter_append, absent]
  · exact absurd rfl other
  · refine ⟨_, .sort rfl, ?_⟩
    rw [← lacks.sort rfl]
  · refine ⟨_, .page rfl, ?_⟩
    rw [← lacks.page rfl]
  · refine ⟨_, .perPage rfl, ?_⟩
    rw [← lacks.perPage rfl]

variable {before after : Fields}

/-- An entry under another key than `or` may be null or missing. -/
theorem ofEnvelope_null (known : key ∈ envelopeKeys) (other : key ≠ "or")
    (fresh : key ∉ before.map Prod.fst) (after : Fields) (permission : Permission) :
    withoutNulls <$> ofEnvelope ⟨.map (before ++ (key, .null) :: after), permission⟩ =
      withoutNulls <$> ofEnvelope ⟨.map (before ++ after), permission⟩ := by
  cases read : ofEnvelope ⟨.map before, permission⟩ with
  | error e => rw [ofEnvelope_append_of_error read, ofEnvelope_append_of_error read]
  | ok r =>
    have usable := usable_of_ofEnvelope read
    obtain ⟨r', adds, same⟩ : ∃ r', Adds permission r (key, .null) r' ∧
        r'.withoutNulls = r.withoutNulls := by
      rw [ofEnvelope_map usable] at read
      exact ((lacks_empty key).foldlM fresh read).exists_adds_null usable known other
    rw [ofEnvelope_append usable, ofEnvelope_append usable, read]
    show withoutNulls <$> List.foldlM (addField permission) r ((key, .null) :: after) = _
    rw [List.foldlM_cons, addField_eq_ok_iff.2 adds]
    exact foldlM_withoutNulls after same

/-- Null is no list of OR-groups. -/
theorem ofEnvelope_null_groups (read : ofEnvelope ⟨.map before, permission⟩ = .ok r)
    (after : Fields) :
    ofEnvelope ⟨.map (before ++ ("or", .null) :: after), permission⟩ =
      .error (shapeError (.groupsNotList "or" .null)) := by
  rw [ofEnvelope_append (usable_of_ofEnvelope read), read]
  rfl

end Request

namespace EntityType
variable {e : EntityType} {s : Settings}

theorem compile_withoutNulls (r : Request) : e.compile s r.withoutNulls = e.compile s r := by
  unfold EntityType.compile Catalog.compile
  rw [r.admit_withoutNulls]
  rfl

/-- What is read of two envelopes has the same outcome if it differs in null filters only. -/
theorem compileEnvelope_congr {input other : Input}
    (same : Request.withoutNulls <$> Request.ofEnvelope input =
      Request.withoutNulls <$> Request.ofEnvelope other) :
    e.compileEnvelope s input = e.compileEnvelope s other := by
  apply bind_eq_of_map_eq same
  intro r r' alike
  rw [← compile_withoutNulls r, alike, compile_withoutNulls r']

end EntityType

namespace Catalog
variable {c : Catalog} {s : Settings} {r : Request} {report : Report}

/-- A fault in the shape of a request is in one of its inputs, and no key is named for it. -/
theorem key_of_firstFault? (fault : c.firstFault? s r = some report)
    (shape : report.code = .requestShape) : report.key = none := by
  have kind : report.code.kind = .configuration := by rw [shape]; rfl
  unfold firstFault? at fault
  obtain input | ⟨-, fault⟩ := Option.or_eq_some_iff.1 fault
  · rcases report_of_inputFault? input with rfl | rfl <;> rfl
  obtain size | ⟨-, fault⟩ := Option.or_eq_some_iff.1 fault
  · exact (report_of_sizeFault? size).2
  obtain unknown | ⟨-, fault⟩ := Option.or_eq_some_iff.1 fault
  · rw [kind_of_unknownFault? (Option.ite_none_right_eq_some.1 unknown).2] at kind
    cases kind
  obtain operand | ⟨-, page⟩ := Option.or_eq_some_iff.1 fault
  · rw [code_of_operandFault? operand] at shape
    cases shape
  · rw [kind_of_pageFault? page] at kind
    cases kind

end Catalog

namespace EntityType
variable {e : EntityType} {s : Settings} {key : String} {before after : Fields}
  {permission : Permission}

/-- A compilation never fails for a key of the envelope. -/
theorem not_blames_compile {r : Request} {err : QueryError} (failed : e.compile s r = .error err) :
    ¬ Request.Blames key err := by
  intro blamed
  obtain ⟨cause, compiled, rfl⟩ := mapError_eq_error_iff.1 failed
  obtain ⟨code, named⟩ := blamed.report
  rw [QueryError.code_tagged] at code
  rw [QueryError.key_tagged] at named
  have fault : e.catalog.firstFault? s r = some cause.report := by
    rw [← reported_compile, compiled]
    rfl
  have unnamed : cause.key = none := Catalog.key_of_firstFault? fault code
  rw [unnamed] at named
  cases named

/-- The outcome of an envelope is an error that names a key only if the key is there. -/
theorem mem_keys_of_blames {err : QueryError} {r : Request}
    (read : Request.ofEnvelope ⟨.map before, permission⟩ = .ok r)
    (failed : e.compileEnvelope s ⟨.map (before ++ after), permission⟩ = .error err)
    (blamed : Request.Blames key err) : key ∈ after.map Prod.fst := by
  unfold compileEnvelope at failed
  rw [Request.ofEnvelope_append (Request.usable_of_ofEnvelope read), read] at failed
  obtain refused | ⟨r', -, failed⟩ := bind_eq_error_iff.1 failed
  · obtain ⟨found, member, named⟩ := Request.blames_foldlM (r := r) refused
    have same : key = found := by
      have here := blamed.report.2
      rw [named.report.2] at here
      exact (Option.some.inj here).symm
    rwa [same]
  · exact absurd blamed (not_blames_compile failed)

end EntityType

/-- **A null entry is an absent one, except under `or`.** An envelope with null under one of its
keys has the same outcome as the envelope without that entry, whatever the other entries are, just
if the key is not `or` or the envelope is refused before that entry is looked at. -/
theorem null_entry_absent_iff {key : String} {before after : Fields}
    (known : key ∈ Request.envelopeKeys) (fresh : key ∉ (before ++ after).map Prod.fst)
    (e : EntityType) (s : Settings) (permission : Permission) :
    e.compileEnvelope s ⟨.map (before ++ (key, .null) :: after), permission⟩ =
        e.compileEnvelope s ⟨.map (before ++ after), permission⟩ ↔
      key ≠ "or" ∨ ∃ err, Request.ofEnvelope ⟨.map before, permission⟩ = .error err := by
  rw [List.map_append, List.mem_append, not_or] at fresh
  constructor
  · intro same
    rw [or_iff_not_imp_left, not_not]
    rintro rfl
    cases read : Request.ofEnvelope ⟨.map before, permission⟩ with
    | error err => exact ⟨err, rfl⟩
    | ok r =>
      have refused : e.compileEnvelope s ⟨.map (before ++ ("or", .null) :: after), permission⟩ =
          .error (Request.shapeError (.groupsNotList "or" .null)) := by
        rw [EntityType.compileEnvelope, Request.ofEnvelope_null_groups read]
        rfl
      rw [refused] at same
      exact absurd (EntityType.mem_keys_of_blames read same.symm ⟨_, rfl, rfl⟩) fresh.2
  · rintro (other | ⟨err, refused⟩)
    · exact EntityType.compileEnvelope_congr
        (Request.ofEnvelope_null known other fresh.1 after permission)
    · rw [EntityType.compileEnvelope, EntityType.compileEnvelope,
        Request.ofEnvelope_append_of_error refused, Request.ofEnvelope_append_of_error refused]

open Sample in
/-- A null page size between filters and a page makes no difference, and neither do null OR-groups
behind a page that is no integer. -/
theorem null_size_absent :
    articles.compileEnvelope {} (.inherent (.map
        [("filters", .map [("title_eq", .text "Lean")]), ("per_page", .null), ("page", .int 2)])) =
      articles.compileEnvelope {} (.inherent (.map
        [("filters", .map [("title_eq", .text "Lean")]), ("page", .int 2)])) ∧
    articles.compileEnvelope {} (.inherent (.map [("page", .text "two"), ("or", .null)])) =
      articles.compileEnvelope {} (.inherent (.map [("page", .text "two")])) := by
  have size := @null_entry_absent_iff "per_page" [("filters", .map [("title_eq", .text "Lean")])]
    [("page", .int 2)] (by decide) (by decide) articles {} .inherent
  have groups := @null_entry_absent_iff "or" [("page", .text "two")] [] (by decide) (by decide)
    articles {} .inherent
  exact ⟨size.2 (.inl (by decide)), groups.2 (.inr ⟨_, rfl⟩)⟩

open Sample in
/-- Null OR-groups are refused where the envelope without them has a plan. -/
theorem null_groups_refused :
    articles.compileEnvelope {} (.inherent (.map [("or", .null)])) =
      .error (Request.shapeError (.groupsNotList "or" .null)) ∧
    ∃ p, articles.compileEnvelope {} (.inherent (.map [])) = .ok p :=
  ⟨rfl, _, rfl⟩

end QueryPlan
