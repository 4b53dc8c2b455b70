import QueryPlan.Proofs.Spelling

/-!
# Listed keys

The listings of an entity type leave out fields that look like credentials. A listed filter key can
still be spelled by another registered pair, and it is read as the one with the longest suffix, not
as the one that it is listed for. The field that wins has a name that the name of the listed field
starts with (`Built.parseKey_registered`), and what looks like a credential goes on doing so however
it is continued (`isSensitive_append`), so the winner is not hidden either. Sort keys are spelled by
one scope each, and a key is listed just if its scope is of a field that is not hidden
(`listings_lead_to_visible`).
-/

namespace QueryPlan
set_option autoImplicit false

/-! ### Names that look like credentials -/

theorem Text.occurs_iff {word s : List Char} : Text.occurs word s = true ↔ word <:+: s := by
  induction s with
  | nil => simp [Text.occurs]
  | cons c s ih =>
    rw [Text.occurs, Bool.or_eq_true, List.isPrefixOf_iff_prefix, ih, List.infix_cons_iff]

theorem isSensitive_append {name : String} (more : String) (sensitive : isSensitive name = true) :
    isSensitive (name ++ more) = true := by
  unfold isSensitive at sensitive ⊢
  obtain ⟨fragment, known, occurs⟩ := List.any_eq_true.1 sensitive
  refine List.any_eq_true.2 ⟨fragment, known, Text.occurs_iff.2 ?_⟩
  have inside : fragment.toList <:+: (Text.lower name).toList := Text.occurs_iff.1 occurs
  have start : (Text.lower name).toList <+: (Text.lower (name ++ more)).toList := by
    simp [Text.lower]
  exact inside.trans start.isInfix

/-! ### The field that a key of a registered pair is read as -/

/-- A registered pair has a key that is read as a field whose name its own name starts with. -/
theorem PredicateRegistry.Built.parseKey_registered {r : PredicateRegistry} (h : r.Built)
    {field : FieldSpec} {kind : PredicateKind} (registered : r.Registers field kind) :
    ∃ winner longer more, r.parseKey (predicateKey field.name kind) = some (winner, longer) ∧
      field.name = winner.name ++ more := by
  have read : r.parseKey (predicateKey field.name kind) ≠ none := fun unread =>
    h.parseKey_eq_none_iff.1 unread field kind registered rfl
  obtain ⟨⟨winner, longer⟩, read⟩ := Option.ne_none_iff_exists'.1 read
  obtain ⟨spelled, -, longest⟩ := h.parseKey_eq_some_iff.1 read
  have bound := longest field kind registered rfl
  -- The suffix of the winner is at least as long, so its name ends where the other one goes on.
  have start : winner.name.toList <+: field.name.toList := by
    have chars := congrArg String.toList spelled
    simp only [predicateKey, String.toList_append, List.append_assoc] at chars
    have lengths := congrArg List.length chars
    simp only [List.length_append, String.length_toList] at lengths
    refine List.prefix_of_prefix_length_le ⟨_, chars.symm⟩ (List.prefix_append _ _) ?_
    simp only [String.length_toList]
    omega
  obtain ⟨more, whole⟩ := start
  exact ⟨winner, longer, String.ofList more, read, String.toList_inj.1 (by simpa using whole.symm)⟩

namespace EntityType
variable {e f : EntityType} {key : String}

/-! ### What is listed -/

theorem built_step (h : e.catalog.predicates.Built) (step : e.Step f) :
    f.catalog.predicates.Built := by
  cases step with
  | column _ _ _ => exact h
  | sorts _ _ => exact h
  | @predicates field column fresh =>
    have resolved : e.schema.resolve field.name field.type = .ok field := by
      rw [TableSchema.resolve, column]
      exact if_pos rfl
    have new : ¬ e.catalog.predicates.entries.contains field.name = true :=
      Bool.eq_false_iff.1 fresh
    have made : e.catalog.predicates.register e.schema field.name field.type =
        .ok (e.addPredicates field).catalog.predicates := by
      rw [PredicateRegistry.register, resolved]
      exact if_neg new
    exact .register h made

theorem built_steps (h : e.catalog.predicates.Built) (steps : e.Steps f) :
    f.catalog.predicates.Built := by
  induction steps with
  | refl => exact h
  | tail _ step built => exact built_step built step

theorem Reachable.built (h : e.Reachable) : e.catalog.predicates.Built := by
  induction h with
  | ofSchema name schema => exact .empty
  | extend name _ ih => exact ih
  | declare _ made ih => exact built_steps ih (steps_of_declare made)

theorem mem_predicateKeys_iff : key ∈ e.predicateKeys ↔
    ∃ field kind, e.catalog.predicates.Registers field kind ∧ field.sensitive = false ∧
      key = predicateKey field.name kind := by
  simp only [predicateKeys, visibleRegistrations, List.mem_flatMap, List.mem_filter,
    Registration.keys, List.mem_map, KindSet.mem_toList, PredicateRegistry.Registers,
    Bool.not_eq_true']
  constructor
  · rintro ⟨registration, ⟨listed, visible⟩, kind, allowed, rfl⟩
    exact ⟨registration.field, kind, ⟨registration, listed, rfl, allowed⟩, visible, rfl⟩
  · rintro ⟨_, kind, ⟨registration, listed, rfl, allowed⟩, visible, rfl⟩
    exact ⟨registration, ⟨listed, visible⟩, kind, allowed, rfl⟩

theorem mem_sortScopes_iff : key ∈ e.sortScopes ↔
    ∃ scope, e.catalog.sorts.resolve? key = some scope ∧ isSensitive scope.field = false := by
  simp only [sortScopes, List.mem_map, List.mem_filter, Bool.not_eq_true', Prod.exists,
    SortRegistry.resolve?, ← OrderedMap.mem_entries_iff]
  constructor
  · rintro ⟨_, scope, ⟨entry, visible⟩, rfl⟩
    exact ⟨scope, entry, visible⟩
  · rintro ⟨scope, entry, visible⟩
    exact ⟨key, scope, ⟨entry, visible⟩, rfl⟩

/-- A listed filter key is read as a field that is not hidden, whichever field it is listed for. -/
theorem Reachable.parseKey_of_listed (h : e.Reachable) (listed : key ∈ e.predicateKeys) :
    ∃ field kind, e.catalog.predicates.parseKey key = some (field, kind) ∧
      field.sensitive = false := by
  obtain ⟨field, kind, registered, visible, rfl⟩ := mem_predicateKeys_iff.1 listed
  obtain ⟨winner, longer, more, read, name⟩ := h.built.parseKey_registered registered
  refine ⟨winner, longer, read, Bool.eq_false_iff.2 fun sensitive => ?_⟩
  have hidden : isSensitive field.name = true := name ▸ isSensitive_append more sensitive
  rw [FieldSpec.sensitive, hidden] at visible
  cases visible

/-- **Listed keys never lead to a hidden field.** Every listed filter key is read as a field that is
not hidden, so none that is read as a hidden field is listed. The listed sort keys are those that
stand for an ordering by a column that is not hidden, among them every key of such a field that is
registered to order by. -/
theorem listings_lead_to_visible (reachable : e.Reachable) :
    (∀ key ∈ e.predicateKeys, ∃ field kind,
      e.catalog.predicates.parseKey key = some (field, kind) ∧ field.sensitive = false) ∧
    (∀ key field kind, e.catalog.predicates.parseKey key = some (field, kind) →
      field.sensitive = true → key ∉ e.predicateKeys) ∧
    (∀ key, key ∈ e.sortScopes ↔ ∃ scope, e.catalog.sorts.resolve? key = some scope ∧
      isSensitive scope.term.column = false) ∧
    ∀ field type, (field, type) ∈ e.catalog.sorts.fields.entries → isSensitive field = false →
      ∀ variant ∈ SortVariant.ofType type, sortKey field variant ∈ e.sortScopes := by
  refine ⟨fun key => reachable.parseKey_of_listed, ?_, fun key => mem_sortScopes_iff, ?_⟩
  · intro key field kind read hidden listed
    obtain ⟨other, _, read', visible⟩ := reachable.parseKey_of_listed listed
    rw [read] at read'
    cases read'
    rw [hidden] at visible
    cases visible
  · intro field type registered visible variant listed
    refine mem_sortScopes_iff.2 ⟨⟨field, variant⟩, ?_, visible⟩
    exact (reachable.sound.resolve _ _).2
      ⟨field, type, variant, registered, listed, rfl, rfl, rfl, rfl⟩

end EntityType

namespace Sample

/-- Two texts, one named like the other with `_not` behind it, and one that is hidden. -/
def house : List Declaration :=
  [.column "door" .string false, .column "door_not" .string false, .column "salt" .string false,
    .field "door_not" .string, .field "door" .string, .field "salt" .string]

end Sample

open Sample in
/-- The key `door_not_eq` is listed for the longer name and read as the shorter one, which is not
hidden either; no key of the hidden field is listed. -/
theorem house_listed :
    ∃ e, (EntityType.ofSchema "House" { table := "houses", columns := .empty }).declareAll house =
        .ok e ∧
      "door_not_eq" ∈ e.predicateKeys ∧
      e.catalog.predicates.parseKey "door_not_eq" = some (⟨"door", .string, false⟩, .notEq) ∧
      FieldSpec.sensitive ⟨"door", .string, false⟩ = false ∧
      e.catalog.predicates.parseKey "salt_eq" = some (⟨"salt", .string, false⟩, .eq) ∧
      FieldSpec.sensitive ⟨"salt", .string, false⟩ = true ∧ "salt_eq" ∉ e.predicateKeys ∧
      "door:asc" ∈ e.sortScopes := by
  let schema : TableSchema := { table := "houses", columns := .empty }
  obtain ⟨e, made⟩ : ∃ e, (EntityType.ofSchema "House" schema).declareAll house = .ok e := ⟨_, rfl⟩
  have reachable := (EntityType.Reachable.ofSchema "House" schema).declareAll made
  obtain ⟨visible, unlisted, -, sorts⟩ := EntityType.listings_lead_to_visible reachable
  have listed : "door_not_eq" ∈ e.predicateKeys := by
    cases made
    decide +kernel
  have read : e.catalog.predicates.parseKey "door_not_eq" =
      some (⟨"door", .string, false⟩, .notEq) := by
    cases made
    decide +kernel
  have hidden : e.catalog.predicates.parseKey "salt_eq" =
      some (⟨"salt", .string, false⟩, .eq) := by
    cases made
    decide +kernel
  have registered : ("door", .string) ∈ e.catalog.sorts.fields.entries := by
    cases made
    decide +kernel
  have sensitive : FieldSpec.sensitive ⟨"salt", .string, false⟩ = true := by decide +kernel
  obtain ⟨field, kind, read', shown⟩ := visible _ listed
  rw [read] at read'
  cases read'
  exact ⟨e, made, listed, read, shown, hidden, sensitive, unlisted _ _ _ hidden sensitive,
    sorts "door" .string registered (by decide +kernel) .asc (by decide)⟩

end QueryPlan
