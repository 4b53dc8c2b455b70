import QueryPlan.Proofs.Recognition
import QueryPlan.Proofs.Registration

/-!
# Requests under a subtype

A subtype has everything that its supertype has registered, but may read a key of the supertype as
that of a field of its own: a key is read with the longest suffix that leaves a registered pair, and
a shorter field name leaves a longer suffix. Such a key is captured. The keys that are not captured
keep their meaning (`parseKey_of_not_captured`), and a captured one is read as another field
(`foreign_of_captured`), so a plan of the supertype is one of the subtype just if no key of its
request is captured (`subtype_same_plan_iff`).
-/

namespace QueryPlan
set_option autoImplicit false

/-! ### Captured keys -/

/-- Whether a key of a registry is read as that of a new field in a larger one: it is also the key
of a field that is not in the registry, with a longer suffix. -/
def PredicateRegistry.Captures (old new : PredicateRegistry) (key : String) : Prop :=
  ∃ name kind, new.Spells key name kind ∧ old.isRegistered name = false ∧
    ∀ pair, old.parseKey key = some pair → pair.2.suffix.length < kind.suffix.length

namespace PredicateRegistry
variable {old new : PredicateRegistry} {key name : String} {kind : PredicateKind}
  {pair : FieldSpec × PredicateKind}

theorem isRegistered_of_spells (h : old.Spells key name kind) : old.isRegistered name = true := by
  obtain ⟨registration, known, -⟩ := isPair_iff.1 h.pair
  exact isRegistered_iff.2 ⟨registration, known⟩

section
variable (kept : ∀ name registration, old.get? name = some registration →
  new.get? name = some registration)
include kept

/-- A field that was registered before spells the same keys as before. -/
theorem spells_iff_of_registered (registered : old.isRegistered name = true) :
    new.Spells key name kind ↔ old.Spells key name kind := by
  obtain ⟨registration, known⟩ := isRegistered_iff.1 registered
  have same : new.isPair name kind = old.isPair name kind := by
    simp only [isPair, allowed, known, kept name registration known]
  constructor
  · rintro ⟨spelled, named, pair⟩
    exact ⟨spelled, named, same ▸ pair⟩
  · rintro ⟨spelled, named, pair⟩
    exact ⟨spelled, named, same.symm ▸ pair⟩

theorem parseKey_of_not_captured (read : old.parseKey key = some pair)
    (h : ¬ old.Captures new key) : new.parseKey key = some pair := by
  obtain ⟨name, registration, spelled, known, field, longest⟩ := longest_of_parseKey read
  have registered := isRegistered_of_spells spelled
  refine parseKey_eq_some_iff.2 ⟨name, registration,
    (spells_iff_of_registered kept registered).2 spelled, kept name registration known, field, ?_⟩
  intro other kind spells
  cases fresh : old.isRegistered other with
  | true => exact longest other kind ((spells_iff_of_registered kept fresh).1 spells)
  | false =>
    by_contra longer
    refine h ⟨other, kind, spells, fresh, fun found same => ?_⟩
    cases read.symm.trans same
    omega

/-- A captured key is read as that of a field that is not in the smaller registry. -/
theorem foreign_of_captured (read : old.parseKey key = some pair) (h : old.Captures new key) :
    ∃ name registration kind, new.parseKey key = some (registration.field, kind) ∧
      new.get? name = some registration ∧ old.isRegistered name = false := by
  obtain ⟨captor, longer, spells, -, captures⟩ := h
  cases found : new.parseKey key with
  | none => exact absurd spells (parseKey_eq_none_iff.1 found captor longer)
  | some taken =>
    obtain ⟨name, registration, spelled, known, field, longest⟩ := longest_of_parseKey found
    obtain ⟨-, -, -, -, -, short⟩ := longest_of_parseKey read
    refine ⟨name, registration, taken.2, by rw [field], known, ?_⟩
    by_contra registered
    rw [Bool.not_eq_false] at registered
    have before := short name taken.2 ((spells_iff_of_registered kept registered).1 spelled)
    have after := longest captor longer spells
    have between := captures pair read
    omega

end
end PredicateRegistry

/-! ### Plans under a subtype -/

/-- The recognized keys are about the fields that they are read as. -/
theorem map_field_known {r : PredicateRegistry} {fields : Fields}
    (known : ∀ entry ∈ fields, (r.parseKey entry.1).isSome = true) :
    ((r.known fields).map fun k => some k.field.name) =
      fields.map fun entry => (r.parseKey entry.1).map fun pair => pair.1.name := by
  unfold PredicateRegistry.known
  induction fields with
  | nil => rfl
  | cons entry fields ih =>
    obtain ⟨head, tail⟩ := List.forall_mem_cons.1 known
    obtain ⟨pair, read⟩ := Option.isSome_iff_exists.1 head
    simp [read, ← ih tail]

theorem KnownKey.Compiles.field {limits : RequestLimits} {k : KnownKey} {c : Condition}
    (h : k.Compiles limits c) : c.field = k.field.name := by
  cases h <;> rfl

/-- In strict mode the conditions of a plan are about the fields that the keys are read as. -/
theorem fields_of_strict {c : Catalog} {s : Settings} {r : Request} {p : Plan}
    (strict : s.isStrict = true) (h : c.compile s r = .ok p) :
    (r.entries.map fun entry => (c.predicates.parseKey entry.1).map fun pair => pair.1.name) =
      p.allConditions.map fun condition => some condition.field := by
  obtain ⟨a, stages⟩ := compile_eq_ok_iff.1 h
  rw [← map_field_known (known_of_strict strict h).1]
  refine forall₂_eq_iff_map_eq.1 ((conditions_of_stages stages).imp fun k condition compiled => ?_)
  rw [compiled.field]

/-- What a catalog makes of a request, a catalog that looks up its keys alike makes of it too. -/
theorem compile_of_agree {c d : Catalog} {s : Settings} {r : Request} {p : Plan}
    (h : c.compile s r = .ok p)
    (filters : ∀ entry ∈ r.entries, d.predicates.parseKey entry.1 = c.predicates.parseKey entry.1)
    (sorts : ∀ key ∈ r.sort, d.sorts.resolve? key = c.sorts.resolve? key) :
    d.compile s r = .ok p := by
  obtain ⟨a, stages⟩ := compile_eq_ok_iff.1 h
  have admits := admit_eq_ok stages.admitted
  have same : d.recognize a = c.recognize a :=
    recognize_congr (by rwa [admits.entries]) (by rwa [admits.sort])
  have known : d.checkKnown s.isStrict (d.recognize a) = .ok () := by
    rw [same, checkKnown_eq_ok_iff]
    exact checkKnown_eq_ok_iff.1 stages.known
  refine compile_eq_ok_iff.2
    ⟨a, stages.admitted, stages.sized, known, ?_, ?_, ?_, stages.window, ?_⟩
  all_goals rw [same]
  · exact stages.conditions
  · exact stages.groups
  · exact stages.order
  · exact stages.dropped

namespace EntityType
variable {e f : EntityType} {s : Settings} {r : Request} {p : Plan}

/-- A plan of a request that has a captured key is not made by the larger type. -/
theorem Coherent.not_captured_of_same_plan (here : e.Coherent) (there : f.Coherent)
    (grows : e.Grows f) (strict : s.isStrict = true) (h : e.catalog.compile s r = .ok p)
    (same : f.catalog.compile s r = .ok p) :
    ∀ entry ∈ r.entries, ¬ e.catalog.predicates.Captures f.catalog.predicates entry.1 := by
  intro entry member captured
  have fields : r.entries.map (fun entry =>
        (e.catalog.predicates.parseKey entry.1).map fun pair => pair.1.name) =
      r.entries.map fun entry =>
        (f.catalog.predicates.parseKey entry.1).map fun pair => pair.1.name := by
    rw [fields_of_strict strict h, fields_of_strict strict same]
  have field := List.map_inj_left.1 fields entry member
  obtain ⟨pair, read⟩ := Option.isSome_iff_exists.1 ((known_of_strict strict h).1 entry member)
  obtain ⟨name, registration, kind, taken, known, fresh⟩ :=
    PredicateRegistry.foreign_of_captured grows.predicates read captured
  -- The field that the key is read as is registered in the one type and new in the other.
  have registered : e.catalog.predicates.isRegistered pair.1.name = true :=
    PredicateRegistry.isRegistered_iff.2 ⟨_, (here.of_parseKey read).1⟩
  have same_name : pair.1.name = name := by
    rw [read, taken] at field
    exact (Option.some.inj field).trans (there.name_of_get? known)
  rw [same_name, fresh] at registered
  cases registered

/-- A type with more registrations makes the same plan of a request in strict mode if it captures
none of its keys, and only then. -/
theorem Coherent.same_plan_iff (here : e.Coherent) (there : f.Coherent) (grows : e.Grows f)
    (strict : s.isStrict = true) (h : e.catalog.compile s r = .ok p) :
    f.catalog.compile s r = .ok p ↔
      ∀ entry ∈ r.entries, ¬ e.catalog.predicates.Captures f.catalog.predicates entry.1 := by
  constructor
  · intro same
    exact here.not_captured_of_same_plan there grows strict h same
  · intro free
    obtain ⟨filters, sorts⟩ := known_of_strict strict h
    apply compile_of_agree h
    · intro entry member
      obtain ⟨pair, read⟩ := Option.isSome_iff_exists.1 (filters entry member)
      rw [read]
      exact PredicateRegistry.parseKey_of_not_captured grows.predicates read (free entry member)
    · intro key member
      obtain ⟨scope, found⟩ := Option.isSome_iff_exists.1 (sorts key member)
      rw [found]
      exact grows.scopes key scope found

end EntityType

/-- **A subtype makes the same plans as its supertype, unless it captures a key.** What compiles in
strict mode compiles under a subtype to the same plan just if none of its filter keys is captured
by a field that only the subtype has to filter by. -/
theorem subtype_same_plan_iff {parent child : EntityType} (reachable : parent.Reachable)
    {name : String} {declarations : List Declaration}
    (made : (parent.extend name).declareAll declarations = .ok child) {s : Settings}
    (strict : s.isStrict = true) {r : Request} {p : Plan} (h : parent.compile s r = .ok p) :
    child.compile s r = .ok p ↔
      ∀ entry ∈ r.entries,
        ¬ parent.catalog.predicates.Captures child.catalog.predicates entry.1 := by
  obtain ⟨coherent, grows⟩ := reachable.grows_of_extend made
  rw [EntityType.compile_eq_ok_iff_catalog] at h ⊢
  exact reachable.coherent.same_plan_iff coherent grows strict h

namespace Sample

/-- Refused articles, with the reason. -/
def refusal : EntityType where
  name := "Refusal"
  parent := none
  schema := { table := "refusals", columns := .ofList [("why_not", ⟨.string, false⟩)] }
  catalog :=
    { predicates := ⟨.ofList [("why_not", FieldSpec.registration ⟨"why_not", .string, false⟩)]⟩
      sorts := ⟨.ofList [("why_not", .string)],
        .ofList ((fieldScopes "why_not" .string).map fun scope => (scope.key, scope))⟩ }

/-- Refusals that also say why an article was sent in. -/
def review : EntityType where
  name := "Review"
  parent := some "Refusal"
  schema :=
    { table := "refusals"
      columns := .ofList [("why_not", ⟨.string, false⟩), ("why", ⟨.string, false⟩)] }
  catalog :=
    { predicates := ⟨.ofList [("why_not", FieldSpec.registration ⟨"why_not", .string, false⟩),
        ("why", FieldSpec.registration ⟨"why", .string, false⟩)]⟩
      sorts := ⟨.ofList [("why_not", .string), ("why", .string)],
        .ofList ((fieldScopes "why_not" .string ++ fieldScopes "why" .string).map
          fun scope => (scope.key, scope))⟩ }

theorem refusal_reachable : refusal.Reachable := by
  have made : (EntityType.ofSchema "Refusal" { table := "refusals", columns := .empty }).declareAll
      [.column "why_not" .string false, .field "why_not" .string] = .ok refusal := rfl
  exact (EntityType.Reachable.ofSchema "Refusal" _).declareAll made

theorem review_made : (refusal.extend "Review").declareAll
    [.column "why" .string false, .field "why" .string] = .ok review := rfl

/-- Unknown keys are refused. -/
def strictly : Settings := { strictPredicates := true }

/-- A request with one filter, for refusals because of the price. -/
def priced (key : String) : Request where
  filters := [.inherent (.map [(key, .text "price")])]

/-- The plan with one condition. -/
def onlyWhere (c : Condition) : Plan := ⟨[c], [], [], ⟨1, 25, 25, 0⟩, []⟩

end Sample

open Sample in
/-- A key of the longer field that the shorter one does not spell has the same plan. -/
theorem reason_kept :
    (∃ p, refusal.compile strictly (priced "why_not_contains") = .ok p ∧
      review.compile strictly (priced "why_not_contains") = .ok p) ∧
    ∀ entry ∈ (priced "why_not_contains").entries,
      ¬ refusal.catalog.predicates.Captures review.catalog.predicates entry.1 := by
  have here : refusal.compile strictly (priced "why_not_contains") =
      .ok (onlyWhere ⟨"why_not", .contains, .one (.text "%price%")⟩) := rfl
  have there : review.compile strictly (priced "why_not_contains") =
      .ok (onlyWhere ⟨"why_not", .contains, .one (.text "%price%")⟩) := rfl
  refine ⟨⟨_, here, there⟩, ?_⟩
  exact (subtype_same_plan_iff refusal_reachable review_made rfl here).1 there

open Sample in
/-- The key `why_not_eq` asks refusals for a reason, and reviews for anything but a motive. -/
theorem reason_captured :
    refusal.Reachable ∧
    (refusal.extend "Review").declareAll
      [.column "why" .string false, .field "why" .string] = .ok review ∧
    strictly.isStrict = true ∧
    refusal.compile strictly (priced "why_not_eq") =
      .ok (onlyWhere ⟨"why_not", .eq, .one (.text "price")⟩) ∧
    review.compile strictly (priced "why_not_eq") =
      .ok (onlyWhere ⟨"why", .notEq, .one (.text "price")⟩) ∧
    review.compile strictly (priced "why_not_eq") ≠
      refusal.compile strictly (priced "why_not_eq") := by
  have here : refusal.compile strictly (priced "why_not_eq") =
      .ok (onlyWhere ⟨"why_not", .eq, .one (.text "price")⟩) := rfl
  have there : review.compile strictly (priced "why_not_eq") =
      .ok (onlyWhere ⟨"why", .notEq, .one (.text "price")⟩) := rfl
  refine ⟨refusal_reachable, review_made, rfl, here, there, ?_⟩
  rw [here, there]
  intro same
  have conditions := congrArg Plan.conditions (Except.ok.inj same)
  simp [onlyWhere] at conditions

end QueryPlan
