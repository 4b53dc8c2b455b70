import Mathlib.Data.List.Nodup
import QueryPlan.Predicate.Registry

/-!
# Reading filter keys

A key can be spelled by several registered pairs, since field names may hold underscores
themselves. `parseKey_eq_some_iff` says which of them it is read as: the one with the longest
suffix. No other pair can spell the key with a suffix of that length (`predicateKey_inj`).
-/

namespace QueryPlan
set_option autoImplicit false

theorem PredicateKind.suffix_injective {k l : PredicateKind} (h : k.suffix = l.suffix) : k = l := by
  have distinct : (all.map suffix).Nodup := by decide +kernel
  exact List.inj_on_of_nodup_map distinct (mem_all k) (mem_all l) h

/-- A key with suffixes of the same length determines the field name and the kind. -/
theorem predicateKey_inj {name other : String} {k l : PredicateKind}
    (same : predicateKey name k = predicateKey other l)
    (length : k.suffix.length = l.suffix.length) : name = other ∧ k = l := by
  have chars := congrArg String.toList same
  simp only [predicateKey, String.toList_append] at chars
  rw [← String.length_toList, ← String.length_toList] at length
  obtain ⟨names, suffixes⟩ := List.append_inj' chars length
  exact ⟨String.toList_inj.1 (List.append_cancel_right names),
    PredicateKind.suffix_injective (String.toList_inj.1 suffixes)⟩

namespace PredicateRegistry
variable {r : PredicateRegistry} {key name : String} {kind : PredicateKind}

/-- Whether a key is the name of a field, an underscore and the suffix of a kind that the field
allows. A field has a name. -/
structure Spells (r : PredicateRegistry) (key name : String) (kind : PredicateKind) : Prop where
  key : key = predicateKey name kind
  named : name ≠ ""
  pair : r.isPair name kind = true

theorem isRegistered_iff :
    r.isRegistered name = true ↔ ∃ registration, r.get? name = some registration :=
  Option.isSome_iff_exists

theorem isPair_iff : r.isPair name kind = true ↔
    ∃ registration, r.get? name = some registration ∧ registration.kinds.contains kind = true := by
  unfold isPair allowed
  cases r.get? name <;> simp [KindSet.empty]

theorem pairOf?_eq_some_iff {pair : FieldSpec × PredicateKind} :
    r.pairOf? key kind = some pair ↔ ∃ name registration, r.Spells key name kind ∧
      r.get? name = some registration ∧ pair = (registration.field, kind) := by
  unfold pairOf?
  have left (name : String) : (!name.isEmpty) = true ↔ name ≠ "" := by
    rw [Bool.not_eq_true', ← Bool.not_eq_true, String.isEmpty_iff]
  simp only [Option.bind_eq_bind, Option.bind_eq_some_iff, Option.filter_eq_some_iff,
    Text.stripEnd?_eq_some_iff, left]
  constructor
  · rintro ⟨name, ⟨spelled, named⟩, registration, found, h⟩
    split at h <;> cases h
    next allowed =>
      have whole : key = predicateKey name kind := by
        rw [spelled, predicateKey, String.append_assoc]
      have pair := isPair_iff.2 ⟨registration, found, allowed⟩
      exact ⟨name, registration, ⟨whole, named, pair⟩, found, rfl⟩
  · rintro ⟨name, registration, ⟨rfl, named, pair⟩, found, rfl⟩
    obtain ⟨same, known, allowed⟩ := isPair_iff.1 pair
    rw [found] at known
    cases known
    exact ⟨name, ⟨String.append_assoc .., named⟩, registration, found, if_pos allowed⟩

theorem parseKey_eq_none_iff :
    r.parseKey key = none ↔ ∀ name kind, ¬ r.Spells key name kind := by
  unfold parseKey
  rw [List.findSome?_eq_none_iff]
  constructor
  · intro none name kind spelled
    obtain ⟨registration, found, -⟩ := isPair_iff.1 spelled.pair
    have some := pairOf?_eq_some_iff.2 ⟨name, registration, spelled, found, rfl⟩
    rw [none kind (PredicateKind.mem_longestFirst kind)] at some
    cases some
  · intro none kind _
    rw [Option.eq_none_iff_forall_ne_some]
    intro pair h
    obtain ⟨name, registration, spelled, -⟩ := pairOf?_eq_some_iff.1 h
    exact none name kind spelled

/-- A pair that a key is read as spells the key, and none with a longer suffix does. -/
theorem longest_of_parseKey {pair : FieldSpec × PredicateKind} (h : r.parseKey key = some pair) :
    ∃ name registration, r.Spells key name pair.2 ∧ r.get? name = some registration ∧
      registration.field = pair.1 ∧
      ∀ other kind, r.Spells key other kind → kind.suffix.length ≤ pair.2.suffix.length := by
  obtain ⟨before, kind, after, split, found, missed⟩ := List.findSome?_eq_some_iff.1 h
  obtain ⟨name, registration, spelled, known, rfl⟩ := pairOf?_eq_some_iff.1 found
  refine ⟨name, registration, spelled, known, rfl, fun other l spells => ?_⟩
  obtain ⟨other_registration, other_known, -⟩ := isPair_iff.1 spells.pair
  have other_found := pairOf?_eq_some_iff.2 ⟨other, other_registration, spells, other_known, rfl⟩
  have ordered := PredicateKind.longestFirst_pairwise
  have member := PredicateKind.mem_longestFirst l
  rw [split] at ordered member
  obtain here | rfl | there := by simpa using member
  · rw [missed l here] at other_found
    cases other_found
  · exact Nat.le_refl _
  · exact List.rel_of_pairwise_cons (List.pairwise_append.1 ordered).2.1 there

/-- A key is read as the pair that spells it with the longest suffix. -/
theorem parseKey_eq_some_iff {pair : FieldSpec × PredicateKind} :
    r.parseKey key = some pair ↔
      ∃ name registration, r.Spells key name pair.2 ∧ r.get? name = some registration ∧
        registration.field = pair.1 ∧
        ∀ other kind, r.Spells key other kind → kind.suffix.length ≤ pair.2.suffix.length := by
  refine ⟨longest_of_parseKey, fun ⟨name, registration, spelled, known, field, longest⟩ => ?_⟩
  cases read : r.parseKey key with
  | none => exact absurd spelled (parseKey_eq_none_iff.1 read name pair.2)
  | some found =>
    obtain ⟨other, other_registration, spells, other_known, other_field, other_longest⟩ :=
      longest_of_parseKey read
    have length := Nat.le_antisymm (other_longest name pair.2 spelled)
      (longest other found.2 spells)
    obtain ⟨rfl, kind⟩ := predicateKey_inj (spelled.key.symm.trans spells.key) length
    rw [known] at other_known
    cases other_known
    rw [Prod.ext (other_field.symm.trans field) kind.symm]

end PredicateRegistry
end QueryPlan
