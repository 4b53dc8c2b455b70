import QueryPlan.Proofs.Definition

/-!
# What filter keys spell

A registry lists its fields, and every pair of a field and a kind that it allows has a key. Whatever
was registered in whatever order, a key is read as the pair that spells it with the longest suffix
(`parseKey_longest`). Two pairs share a key only if the name of one field is that of the other
followed by `_not` or `_i` (`predicateKey_overlap`), so where no registered names are of that form,
keys and pairs correspond one to one (`keys_one_to_one`).
-/

namespace QueryPlan
set_option autoImplicit false

/-! ### Suffixes inside suffixes -/

namespace PredicateKind

/-- A suffix that ends with another one has `not` or `i` in front of it. -/
theorem front_of_suffix (k l : PredicateKind) {front : String}
    (overlap : "_" ++ k.suffix = front ++ ("_" ++ l.suffix)) :
    front = "" ∨ front = "_not" ∨ front = "_i" := by
  have fronts : ∀ k ∈ all, ∀ l ∈ all, Text.stripEnd? ("_" ++ l.suffix) ("_" ++ k.suffix) ∈
      [none, some "", some "_not", some "_i"] := by
    decide +kernel
  have here := fronts k (mem_all k) l (mem_all l)
  rw [Text.stripEnd?_eq_some_iff.2 overlap] at here
  simpa using here

end PredicateKind

/-- Keys of different pairs are the same only if one field is named like the other with `_not` or
`_i` behind it. -/
theorem predicateKey_overlap {name other : String} {k l : PredicateKind}
    (same : predicateKey name k = predicateKey other l) :
    name = other ∧ k = l ∨ (other = name ++ "_not" ∨ other = name ++ "_i") ∨
      (name = other ++ "_not" ∨ name = other ++ "_i") := by
  -- The longer name is the shorter one and the front of the suffix behind that.
  have longer {short long : String} {k l : PredicateKind} {front : List Char}
      (same : predicateKey short k = predicateKey long l)
      (name : long.toList = short.toList ++ front)
      (suffix : ("_" ++ k.suffix).toList = front ++ ("_" ++ l.suffix).toList) :
      short = long ∧ k = l ∨ long = short ++ "_not" ∨ long = short ++ "_i" := by
    have named : long = short ++ String.ofList front := String.toList_inj.1 (by simpa using name)
    have overlap : "_" ++ k.suffix = String.ofList front ++ ("_" ++ l.suffix) :=
      String.toList_inj.1 (by simpa using suffix)
    rcases PredicateKind.front_of_suffix k l overlap with none | not | i
    · left
      rw [none, String.append_empty] at named
      rw [none, String.empty_append] at overlap
      have length : k.suffix.length = l.suffix.length := by
        have lengths := congrArg String.length overlap
        simpa using lengths
      exact predicateKey_inj same length
    · exact .inr (.inl (not ▸ named))
    · exact .inr (.inr (i ▸ named))
  have chars : name.toList ++ ("_" ++ k.suffix).toList =
      other.toList ++ ("_" ++ l.suffix).toList := by
    have spelled := congrArg String.toList same
    simpa [predicateKey] using spelled
  rcases List.append_eq_append_iff.1 chars with ⟨front, named, suffix⟩ | ⟨front, named, suffix⟩
  · rcases longer same named suffix with pair | overlap
    · exact .inl pair
    · exact .inr (.inl overlap)
  · rcases longer same.symm named suffix with ⟨name, kind⟩ | overlap
    · exact .inl ⟨name.symm, kind.symm⟩
    · exact .inr (.inr overlap)

/-- A column has a name. -/
theorem TableSchema.ne_empty_of_field? {s : TableSchema} {name : String} {field : FieldSpec}
    (known : s.field? name = some field) : name ≠ "" := by
  rintro rfl
  obtain ⟨column, declared, -⟩ := Option.map_eq_some_iff.1 known
  have member := List.mem_map_of_mem (f := Prod.fst) (OrderedMap.mem_entries_iff.2 declared)
  cases s.columns_plain "" member

namespace PredicateRegistry
variable {r : PredicateRegistry} {key name : String} {field : FieldSpec} {kind : PredicateKind}

/-! ### Registries that are built -/

/-- The registries that registration gives: field after field, each a column of some schema. -/
inductive Built : PredicateRegistry → Prop where
  | empty : Built empty
  | register {r r' : PredicateRegistry} {schema : TableSchema} {name : String}
    {type : StorageType} : Built r → r.register schema name type = .ok r' → Built r'

/-- A field is listed under its own name. -/
theorem Built.name_of_get? (h : r.Built) {registration : Registration}
    (known : r.get? name = some registration) : registration.field.name = name := by
  induction h with
  | empty => cases known
  | @register before after schema added type _ made ih =>
    obtain ⟨field, resolved, made⟩ := bind_eq_ok_iff.1 made
    obtain ⟨-, rfl⟩ := TableSchema.resolve_eq_ok resolved
    split at made <;> cases made
    · exact ih known
    · simp only [get?, OrderedMap.get?_insert] at known
      split at known
      next here =>
        cases known
        exact here.symm
      next => exact ih known

/-- A field that is registered has a name. -/
theorem Built.named_of_get? (h : r.Built) {registration : Registration}
    (known : r.get? name = some registration) : name ≠ "" := by
  induction h with
  | empty => cases known
  | @register before after schema added type _ made ih =>
    obtain ⟨field, resolved, made⟩ := bind_eq_ok_iff.1 made
    obtain ⟨declared, rfl⟩ := TableSchema.resolve_eq_ok resolved
    split at made <;> cases made
    · exact ih known
    · simp only [get?, OrderedMap.get?_insert] at known
      split at known
      next here => exact here ▸ TableSchema.ne_empty_of_field? declared
      next => exact ih known

/-- Whether a field is registered and allows a kind. -/
def Registers (r : PredicateRegistry) (field : FieldSpec) (kind : PredicateKind) : Prop :=
  ∃ registration ∈ r.registrations,
    registration.field = field ∧ registration.kinds.contains kind = true

theorem Built.mem_registrations_iff (h : r.Built) {registration : Registration} :
    registration ∈ r.registrations ↔ r.get? registration.field.name = some registration := by
  constructor
  · intro listed
    obtain ⟨⟨name, _⟩, member, rfl⟩ := List.mem_map.1 listed
    have known := OrderedMap.mem_entries_iff.1 member
    rw [h.name_of_get? known]
    exact known
  · intro known
    exact List.mem_map.2 ⟨_, OrderedMap.mem_entries_iff.2 known, rfl⟩

theorem Built.registers_iff (h : r.Built) : r.Registers field kind ↔
    ∃ registration, r.get? field.name = some registration ∧ registration.field = field ∧
      registration.kinds.contains kind = true := by
  constructor
  · rintro ⟨registration, listed, rfl, allowed⟩
    exact ⟨registration, h.mem_registrations_iff.1 listed, rfl, allowed⟩
  · rintro ⟨registration, known, rfl, allowed⟩
    exact ⟨registration, h.mem_registrations_iff.2 known, rfl, allowed⟩

/-- A key is spelled by the registered pairs whose key it is. -/
theorem Built.spells_iff (h : r.Built) : r.Spells key name kind ↔
    ∃ field, field.name = name ∧ r.Registers field kind ∧ key = predicateKey name kind := by
  constructor
  · rintro ⟨spelled, -, pair⟩
    obtain ⟨registration, known, allowed⟩ := isPair_iff.1 pair
    have named := h.name_of_get? known
    refine ⟨registration.field, named, ?_, spelled⟩
    exact h.registers_iff.2 ⟨registration, named ▸ known, rfl, allowed⟩
  · rintro ⟨field, rfl, registered, spelled⟩
    obtain ⟨registration, known, -, allowed⟩ := h.registers_iff.1 registered
    exact ⟨spelled, h.named_of_get? known, isPair_iff.2 ⟨registration, known, allowed⟩⟩

/-- The pair that a key is read as, told by the registered pairs. -/
theorem Built.parseKey_eq_some_iff (h : r.Built) : r.parseKey key = some (field, kind) ↔
    key = predicateKey field.name kind ∧ r.Registers field kind ∧
      ∀ other longer, r.Registers other longer → key = predicateKey other.name longer →
        longer.suffix.length ≤ kind.suffix.length := by
  rw [PredicateRegistry.parseKey_eq_some_iff]
  constructor
  · rintro ⟨name, registration, spelled, known, rfl, longest⟩
    obtain rfl := h.name_of_get? known
    obtain ⟨_, same, allowed⟩ := isPair_iff.1 spelled.pair
    cases known.symm.trans same
    refine ⟨spelled.key, h.registers_iff.2 ⟨registration, known, rfl, allowed⟩, ?_⟩
    intro other longer registered spells
    exact longest other.name longer (h.spells_iff.2 ⟨other, rfl, registered, spells⟩)
  · rintro ⟨spelled, registered, longest⟩
    obtain ⟨registration, known, same, -⟩ := h.registers_iff.1 registered
    refine ⟨field.name, registration, h.spells_iff.2 ⟨field, rfl, registered, spelled⟩, known,
      same, ?_⟩
    intro name longer spells
    obtain ⟨other, rfl, registers, key⟩ := h.spells_iff.1 spells
    exact longest other longer registers key

theorem Built.parseKey_eq_none_iff (h : r.Built) : r.parseKey key = none ↔
    ∀ field kind, r.Registers field kind → key ≠ predicateKey field.name kind := by
  rw [PredicateRegistry.parseKey_eq_none_iff]
  constructor
  · intro none field kind registered spelled
    exact none field.name kind (h.spells_iff.2 ⟨field, rfl, registered, spelled⟩)
  · intro none name kind spells
    obtain ⟨field, rfl, registered, spelled⟩ := h.spells_iff.1 spells
    exact none field kind registered spelled

end PredicateRegistry

/-- **A key is read as the registered pair that spells it with the longest suffix**, and it is read
as nothing just if no registered pair spells it. -/
theorem parseKey_longest {r : PredicateRegistry} (built : r.Built) (key : String) :
    (∀ field kind, r.parseKey key = some (field, kind) ↔
      key = field.name ++ "_" ++ kind.suffix ∧ r.Registers field kind ∧
        ¬ ∃ other longer, r.Registers other longer ∧ key = other.name ++ "_" ++ longer.suffix ∧
          kind.suffix.length < longer.suffix.length) ∧
    (r.parseKey key = none ↔
      ¬ ∃ field kind, r.Registers field kind ∧ key = field.name ++ "_" ++ kind.suffix) := by
  constructor
  · intro field kind
    rw [built.parseKey_eq_some_iff]
    refine and_congr_right fun _ => and_congr_right fun _ => ?_
    constructor
    · rintro longest ⟨other, longer, registered, spelled, exceeds⟩
      have bound := longest other longer registered spelled
      omega
    · intro none other longer registered spelled
      by_contra exceeds
      exact none ⟨other, longer, registered, spelled, by omega⟩
  · rw [built.parseKey_eq_none_iff]
    constructor
    · rintro none ⟨field, kind, registered, spelled⟩
      exact none field kind registered spelled
    · intro none field kind registered spelled
      exact none ⟨field, kind, registered, spelled⟩

namespace Sample

/-- A table with a number and two texts that are named like it with something behind it. -/
def noteTable : TableSchema where
  table := "notes"
  columns := .ofList [("is", ⟨.numeric, false⟩), ("is_not", ⟨.string, true⟩),
    ("is_note", ⟨.string, true⟩)]

/-- The number and the text whose name has `_not` behind it. -/
def marks : PredicateRegistry :=
  ⟨.ofList [("is_not", FieldSpec.registration ⟨"is_not", .string, true⟩),
    ("is", FieldSpec.registration ⟨"is", .numeric, false⟩)]⟩

theorem marks_built : marks.Built := by
  have first : PredicateRegistry.empty.register noteTable "is_not" .string =
      .ok ⟨.ofList [("is_not", FieldSpec.registration ⟨"is_not", .string, true⟩)]⟩ := rfl
  have second : (PredicateRegistry.mk
      (.ofList [("is_not", FieldSpec.registration ⟨"is_not", .string, true⟩)])).register
        noteTable "is" .numeric = .ok marks := rfl
  exact .register (.register .empty first) second

end Sample

open Sample in
/-- Both fields spell `is_not_eq`, which is read as that of the shorter name, and only the longer
name spells `is_not_null`, since the number is never null. -/
theorem marks_parsed : marks.Built ∧
    marks.parseKey "is_not_eq" = some (⟨"is", .numeric, false⟩, .notEq) ∧
      (¬ ∃ other longer, marks.Registers other longer ∧
        "is_not_eq" = other.name ++ "_" ++ longer.suffix ∧ 6 < longer.suffix.length) ∧
      marks.parseKey "is_null" = none ∧
      ¬ ∃ field kind, marks.Registers field kind ∧
        "is_null" = field.name ++ "_" ++ kind.suffix := by
  have read : marks.parseKey "is_not_eq" = some (⟨"is", .numeric, false⟩, .notEq) := by
    decide +kernel
  have unread : marks.parseKey "is_null" = none := by decide +kernel
  have longest := ((parseKey_longest marks_built "is_not_eq").1 _ _).1 read
  have unspelled := (parseKey_longest marks_built "is_null").2.1 unread
  exact ⟨marks_built, read, longest.2.2, unread, unspelled⟩

/-! ### Keys and pairs -/

theorem KindSet.nodup_toList (s : KindSet) : s.toList.Nodup := by
  have distinct : PredicateKind.all.Nodup := by decide
  exact distinct.filter _

/-- The keys of one field are distinct. -/
theorem predicateKey_injective (name : String) : Function.Injective (predicateKey name) := by
  intro k l same
  have chars := congrArg String.toList same
  simp only [predicateKey, String.toList_append, List.append_cancel_left_eq] at chars
  exact PredicateKind.suffix_injective (String.toList_inj.1 chars)

/-- Whether no registered field is named like another one with `_not` or `_i` behind it. -/
def PredicateRegistry.Apart (r : PredicateRegistry) : Prop :=
  ∀ a ∈ r.registrations, ∀ b ∈ r.registrations,
    a.field.name ≠ b.field.name ++ "_not" ∧ a.field.name ≠ b.field.name ++ "_i"

namespace PredicateRegistry
variable {r : PredicateRegistry} {key : String} {field other : FieldSpec} {kind l : PredicateKind}

/-- In such a registry a key determines the registered pair. -/
theorem Built.pair_of_key (h : r.Built) (apart : r.Apart) (here : r.Registers field kind)
    (there : r.Registers other l)
    (same : predicateKey field.name kind = predicateKey other.name l) :
    field = other ∧ kind = l := by
  obtain ⟨first, listed, rfl, -⟩ := here
  obtain ⟨second, listed', rfl, -⟩ := there
  rcases predicateKey_overlap same with ⟨names, kinds⟩ | (not | i) | (not | i)
  · have known := h.mem_registrations_iff.1 listed
    rw [names, h.mem_registrations_iff.1 listed'] at known
    cases known
    exact ⟨rfl, kinds⟩
  · exact absurd not (apart second listed' first listed).1
  · exact absurd i (apart second listed' first listed).2
  · exact absurd not (apart first listed second listed').1
  · exact absurd i (apart first listed second listed').2

theorem mem_keys_iff : key ∈ r.keys ↔
    ∃ field kind, r.Registers field kind ∧ key = predicateKey field.name kind := by
  simp only [keys, List.mem_flatMap, Registration.keys, List.mem_map, KindSet.mem_toList, Registers]
  constructor
  · rintro ⟨registration, listed, kind, allowed, rfl⟩
    exact ⟨registration.field, kind, ⟨registration, listed, rfl, allowed⟩, rfl⟩
  · rintro ⟨_, kind, ⟨registration, listed, rfl, allowed⟩, rfl⟩
    exact ⟨registration, listed, kind, allowed, rfl⟩

/-- No two registrations are of fields with the same name. -/
theorem Built.nodup_names (h : r.Built) :
    (r.registrations.map fun registration => registration.field.name).Nodup := by
  have names : (r.registrations.map fun registration => registration.field.name) =
      r.entries.keys := by
    rw [registrations, OrderedMap.values, OrderedMap.keys, List.map_map]
    apply List.map_congr_left
    rintro ⟨name, registration⟩ member
    exact h.name_of_get? (OrderedMap.mem_entries_iff.1 member)
  rw [names]
  exact r.entries.nodup

theorem Built.nodup_keys (h : r.Built) (apart : r.Apart) : r.keys.Nodup := by
  apply List.nodup_flatMap.2
  constructor
  · intro registration _
    exact registration.kinds.nodup_toList.map (predicateKey_injective registration.field.name)
  · apply List.Pairwise.imp_of_mem _ (List.pairwise_map.1 h.nodup_names)
    intro first second listed listed' names
    apply List.disjoint_left.2
    intro key here there
    obtain ⟨kind, allowed, rfl⟩ := List.mem_map.1 here
    obtain ⟨l, allowed', same⟩ := List.mem_map.1 there
    rw [KindSet.mem_toList] at allowed allowed'
    have pairs := h.pair_of_key apart ⟨first, listed, rfl, allowed⟩ ⟨second, listed', rfl, allowed'⟩
      same.symm
    exact names (congrArg FieldSpec.name pairs.1)

/-- In such a registry the key of a registered pair is read as that pair. -/
theorem Built.parseKey_predicateKey (h : r.Built) (apart : r.Apart)
    (registered : r.Registers field kind) :
    r.parseKey (predicateKey field.name kind) = some (field, kind) := by
  apply h.parseKey_eq_some_iff.2
  refine ⟨rfl, registered, ?_⟩
  intro other longer registers same
  obtain ⟨-, rfl⟩ := h.pair_of_key apart registered registers same
  exact Nat.le_refl _

/-- What is read are the keys that are listed. -/
theorem Built.isSome_parseKey_iff (h : r.Built) :
    (r.parseKey key).isSome = true ↔ key ∈ r.keys := by
  rw [mem_keys_iff, Option.isSome_iff_exists]
  constructor
  · rintro ⟨⟨field, kind⟩, read⟩
    obtain ⟨spelled, registered, -⟩ := h.parseKey_eq_some_iff.1 read
    exact ⟨field, kind, registered, spelled⟩
  · rintro ⟨field, kind, registered, spelled⟩
    apply Option.ne_none_iff_exists'.1
    intro unread
    exact h.parseKey_eq_none_iff.1 unread field kind registered spelled

end PredicateRegistry

/-- **Keys and pairs correspond one to one** where no registered field is named like another one
with `_not` or `_i` behind it: the listed keys are distinct, each is read as the pair that it was
made of, and no other key is read. -/
theorem keys_one_to_one {r : PredicateRegistry} (built : r.Built) (apart : r.Apart) :
    r.keys.Nodup ∧
      (∀ field kind, r.Registers field kind →
        r.parseKey (field.name ++ "_" ++ kind.suffix) = some (field, kind)) ∧
      ∀ key, (r.parseKey key).isSome = true ↔ key ∈ r.keys := by
  refine ⟨built.nodup_keys apart, ?_, ?_⟩
  · intro field kind registered
    exact built.parseKey_predicateKey apart registered
  · intro key
    exact built.isSome_parseKey_iff

namespace Sample

/-- A number and a note on it, which is not named like the number with `_not` behind it. -/
def notes : PredicateRegistry :=
  ⟨.ofList [("is", FieldSpec.registration ⟨"is", .numeric, false⟩),
    ("is_note", FieldSpec.registration ⟨"is_note", .string, true⟩)]⟩

theorem notes_built : notes.Built := by
  have first : PredicateRegistry.empty.register noteTable "is" .numeric =
      .ok ⟨.ofList [("is", FieldSpec.registration ⟨"is", .numeric, false⟩)]⟩ := rfl
  have second : (PredicateRegistry.mk
      (.ofList [("is", FieldSpec.registration ⟨"is", .numeric, false⟩)])).register
        noteTable "is_note" .string = .ok notes := rfl
  exact .register (.register .empty first) second

end Sample

open Sample in
/-- Fields may share a beginning: the keys of both are distinct, and each is read as its own. -/
theorem notes_one_to_one : notes.Built ∧ notes.Apart ∧ notes.keys.Nodup ∧
    notes.Registers ⟨"is_note", .string, true⟩ .notNull ∧
    notes.parseKey "is_note_not_null" = some (⟨"is_note", .string, true⟩, .notNull) ∧
      "is_not_null" ∉ notes.keys ∧ (notes.parseKey "is_not_null").isSome = false := by
  have apart : notes.Apart := by
    unfold PredicateRegistry.Apart
    decide +kernel
  obtain ⟨distinct, each, only⟩ := keys_one_to_one notes_built apart
  have registered : notes.Registers ⟨"is_note", .string, true⟩ .notNull :=
    ⟨_, List.mem_cons_of_mem _ List.mem_cons_self, rfl, rfl⟩
  have spelled : "is_note" ++ "_" ++ PredicateKind.notNull.suffix = "is_note_not_null" := by
    decide +kernel
  have read := each _ _ registered
  simp only [spelled] at read
  have unread : (notes.parseKey "is_not_null").isSome = false := by decide +kernel
  refine ⟨notes_built, apart, distinct, registered, read, ?_, unread⟩
  intro listed
  rw [(only _).2 listed] at unread
  cases unread

end QueryPlan
