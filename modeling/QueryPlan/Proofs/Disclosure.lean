import QueryPlan.Proofs.Definition
import QueryPlan.Proofs.Inheritance
import QueryPlan.Proofs.Strictness

/-!
# Hidden fields in answers

Listings hide a field that looks like a credential. The keys of a request that does not use such a
field are read as if it were not registered (`Adds.parseKey_eq`), and so the request is answered as
before, with one exception: the help with an unknown filter key names the first registered field
that starts the key, hidden or not. The answers are equal just if the field is not disclosed in this
way (`same_answer_unless_disclosed`), which only strict mode can do (`Adds.answer_eq_of_lenient`).
-/

namespace QueryPlan
set_option autoImplicit false

/-! ### Answers -/

/-- What is told of an error. -/
structure Answer where
  code : ErrorCode
  message : String
  key : Option String
  suggestions : List String
  help : Option String
  deriving DecidableEq, Repr

/-- What is told of an error but for the help with it. -/
def Answer.withoutHelp (a : Answer) : Answer := { a with help := none }

/-- What an error tells, whatever the entity type is called. -/
def QueryError.answer (e : QueryError) : Answer := ⟨e.code, e.message, e.key, e.suggestions, e.help⟩

/-- What a request for records of an entity type is answered. -/
def EntityType.answer (e : EntityType) (s : Settings) (r : Request) : Except Answer Plan :=
  (e.compile s r).mapError QueryError.answer

theorem QueryError.answer_tagged (e : QueryError) (entity : String) :
    (e.tagged entity).answer = e.answer := by
  unfold tagged
  split <;> rfl

theorem EntityType.answer_eq (e : EntityType) (s : Settings) (r : Request) :
    e.answer s r = (e.catalog.compile s r).mapError QueryError.answer := by
  unfold answer compile
  cases e.catalog.compile s r with
  | ok p => rfl
  | error failure => exact congrArg Except.error (failure.answer_tagged e.name)

/-! ### Help with an unknown filter key -/

/-- What the help with a key says of a registration. -/
def Registration.hint (entry : Registration) : String :=
  ticked entry.field.name ++ " accepts: " ++
    String.intercalate ", " (entry.kinds.toList.map PredicateKind.suffix)

/-- The first registration whose field starts a key. -/
def PredicateRegistry.starter? (r : PredicateRegistry) (key : String) : Option Registration :=
  r.registrations.find? fun entry => (Text.stripStart? (entry.field.name ++ "_") key).isSome

theorem PredicateRegistry.hint?_eq (r : PredicateRegistry) (key : String) :
    r.hint? key = (r.starter? key).map Registration.hint := rfl

theorem not_mem_intercalate {mark : Char} {separator : String} {parts : List String}
    (apart : mark ∉ separator.toList) (each : ∀ part ∈ parts, mark ∉ part.toList) :
    mark ∉ (separator.intercalate parts).toList := by
  induction parts with
  | nil => simp
  | cons part parts ih =>
    obtain ⟨head, tail⟩ := List.forall_mem_cons.1 each
    cases parts with
    | nil => simpa using head
    | cons next parts =>
      rw [String.intercalate_cons_cons, String.toList_append, String.toList_append]
      simp only [List.mem_append, not_or]
      exact ⟨⟨head, apart⟩, ih tail⟩

theorem PredicateKind.no_tick (k : PredicateKind) : '\x60' ∉ k.suffix.toList := by
  cases k <;> decide

/-- The help names the field: no suffix has a backtick in it, so the last one ends the name. -/
theorem Registration.name_of_hint {entry other : Registration} (same : entry.hint = other.hint) :
    entry.field.name = other.field.name := by
  have untouched (kinds : KindSet) : '\x60' ∉ " accepts: ".toList ++
      (String.intercalate ", " (kinds.toList.map PredicateKind.suffix)).toList := by
    rw [List.mem_append, not_or]
    refine ⟨by decide, not_mem_intercalate (by decide) fun part member => ?_⟩
    obtain ⟨kind, -, rfl⟩ := List.mem_map.1 member
    exact kind.no_tick
  have chars := congrArg String.toList same
  simp only [hint, ticked, String.toList_append, List.append_assoc] at chars
  have names := (append_cons_inj_of_not_mem (untouched _) (untouched _)
    (List.append_cancel_left chars)).1
  exact String.toList_inj.1 names

/-! ### One more field -/

namespace EntityType

/-- Whether a type is another one with one more field to filter by, registered at any point. -/
structure Adds (e f : EntityType) (field : FieldSpec) : Prop where
  sorts : f.catalog.sorts = e.catalog.sorts
  predicates : ∃ before after, e.catalog.predicates.entries.entries = before ++ after ∧
    f.catalog.predicates.entries.entries = before ++ (field.name, field.registration) :: after

/-- Whether the answer to a request names a field: it is about an unknown filter key, and the field
is the first to start the key. -/
def Discloses (e : EntityType) (field : FieldSpec) (s : Settings) (r : Request) : Prop :=
  ∃ failure key, e.compile s r = .error failure ∧ failure.cause = .unknownPredicate key ∧
    e.catalog.predicates.starter? key = some field.registration

/-- A field that was not registered before is one more. -/
theorem adds_of_registerPredicate {e f : EntityType} {name : String} {type : StorageType}
    (fresh : e.catalog.predicates.isRegistered name = false)
    (made : e.registerPredicate name type = .ok f) :
    ∃ field, e.schema.field? name = some field ∧ e.Adds f field := by
  obtain ⟨field, found, rfl, ⟨known, -⟩ | ⟨-, rfl⟩⟩ := registerPredicate_eq_ok made
  · rw [fresh] at known
    cases known
  · refine ⟨field, found, rfl, e.catalog.predicates.entries.entries, [], ?_, ?_⟩
    · rw [List.append_nil]
    · exact OrderedMap.entries_insert_of_fresh field.registration fresh

/-- What starts a key is registered under its own name. -/
theorem Coherent.get?_starter? {e : EntityType} (coherent : e.Coherent) {key : String}
    {entry : Registration} (first : e.catalog.predicates.starter? key = some entry) :
    e.catalog.predicates.get? entry.field.name = some entry := by
  obtain ⟨⟨name, _⟩, member, rfl⟩ := List.mem_map.1 (List.mem_of_find?_eq_some first)
  have known := OrderedMap.mem_entries_iff.1 member
  rwa [coherent.name_of_get? known]

namespace Adds
variable {e f : EntityType} {field : FieldSpec} (adds : e.Adds f field)
include adds

theorem get?_of_ne {name : String} (other : name ≠ field.name) :
    f.catalog.predicates.get? name = e.catalog.predicates.get? name := by
  obtain ⟨before, after, here, there⟩ := adds.predicates
  apply Option.ext
  intro registration
  unfold PredicateRegistry.get?
  rw [← OrderedMap.mem_entries_iff, ← OrderedMap.mem_entries_iff, here, there]
  simp [other]

theorem get?_self : f.catalog.predicates.get? field.name = some field.registration := by
  obtain ⟨before, after, -, there⟩ := adds.predicates
  apply OrderedMap.mem_entries_iff.1
  rw [there]
  exact List.mem_append_right before List.mem_cons_self

/-- The field was not registered before. -/
theorem ne_of_get? {name : String} {registration : Registration}
    (known : e.catalog.predicates.get? name = some registration) : name ≠ field.name := by
  rintro rfl
  obtain ⟨before, after, here, there⟩ := adds.predicates
  have member := OrderedMap.mem_entries_iff.2 known
  have distinct := f.catalog.predicates.entries.nodup
  rw [there, List.map_append, List.map_cons, List.nodup_middle, ← List.map_append] at distinct
  rw [here] at member
  exact (List.nodup_cons.1 distinct).1 (List.mem_map.2 ⟨_, member, rfl⟩)

theorem kept {name : String} {registration : Registration}
    (known : e.catalog.predicates.get? name = some registration) :
    f.catalog.predicates.get? name = some registration :=
  (adds.get?_of_ne (adds.ne_of_get? known)).trans known

/-- A key that is not read as one of the field is read as before. -/
theorem parseKey_eq {key : String}
    (unused : ∀ kind, f.catalog.predicates.parseKey key ≠ some (field, kind)) :
    f.catalog.predicates.parseKey key = e.catalog.predicates.parseKey key := by
  have grown {name : String} {kind : PredicateKind}
      (spells : e.catalog.predicates.Spells key name kind) :
      f.catalog.predicates.Spells key name kind := by
    have registered := PredicateRegistry.isRegistered_of_spells spells
    exact (PredicateRegistry.spells_iff_of_registered (fun _ _ => adds.kept) registered).2 spells
  cases read : f.catalog.predicates.parseKey key with
  | none =>
    symm
    apply PredicateRegistry.parseKey_eq_none_iff.2
    intro name kind spells
    exact PredicateRegistry.parseKey_eq_none_iff.1 read name kind (grown spells)
  | some pair =>
    obtain ⟨name, registration, spelled, known, same, longest⟩ :=
      PredicateRegistry.longest_of_parseKey read
    have other : name ≠ field.name := by
      rintro rfl
      cases known.symm.trans adds.get?_self
      obtain rfl : field = pair.1 := same
      exact unused pair.2 read
    rw [adds.get?_of_ne other] at known
    have registered := PredicateRegistry.isRegistered_iff.2 ⟨registration, known⟩
    symm
    apply PredicateRegistry.parseKey_eq_some_iff.2
    refine ⟨name, registration, ?_, known, same, ?_⟩
    · exact (PredicateRegistry.spells_iff_of_registered (fun _ _ => adds.kept) registered).1 spelled
    · intro name kind spells
      exact longest name kind (grown spells)

/-! ### What else starts a key -/

/-- A key is started by what started it before, or by the field. -/
theorem starter?_eq_or (key : String) :
    f.catalog.predicates.starter? key = e.catalog.predicates.starter? key ∨
      f.catalog.predicates.starter? key = some field.registration := by
  obtain ⟨before, after, here, there⟩ := adds.predicates
  unfold PredicateRegistry.starter? PredicateRegistry.registrations OrderedMap.values
  rw [here, there, List.map_append, List.map_append, List.map_cons, List.find?_append,
    List.find?_append, List.find?_cons]
  cases List.find? _ (before.map Prod.snd) with
  | some entry => exact .inl rfl
  | none =>
    rw [Option.none_or, Option.none_or]
    split
    · exact .inr rfl
    · exact .inl rfl

/-- The help with a key is as before unless the field is the first to start the key. -/
theorem hint?_eq_iff (coherent : e.Coherent) (key : String) :
    f.catalog.predicates.hint? key = e.catalog.predicates.hint? key ↔
      f.catalog.predicates.starter? key ≠ some field.registration := by
  rw [PredicateRegistry.hint?_eq, PredicateRegistry.hint?_eq]
  constructor
  · intro same disclosed
    rw [disclosed, Option.map_some] at same
    obtain ⟨entry, first, hint⟩ := Option.map_eq_some_iff.1 same.symm
    have name : entry.field.name = field.name := Registration.name_of_hint hint
    exact adds.ne_of_get? (coherent.get?_starter? first) name
  · intro hidden
    rcases adds.starter?_eq_or key with same | disclosed
    · rw [same]
    · exact absurd disclosed hidden

/-! ### Listings -/

/-- A hidden field is in no listing. -/
theorem visibleRegistrations_eq (hidden : field.sensitive = true) :
    f.visibleRegistrations = e.visibleRegistrations := by
  obtain ⟨before, after, here, there⟩ := adds.predicates
  have unseen : field.registration.field.sensitive = true := hidden
  unfold visibleRegistrations PredicateRegistry.registrations OrderedMap.values
  rw [here, there, List.map_append, List.map_append, List.map_cons, List.filter_append,
    List.filter_append, List.filter_cons_of_neg (by simp [unseen])]

end Adds
end EntityType

/-! ### Catalogs that look up keys alike -/

/-- An error with the help of a registry if it is about an unknown filter key. -/
def QueryError.helpedBy (e : QueryError) (r : PredicateRegistry) : QueryError :=
  match e.cause with
  | .unknownPredicate key => { e with help := r.hint? key }
  | _ => e

namespace QueryError
variable {e : QueryError}

theorem kind_of_unknownPredicate {key : String} (h : e.cause = .unknownPredicate key) :
    e.kind = .invalidPredicate := by
  rw [kind, code, h]
  rfl

theorem helpedBy_of_unknown {key : String} (h : e.cause = .unknownPredicate key)
    (r : PredicateRegistry) : e.helpedBy r = { e with help := r.hint? key } := by
  unfold helpedBy
  rw [h]

theorem helpedBy_of_other (h : ∀ key, e.cause ≠ .unknownPredicate key) (r : PredicateRegistry) :
    e.helpedBy r = e := by
  unfold helpedBy
  split
  next key cause => exact absurd cause (h key)
  next => rfl

theorem cause_helpedBy (e : QueryError) (r : PredicateRegistry) :
    (e.helpedBy r).cause = e.cause := by
  unfold helpedBy
  split <;> rfl

theorem withoutHelp_helpedBy (e : QueryError) (r : PredicateRegistry) :
    (e.helpedBy r).answer.withoutHelp = e.answer.withoutHelp := by
  unfold helpedBy
  split <;> rfl

/-- Registries tell the same of an error just if they give the same help with it. -/
theorem answer_helpedBy_eq_iff {r t : PredicateRegistry} :
    (e.helpedBy r).answer = (e.helpedBy t).answer ↔
      ∀ key, e.cause = .unknownPredicate key → r.hint? key = t.hint? key := by
  constructor
  · intro same key cause
    rw [helpedBy_of_unknown cause, helpedBy_of_unknown cause] at same
    exact congrArg Answer.help same
  · intro same
    by_cases unknown : ∃ key, e.cause = .unknownPredicate key
    · obtain ⟨key, cause⟩ := unknown
      rw [helpedBy_of_unknown cause, helpedBy_of_unknown cause, same key cause]
    · have other := not_exists.1 unknown
      rw [helpedBy_of_other other, helpedBy_of_other other]

end QueryError

namespace Catalog
variable {c d : Catalog} {s : Settings} {r : Request}

/-- What is treated as in lenient mode gets no help with an unknown filter key. -/
theorem mapError_helpedBy_of_lenient {lenient : Settings} (isLenient : lenient.isStrict = false)
    (same : c.compile s r = c.compile lenient r) (t : PredicateRegistry) :
    (c.compile s r).mapError (QueryError.helpedBy · t) = c.compile s r := by
  cases outcome : c.compile s r with
  | ok p => rfl
  | error e =>
    have other (key : String) : e.cause ≠ .unknownPredicate key := by
      intro cause
      apply kind_of_lenient_error isLenient (same.symm.trans outcome)
      exact QueryError.kind_of_unknownPredicate cause
    exact congrArg Except.error (QueryError.helpedBy_of_other other t)

/-- Catalogs that look up the keys of a request alike treat it alike, each with its own help. -/
theorem compile_alike
    (filters : ∀ entry ∈ r.entries, d.predicates.parseKey entry.1 = c.predicates.parseKey entry.1)
    (sorts : d.sorts = c.sorts) (s : Settings) :
    d.compile s r = (c.compile s r).mapError (QueryError.helpedBy · d.predicates) := by
  let lenient : Settings := { pagination := s.pagination, limits := s.limits }
  have limits : s.SameLimits lenient := ⟨rfl, rfl⟩
  -- Wherever no key is refused, the request is treated as in lenient mode.
  have mild (alike : d.compile s r = c.compile s r) (same : c.compile s r = c.compile lenient r) :
      d.compile s r = (c.compile s r).mapError (QueryError.helpedBy · d.predicates) := by
    rw [mapError_helpedBy_of_lenient rfl same, alike]
  cases admitted : r.admit with
  | error e =>
    have refused (c : Catalog) (s : Settings) : c.compile s r = .error e :=
      compile_of_input_error admitted
    apply mild <;> rw [refused, refused]
  | ok a =>
    cases sized : a.checkSize s.limits with
    | error e =>
      have refused (c : Catalog) : c.compile s r = .error e := compile_of_size_error admitted sized
      have there : c.compile lenient r = .error e := compile_of_size_error admitted sized
      apply mild
      · rw [refused, refused]
      · rw [refused, there]
    | ok _ =>
      have same : d.recognize a = c.recognize a := by
        apply recognize_congr
        · rwa [(admit_eq_ok admitted).entries]
        · intro key member
          rw [sorts]
      have there : c.compile lenient r = (c.recognize a).plan lenient r :=
        compile_of_known admitted sized (.inl rfl)
      by_cases known : s.isStrict = false ∨ (c.recognize a).unknown = []
      · have here := compile_of_known admitted sized known
        have other := compile_of_known admitted sized (same ▸ known)
        apply mild
        · rw [here, other, same]
        · rw [here, there, Recognized.plan_congr limits]
      · obtain ⟨strict, found⟩ := not_or.1 known
        rw [Bool.not_eq_false] at strict
        obtain ⟨k, rest, unknown⟩ := List.exists_cons_of_ne_nil found
        rw [compile_of_unknown admitted sized strict unknown,
          compile_of_unknown admitted sized strict (same ▸ unknown)]
        cases k <;> rfl

end Catalog

namespace EntityType.Adds
variable {e f : EntityType} {field : FieldSpec} (adds : e.Adds f field) {s : Settings} {r : Request}
  (unused : ∀ entry ∈ r.entries, ∀ kind,
    f.catalog.predicates.parseKey entry.1 ≠ some (field, kind))
include adds unused

/-- A request that does not use the field is treated as before, up to help. -/
theorem compile_eq : f.catalog.compile s r =
    (e.catalog.compile s r).mapError (QueryError.helpedBy · f.catalog.predicates) := by
  apply Catalog.compile_alike
  · intro entry member
    exact adds.parseKey_eq (unused entry member)
  · exact adds.sorts

/-- The field is disclosed where the smaller type refuses a key that the field is first to start. -/
theorem discloses_iff : f.Discloses field s r ↔
    ∃ failure key, e.catalog.compile s r = .error failure ∧
      failure.cause = .unknownPredicate key ∧
      f.catalog.predicates.starter? key = some field.registration := by
  have compiled := adds.compile_eq (s := s) unused
  constructor
  · rintro ⟨tagged, key, told, cause, first⟩
    obtain ⟨helped, refused, rfl⟩ := mapError_eq_error_iff.1 told
    obtain ⟨failure, failed, rfl⟩ := mapError_eq_error_iff.1 (compiled.symm.trans refused)
    rw [QueryError.cause_tagged, QueryError.cause_helpedBy] at cause
    exact ⟨failure, key, failed, cause, first⟩
  · rintro ⟨failure, key, failed, cause, first⟩
    refine ⟨(failure.helpedBy f.catalog.predicates).tagged f.name, key, ?_, ?_, first⟩
    · rw [EntityType.compile, compiled, failed]
      rfl
    · rw [QueryError.cause_tagged, QueryError.cause_helpedBy, cause]

theorem withoutHelp_answer_eq : (f.answer s r).mapError Answer.withoutHelp =
    (e.answer s r).mapError Answer.withoutHelp := by
  rw [f.answer_eq, e.answer_eq, adds.compile_eq unused]
  cases e.catalog.compile s r with
  | ok p => rfl
  | error failure =>
    exact congrArg Except.error (failure.withoutHelp_helpedBy f.catalog.predicates)

theorem answer_eq_iff (coherent : e.Coherent) :
    f.answer s r = e.answer s r ↔ ¬ f.Discloses field s r := by
  rw [adds.discloses_iff unused, f.answer_eq, e.answer_eq, adds.compile_eq unused]
  have own : e.catalog.compile s r =
      (e.catalog.compile s r).mapError (QueryError.helpedBy · e.catalog.predicates) :=
    Catalog.compile_alike (fun _ _ => rfl) rfl s
  cases outcome : e.catalog.compile s r with
  | ok p =>
    constructor
    · rintro - ⟨failure, key, failed, -⟩
      cases failed
    · intro
      rfl
  | error failure =>
    rw [outcome] at own
    have helped : failure = failure.helpedBy e.catalog.predicates := Except.error.inj own
    calc
      Except.error (failure.helpedBy f.catalog.predicates).answer = Except.error failure.answer
        ↔ (failure.helpedBy f.catalog.predicates).answer =
            (failure.helpedBy e.catalog.predicates).answer := by
          rw [← helped, Except.error.injEq]
      _ ↔ ∀ key, failure.cause = .unknownPredicate key →
            f.catalog.predicates.starter? key ≠ some field.registration := by
          simp only [QueryError.answer_helpedBy_eq_iff, adds.hint?_eq_iff coherent]
      _ ↔ _ := by
          constructor
          · rintro hidden ⟨_, key, failed, cause, first⟩
            cases failed
            exact hidden key cause first
          · intro hidden key cause first
            exact hidden ⟨failure, key, rfl, cause, first⟩

/-- In lenient mode no help is given, so nothing is disclosed. -/
theorem answer_eq_of_lenient (coherent : e.Coherent) (lenient : s.isStrict = false) :
    f.answer s r = e.answer s r := by
  apply (adds.answer_eq_iff unused coherent).2
  rw [adds.discloses_iff unused]
  rintro ⟨failure, key, failed, cause, -⟩
  apply Catalog.kind_of_lenient_error lenient failed
  exact QueryError.kind_of_unknownPredicate cause

end EntityType.Adds

/-- **Hidden fields stay hidden but for help.** A type with one more field that looks like a
credential lists nothing else and gives the same answer, help apart, to every request that does not
use the field. The whole answer is the same just if the request is not refused because of an unknown
filter key that the field is the first to start. -/
theorem same_answer_unless_disclosed {e f : EntityType} {field : FieldSpec}
    (reachable : e.Reachable) (adds : e.Adds f field) (hidden : field.sensitive = true)
    (s : Settings) {r : Request}
    (unused : ∀ entry ∈ r.entries, ∀ kind,
      f.catalog.predicates.parseKey entry.1 ≠ some (field, kind)) :
    f.predicateKeys = e.predicateKeys ∧ f.searchableFields = e.searchableFields ∧
      (f.answer s r).mapError Answer.withoutHelp = (e.answer s r).mapError Answer.withoutHelp ∧
      (f.answer s r = e.answer s r ↔ ¬ f.Discloses field s r) := by
  have visible := adds.visibleRegistrations_eq hidden
  refine ⟨?_, ?_, adds.withoutHelp_answer_eq unused, ?_⟩
  · rw [EntityType.predicateKeys, EntityType.predicateKeys, visible]
  · rw [EntityType.searchableFields, EntityType.searchableFields, visible]
  · exact adds.answer_eq_iff unused reachable.coherent

namespace Sample

/-- Accounts, which can be asked for by title. -/
def account : EntityType where
  name := "Account"
  parent := none
  schema :=
    { table := "accounts"
      columns := .ofList [("title", ⟨.string, false⟩), ("password", ⟨.string, false⟩)] }
  catalog := ⟨⟨.ofList [("title", FieldSpec.registration ⟨"title", .string, false⟩)]⟩, .empty⟩

/-- The column that holds the password. -/
def password : FieldSpec := ⟨"password", .string, false⟩

/-- Accounts, which can be asked for by title and by password. -/
def lockedAccount : EntityType :=
  { account with
    catalog := ⟨⟨.ofList [("title", FieldSpec.registration ⟨"title", .string, false⟩),
      ("password", password.registration)]⟩, .empty⟩ }

/-- A request with one filter. -/
def probe (key : String) : Request where
  filters := [.inherent (.map [(key, .text "x")])]

/-- What is told of an unknown filter key, with some help. -/
def told (key : String) (help : Option String) : Answer where
  code := .unknownPredicate
  message := "Invalid predicate `" ++ key ++ "`: no registered field/predicate pair matches"
  key := some key
  suggestions := ["Use one of the predicate keys registered for this entity type"]
  help := help

/-- The help that names a field of text without null. -/
def textHelp (name : String) : String :=
  "`" ++ name ++ "` accepts: eq, not_eq, i_eq, in, not_in, contains, starts_with, ends_with, " ++
    "i_contains, i_starts_with, i_ends_with, present, blank"

theorem account_reachable : account.Reachable := by
  have made : (EntityType.ofSchema "Account" { table := "accounts", columns := .empty }).declareAll
      [.column "title" .string false, .column "password" .string false,
        .predicate "title" .string] = .ok account := rfl
  exact (EntityType.Reachable.ofSchema "Account" _).declareAll made

theorem account_adds : account.Adds lockedAccount password := by
  have made : account.registerPredicate "password" .string = .ok lockedAccount := rfl
  obtain ⟨field, found, adds⟩ := EntityType.adds_of_registerPredicate rfl made
  cases found
  exact adds

/-- A key that spells no pair uses no field. -/
theorem probe_unused (r : PredicateRegistry) (key : String) (unknown : r.parseKey key = none)
    (field : FieldSpec) :
    ∀ entry ∈ (probe key).entries, ∀ kind, r.parseKey entry.1 ≠ some (field, kind) := by
  have entries : (probe key).entries = [(key, .text "x")] := by
    simp [probe, Input.inherent, Json.fields, Request.entries, Request.filterFields,
      Request.groupFields, lastValues, List.eraseDups_cons]
  intro entry member kind
  rw [entries, List.mem_singleton] at member
  rw [member, unknown]
  exact (Option.some_ne_none _).symm

end Sample

open Sample in
/-- The help with a key of the title says nothing of the password. -/
theorem title_kept :
    (∀ entry ∈ (probe "title_gt").entries, ∀ kind,
      lockedAccount.catalog.predicates.parseKey entry.1 ≠ some (password, kind)) ∧
    account.answer strictly (probe "title_gt") =
      .error (told "title_gt" (some (textHelp "title"))) ∧
    lockedAccount.answer strictly (probe "title_gt") =
      .error (told "title_gt" (some (textHelp "title"))) ∧
    ¬ lockedAccount.Discloses password strictly (probe "title_gt") := by
  have unused := probe_unused lockedAccount.catalog.predicates "title_gt" rfl password
  have hidden : password.sensitive = true := by decide +kernel
  have here : account.answer strictly (probe "title_gt") =
      .error (told "title_gt" (some (textHelp "title"))) := rfl
  have there : lockedAccount.answer strictly (probe "title_gt") =
      .error (told "title_gt" (some (textHelp "title"))) := rfl
  obtain ⟨-, -, -, same⟩ :=
    same_answer_unless_disclosed account_reachable account_adds hidden strictly unused
  exact ⟨unused, here, there, same.1 (there.trans here.symm)⟩

open Sample in
/-- The help with `password_gt`, which spells no pair, says that there is a password to ask for. -/
theorem password_disclosed :
    account.Reachable ∧ account.Adds lockedAccount password ∧ password.sensitive = true ∧
    (∀ entry ∈ (probe "password_gt").entries, ∀ kind,
      lockedAccount.catalog.predicates.parseKey entry.1 ≠ some (password, kind)) ∧
    account.answer strictly (probe "password_gt") = .error (told "password_gt" none) ∧
    lockedAccount.answer strictly (probe "password_gt") =
      .error (told "password_gt" (some (textHelp "password"))) ∧
    lockedAccount.answer strictly (probe "password_gt") ≠
      account.answer strictly (probe "password_gt") := by
  have unused := probe_unused lockedAccount.catalog.predicates "password_gt" rfl password
  have here : account.answer strictly (probe "password_gt") =
      .error (told "password_gt" none) := rfl
  have there : lockedAccount.answer strictly (probe "password_gt") =
      .error (told "password_gt" (some (textHelp "password"))) := rfl
  refine ⟨account_reachable, account_adds, by decide +kernel, unused, here, there, ?_⟩
  rw [here, there]
  intro same
  cases congrArg Answer.help (Except.error.inj same)

end QueryPlan
