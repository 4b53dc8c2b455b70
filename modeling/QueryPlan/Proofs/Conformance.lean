import QueryPlan.Proofs.Calendar
import QueryPlan.Proofs.Filtering
import QueryPlan.Proofs.Recognition
import QueryPlan.Proofs.Registration

/-!
# Compiled plans are well-typed

What the tables of predicate kinds and the coercion of operands agree on: each condition of a
compiled plan is about a registered field, with a kind that is legal on its column and values of its
type (`KnownKey.Compiles.conforms`). A plan of such conditions is rendered without the false
condition that stands for a malformed one (`Plan.not_mem_select`).
-/

namespace QueryPlan
set_option autoImplicit false
open Sql Number

/-! ### Typed values -/

/-- The values that columns of a storage type are compared with. -/
inductive Value.HasType : Value → StorageType → Prop
  | string (s : String) : HasType (.text s) .string
  | text (s : String) : HasType (.text s) .text
  | int {n : Int} : fitsSigned n = true → HasType (.int n) .numeric
  | float {x : Binary64} : x.isFinite = true → HasType (.float x) .numeric
  | bool (b : Bool) : HasType (.bool b) .boolean
  /-- The canonical text of a date on the calendar. -/
  | date {d : Calendar.Date} : d.isValid = true → HasType (.text (String.ofList d.chars)) .date
  /-- The canonical text of a point in time. -/
  | datetime {t : Calendar.Timestamp} : t.isValid = true →
      HasType (.text (String.ofList t.chars)) .datetime

theorem Value.HasType.of_isTextual {type : StorageType} (h : type.isTextual = true) (s : String) :
    HasType (.text s) type := by
  cases type with
  | string => exact .string s
  | text => exact .text s
  | _ => cases h

namespace Coercion
variable {v : Json} {x : Value}

theorem hasType_of_finiteValue? {y : Binary64} (h : finiteValue? y = some x) :
    x.HasType .numeric := by
  unfold finiteValue? at h
  split at h
  next finite =>
    cases h
    exact .float finite
  next => cases h

theorem hasType_of_number? (h : number? v = some x) : x.HasType .numeric := by
  unfold number? at h
  split at h
  next n =>
    split at h
    next fits =>
      cases h
      exact .int fits
    next => exact hasType_of_finiteValue? h
  next => exact hasType_of_finiteValue? h
  next s =>
    dsimp only at h
    split at h
    next n read =>
      cases h
      exact .int (Option.filter_eq_some_iff.1 read).2
    next =>
      obtain ⟨y, read, rfl⟩ := Option.map_eq_some_iff.1 h
      exact .float (Option.filter_eq_some_iff.1 read).2
  next => cases h

theorem hasType_of_date? {s : String} (h : date? v = some s) : (Value.text s).HasType .date := by
  unfold date? at h
  split at h
  next =>
    obtain ⟨d, read, rfl⟩ := Option.map_eq_some_iff.1 h
    exact .date (Calendar.isValid_of_date? read)
  next => cases h

theorem hasType_of_timestamp? {s : String} (h : timestamp? v = some s) :
    (Value.text s).HasType .datetime := by
  unfold timestamp? at h
  split at h
  next =>
    obtain ⟨t, read, rfl⟩ := Option.map_eq_some_iff.1 h
    exact .datetime (Calendar.isValid_of_timestamp? read)
  next => cases h

/-- An operand is coerced to the type that it is coerced for. -/
theorem hasType_of_value? {type : StorageType} (h : value? type v = some x) : x.HasType type := by
  cases type with
  | string =>
    obtain ⟨s, -, rfl⟩ := Option.map_eq_some_iff.1 h
    exact .string s
  | text =>
    obtain ⟨s, -, rfl⟩ := Option.map_eq_some_iff.1 h
    exact .text s
  | numeric => exact hasType_of_number? h
  | boolean =>
    obtain ⟨b, -, rfl⟩ := Option.map_eq_some_iff.1 h
    exact .bool b
  | date =>
    obtain ⟨s, read, rfl⟩ := Option.map_eq_some_iff.1 h
    exact hasType_of_date? read
  | datetime =>
    obtain ⟨s, read, rfl⟩ := Option.map_eq_some_iff.1 h
    exact hasType_of_timestamp? read

end Coercion

theorem KnownKey.hasType_of_scalar {k : KnownKey} {v : Json} {x : Value}
    (h : k.scalar v = .ok x) : x.HasType k.field.type := by
  unfold scalar Coercion.scalar at h
  split at h
  next => cases h
  next =>
    split at h
    next read =>
      cases h
      exact Coercion.hasType_of_value? read
    next => cases h

/-! ### Conditions -/

/-- Whether a condition can stand in a plan for a field: the field allows its kind, and its operand
has the shape that the kind takes, with values of the field's type. -/
structure Condition.Conforms (c : Condition) (limits : RequestLimits) (field : FieldSpec) :
    Prop where
  column : c.field = field.name
  allowed : field.registration.kinds.contains c.kind = true
  wellFormed : c.isWellFormed = true
  typed : ∀ v ∈ c.operand.values, v.HasType field.type
  /-- A list has at least one member and no more than the limit. -/
  members : ∀ values, c.operand = .list values →
    1 ≤ values.length ∧ values.length ≤ limits.maxListValues

theorem PredicateKind.isTextual_of_pattern {k : PredicateKind} {position : PatternPosition}
    (form : k.form = .pattern position) {type : StorageType} {nullable : Bool}
    (h : k.appliesTo type nullable = true) : type.isTextual = true := by
  cases k <;> first | exact h | cases form

/-- What a recognized key compiles to is a condition for its field. -/
theorem KnownKey.Compiles.conforms {limits : RequestLimits} {k : KnownKey} {c : Condition}
    (h : k.Compiles limits c)
    (applies : k.kind.appliesTo k.field.type k.field.nullable = true) :
    c.Conforms limits k.field := by
  have wellFormed := h.readable.1
  cases h with
  | scalar _ coerced =>
    refine ⟨rfl, applies, wellFormed, ?_, ?_⟩
    · intro v member
      obtain rfl := List.mem_singleton.1 member
      exact KnownKey.hasType_of_scalar coerced
    · rintro values ⟨⟩
  | pattern form _ =>
    refine ⟨rfl, applies, wellFormed, ?_, ?_⟩
    · intro v member
      obtain rfl := List.mem_singleton.1 member
      exact .of_isTextual (PredicateKind.isTextual_of_pattern form applies) _
    · rintro values ⟨⟩
  | range _ _ low high =>
    refine ⟨rfl, applies, wellFormed, ?_, ?_⟩
    · intro v member
      obtain rfl | member := List.mem_cons.1 member
      · exact KnownKey.hasType_of_scalar low
      · obtain rfl := List.mem_singleton.1 member
        exact KnownKey.hasType_of_scalar high
    · rintro values ⟨⟩
  | @list items values _ _ nonempty short coerced =>
    refine ⟨rfl, applies, wellFormed, ?_, ?_⟩
    · intro v member
      obtain ⟨item, -, read⟩ := mem_of_mapM_ok coerced member
      exact KnownKey.hasType_of_scalar read
    · rintro _ ⟨⟩
      have same := (mapM_eq_ok_iff.1 coerced).length_eq
      have some_item := List.length_pos_iff.2 nonempty
      omega
  | @flag opposite on form _ =>
    refine ⟨rfl, ?_, wellFormed, ?_, ?_⟩
    · -- A flag that is off asks for the opposite kind, which is legal on the same columns.
      cases on with
      | true => exact applies
      | false =>
        have legal := PredicateKind.appliesTo_opposite (PredicateKind.form_eq_flag_iff.1 form)
          k.field.type k.field.nullable
        exact legal.trans applies
    · rintro v ⟨⟩
    · rintro values ⟨⟩

/-! ### Rendering -/

namespace Sql.Statement

/-- A piece of joined statements is a separator or a piece of one of them. -/
theorem mem_joined {separator : String} {parts : List Statement} {piece : Piece}
    (h : piece ∈ joined separator parts) :
    piece = .text separator ∨ ∃ part ∈ parts, piece ∈ part := by
  induction parts with
  | nil => cases h
  | cons s parts ih =>
    cases parts with
    | nil =>
      rw [joined, List.intercalate_singleton] at h
      exact .inr ⟨s, by simp, h⟩
    | cons t rest =>
      rw [joined, List.intercalate_cons_cons] at h
      obtain here | rfl | there := by simpa [or_assoc] using h
      · exact .inr ⟨s, by simp, here⟩
      · exact .inl rfl
      · obtain same | ⟨part, member, inside⟩ := ih there
        · exact .inl same
        · exact .inr ⟨part, List.mem_cons_of_mem s member, inside⟩

end Sql.Statement

/-- The piece that `Condition.never` consists of, which stands for a malformed condition. -/
def falsehood : Piece := .text "1 = 0"

theorem text_ne_falsehood {s : String} (h : s ≠ "1 = 0") : falsehood ≠ .text s :=
  fun same => h (Piece.text.inj same).symm

theorem not_mem_joined {separator : String} {parts : List Statement}
    (other : separator ≠ "1 = 0") (each : ∀ part ∈ parts, falsehood ∉ part) :
    falsehood ∉ Statement.joined separator parts := by
  intro member
  obtain same | ⟨part, inside, here⟩ := Statement.mem_joined member
  · exact text_ne_falsehood other same
  · exact each part inside here

theorem not_mem_membership {operator : String} (other : " " ++ operator ++ " (" ≠ "1 = 0")
    (field : String) (values : List Value) :
    falsehood ∉ Condition.membership field operator values := by
  have members : falsehood ∉ Statement.joined ", " (values.map fun v => [.param v]) :=
    not_mem_joined (by decide) (by simp [falsehood])
  have opening : falsehood ≠ .text (" " ++ operator ++ " (") := text_ne_falsehood other
  have closing : falsehood ≠ .text ")" := text_ne_falsehood (by decide)
  have column : falsehood ≠ .ident field := nofun
  simp [Condition.membership, members, opening, closing, column]

/-- Only a malformed condition is rendered as the false one. -/
theorem Condition.not_mem_pieces {c : Condition} (h : c.isWellFormed = true) :
    falsehood ∉ c.pieces := by
  obtain ⟨field, kind, operand⟩ := c
  cases kind with
  | isIn | notIn =>
    cases operand with
    | list values => exact not_mem_membership (by decide) field values
    | _ => cases h
  | between | notBetween =>
    cases operand with
    | range low high => simp [pieces, falsehood]
    | _ => cases h
  | null | notNull | present | blank =>
    cases operand with
    | none => simp [pieces, blankTest, falsehood]
    | _ => cases h
  | _ =>
    cases operand with
    | one v => simp [pieces, comparison, lowered, likeMatch, falsehood]
    | _ => cases h

theorem OrderTerm.not_mem_pieces (t : OrderTerm) (d : Dialect) : falsehood ∉ t.pieces d := by
  have column (name : String) : falsehood ≠ .ident name := nofun
  have opening : falsehood ≠ .text "LOWER(" := text_ne_falsehood (by decide)
  have closing : falsehood ≠ .text ")" := text_ne_falsehood (by decide)
  have direction (way : Direction) : falsehood ≠ .text (" " ++ way.keyword) := by
    cases way <;> exact text_ne_falsehood (by decide)
  have placed (nulls : NullPlacement) : falsehood ≠ .text (" " ++ nulls.keyword) := by
    cases nulls <;> exact text_ne_falsehood (by decide)
  have emulated (nulls : NullPlacement) :
      falsehood ≠ .text (" IS NULL " ++ nulls.direction.keyword ++ ", ") := by
    cases nulls <;> exact text_ne_falsehood (by decide)
  unfold pieces
  cases t.nulls with
  | none => cases t.ignoringCase <;> simp [column, opening, closing, direction]
  | some nulls =>
    cases d.placesNulls <;> cases t.ignoringCase <;>
      simp [column, opening, closing, direction, placed, emulated]

namespace Plan
variable {p : Plan}

theorem not_mem_parenthesized {s : Statement} (h : falsehood ∉ s) :
    falsehood ∉ parenthesized s := by
  have opening : falsehood ≠ .text "(" := text_ne_falsehood (by decide)
  have closing : falsehood ≠ .text ")" := text_ne_falsehood (by decide)
  simp [parenthesized, h, opening, closing]

theorem not_mem_conjunction {conditions : List Condition}
    (h : ∀ c ∈ conditions, c.isWellFormed = true) : falsehood ∉ conjunction conditions := by
  apply not_mem_joined (by decide)
  intro part member
  obtain ⟨c, inside, rfl⟩ := List.mem_map.1 member
  exact Condition.not_mem_pieces (h c inside)

theorem not_mem_disjunction {groups : List (List Condition)}
    (h : ∀ c ∈ groups.flatten, c.isWellFormed = true) : falsehood ∉ disjunction groups := by
  apply not_mem_parenthesized
  apply not_mem_joined (by decide)
  intro part member
  obtain ⟨group, inside, rfl⟩ := List.mem_map.1 member
  apply not_mem_parenthesized
  apply not_mem_conjunction
  intro c here
  exact h c (List.mem_flatten.2 ⟨group, inside, here⟩)

theorem not_mem_whereClause (h : ∀ c ∈ p.allConditions, c.isWellFormed = true) :
    falsehood ∉ p.whereClause := by
  obtain ⟨conditions, groups⟩ := List.forall_mem_append.1 h
  have each : ∀ part ∈ p.filters, falsehood ∉ part := by
    intro part member
    obtain here | there := List.mem_append.1 member
    · obtain ⟨c, inside, rfl⟩ := List.mem_map.1 here
      exact Condition.not_mem_pieces (conditions c inside)
    · split at there
      · cases there
      · obtain rfl := List.mem_singleton.1 there
        exact not_mem_disjunction groups
  have keyword : falsehood ≠ .text " WHERE " := text_ne_falsehood (by decide)
  have filters : falsehood ∉ Statement.joined " AND " p.filters := not_mem_joined (by decide) each
  unfold whereClause
  split
  · simp [keyword, filters]
  · simp

theorem not_mem_orderClause (p : Plan) (d : Dialect) : falsehood ∉ p.orderClause d := by
  have keyword : falsehood ≠ .text " ORDER BY " := text_ne_falsehood (by decide)
  have terms : falsehood ∉ Statement.joined ", " (p.order.map (OrderTerm.pieces d)) := by
    apply not_mem_joined (by decide)
    intro part member
    obtain ⟨term, -, rfl⟩ := List.mem_map.1 member
    exact term.not_mem_pieces d
  unfold orderClause
  split
  · simp
  · simp [keyword, terms]

theorem not_mem_limitClause (p : Plan) : falsehood ∉ p.limitClause := by
  have number (n : Nat) : falsehood ≠ .text (Nat.repr n) := fun same =>
    repr_ne (c := ' ') (by decide) rfl n (Piece.text.inj same).symm
  have limit : falsehood ≠ .text " LIMIT " := text_ne_falsehood (by decide)
  have offset : falsehood ≠ .text " OFFSET " := text_ne_falsehood (by decide)
  unfold limitClause
  split <;> simp [number, limit, offset]

theorem not_mem_select (h : ∀ c ∈ p.allConditions, c.isWellFormed = true) (table : String)
    (d : Dialect) : falsehood ∉ p.select table d := by
  have keyword : falsehood ≠ .text "SELECT * FROM " := text_ne_falsehood (by decide)
  have name : falsehood ≠ .ident table := nofun
  simp [select, keyword, name, not_mem_whereClause h, p.not_mem_orderClause d,
    p.not_mem_limitClause]

theorem not_mem_count (h : ∀ c ∈ p.allConditions, c.isWellFormed = true) (table : String) :
    falsehood ∉ p.count table := by
  have keyword : falsehood ≠ .text "SELECT COUNT(*) FROM " := text_ne_falsehood (by decide)
  have name : falsehood ≠ .ident table := nofun
  simp [count, keyword, name, not_mem_whereClause h]

end Plan

/-! ### Compiled plans -/

/-- Whether a plan is one that a request can have under an entity type. -/
structure Plan.Conforms (p : Plan) (e : EntityType) (limits : RequestLimits) (r : Request) :
    Prop where
  /-- Each condition is one for a column that is registered to filter by. -/
  conditions : ∀ c ∈ p.allConditions, ∃ field, e.schema.field? c.field = some field ∧
    e.catalog.predicates.get? c.field = some field.registration ∧ c.Conforms limits field
  groups : ∀ group ∈ p.groups, group ≠ []
  /-- Each ordering is registered under a sort key that is asked for. -/
  order : ∀ term ∈ p.order, ∃ key ∈ r.sort, ∃ scope,
    e.catalog.sorts.resolve? key = some scope ∧ scope.key = key ∧ scope.term = term
  /-- No condition is rendered as a malformed one. -/
  rendered : ∀ table d, falsehood ∉ p.select table d ∧ falsehood ∉ p.count table

/-- A recognized key is read as its field and kind. -/
theorem parseKey_of_mem_known {r : PredicateRegistry} {fields : Fields} {k : KnownKey}
    (h : k ∈ r.known fields) : r.parseKey k.key = some (k.field, k.kind) := by
  obtain ⟨entry, -, found⟩ := List.mem_filterMap.1 h
  obtain ⟨pair, read, rfl⟩ := Option.map_eq_some_iff.1 found
  exact read

namespace EntityType.Coherent
variable {e : EntityType} {s : Settings} {r : Request} {a : Admitted} {p : Plan}

theorem conforms_of_mem (coherent : e.Coherent) (h : e.catalog.Stages s r a p) {c : Condition}
    (member : c ∈ p.allConditions) :
    ∃ field, e.schema.field? c.field = some field ∧
      e.catalog.predicates.get? c.field = some field.registration ∧
        c.Conforms s.limits field := by
  obtain ⟨k, known, compiled⟩ := exists_of_forall₂_mem (conditions_of_stages h) member
  obtain ⟨registered, column, applies⟩ := coherent.of_parseKey (parseKey_of_mem_known known)
  have conforms := compiled.conforms applies
  rw [conforms.column]
  exact ⟨k.field, column, registered, conforms⟩

theorem conforms_of_stages (coherent : e.Coherent) (h : e.catalog.Stages s r a p) :
    p.Conforms e s.limits r := by
  have readable := readable_of_stages h
  refine ⟨fun c member => coherent.conforms_of_mem h member, ?_, ?_, ?_⟩
  · rintro group member rfl
    exact readable.groups member
  · intro term member
    rw [h.order] at member
    obtain ⟨key, asked, found⟩ := List.mem_filterMap.1 member
    obtain ⟨scope, resolved, rfl⟩ := Option.map_eq_some_iff.1 found
    have supplied : key ∈ r.sort := by
      rw [← (admit_eq_ok h.admitted).sort]
      exact List.mem_eraseDups.1 asked
    exact ⟨key, supplied, scope, resolved, (coherent.scopes key scope resolved).1, rfl⟩
  · intro table d
    exact ⟨Plan.not_mem_select readable.wellFormed table d,
      Plan.not_mem_count readable.wellFormed table⟩

end EntityType.Coherent

/-- **Compiled plans are registered, well-formed and well-typed.** Whatever an entity type that can
be defined makes of a request has conditions for its registered fields only, each with a kind that
is legal on the column and with values of its type, and registered orderings; none of the conditions
is rendered as malformed. -/
theorem compiled_conforms {e : EntityType} (reachable : e.Reachable) {s : Settings} {r : Request}
    {p : Plan} (h : e.compile s r = .ok p) : p.Conforms e s.limits r := by
  obtain ⟨a, stages⟩ := EntityType.compile_eq_ok_iff.1 h
  exact reachable.coherent.conforms_of_stages stages

namespace Sample

/-- Articles about an event: the day on which it is held, if that is known, and the time at which
the announcement starts. -/
def event : EntityType where
  name := "Event"
  parent := some "Article"
  schema := (articles.schema.withColumn "held" (by decide) ⟨.date, true⟩).withColumn "starts"
    (by decide) ⟨.datetime, false⟩
  catalog :=
    { predicates := ⟨.ofList [("title", FieldSpec.registration ⟨"title", .string, false⟩),
        ("views", FieldSpec.registration ⟨"views", .numeric, true⟩),
        ("held", FieldSpec.registration ⟨"held", .date, true⟩),
        ("starts", FieldSpec.registration ⟨"starts", .datetime, false⟩)]⟩
      sorts := ⟨.ofList [("title", .string), ("held", .date)],
        .ofList ((fieldScopes "title" .string ++ fieldScopes "held" .date).map
          fun scope => (scope.key, scope))⟩ }

theorem event_reachable : event.Reachable := by
  have article :
      (EntityType.ofSchema "Article" { table := "articles", columns := .empty }).declareAll
        [.column "title" .string false, .column "views" .numeric true, .field "title" .string,
          .predicate "views" .numeric] = .ok articles := rfl
  have made : (articles.extend "Event").declareAll
      [.column "held" .date true, .column "starts" .datetime false, .field "held" .date,
        .predicate "starts" .datetime] = .ok event := rfl
  have base := (EntityType.Reachable.ofSchema "Article" _).declareAll article
  exact (base.extend "Event").declareAll made

/-- A request for events of 2024 with a percentage in the title and a known number of views, which
is neither 3 nor 7.5 unless they start in March. -/
def upcoming : Request where
  filters := [.inherent (.map [("held_between", .list [.text "2024-1-1", .text " 2024-12-31 "]),
    ("views_null", .bool false), ("title_i_contains", .text "50%")])]
  groups := [.inherent (.map [("views_not_in", .list [.text " 3", .float ⟨0x401E000000000000⟩])]),
    .inherent (.map [("starts_gte", .text "2024-03-01T00:30:00+02:00")])]
  sort := ["held:newest", "title:asc"]

/-- The plan of `upcoming`. -/
def upcomingPlan : Plan where
  conditions := [⟨"held", .between, .range (.text "2024-01-01") (.text "2024-12-31")⟩,
    ⟨"views", .notNull, .none⟩, ⟨"title", .iContains, .one (.text "%50\x5c%%")⟩]
  groups := [[⟨"views", .notIn, .list [.int 3, .float ⟨0x401E000000000000⟩]⟩],
    [⟨"starts", .gte, .one (.text "2024-02-29 22:30:00")⟩]]
  order := [⟨"held", .desc, none, false⟩, ⟨"title", .asc, none, false⟩]
  window := ⟨1, 25, 25, 0⟩
  dropped := []

end Sample

open Sample in
/-- Dates are padded, a flag that is off is negated, and a time is moved to the day before. -/
theorem upcoming_conforms :
    event.Reachable ∧ event.compile {} upcoming = .ok upcomingPlan ∧
      upcomingPlan.Conforms event {} upcoming := by
  have compiled : event.compile {} upcoming = .ok upcomingPlan := rfl
  exact ⟨event_reachable, compiled, compiled_conforms event_reachable compiled⟩

end QueryPlan
