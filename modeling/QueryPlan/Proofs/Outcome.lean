import QueryPlan.Proofs.Merging
import QueryPlan.Proofs.Stages

/-!
# The first failure is the outcome

What a compilation fails with, told from the request alone: the first fault of its inputs, else of
its size, else an unknown key in strict mode, else the first operand that does not fit its key, else
the page (`firstFault?`). A compilation fails with just this report and succeeds if there is none
(`compile_outcome`), so nothing else can go wrong.
-/

namespace QueryPlan
set_option autoImplicit false
open Number

/-- What an error tells a caller: its code and the key at fault. -/
structure Report where
  code : ErrorCode
  key : Option String
  deriving DecidableEq, Repr

/-- The report of an error. -/
def QueryError.report (e : QueryError) : Report := ⟨e.code, e.key⟩

/-! ### The faults of each stage -/

namespace Input

/-- The fault of an input that may not be used or is of the wrong shape. -/
def faultUnless (shaped : Json → Bool) (i : Input) : Option Report :=
  if !i.permission.allowsUse then some ⟨.unpermittedInput, none⟩
  else if !shaped i.value then some ⟨.requestShape, none⟩
  else none

/-- Whether a value is a map or null. -/
def isFilterMap : Json → Bool
  | .map _ | .null => true
  | _ => false

/-- Whether a value is a map with entries. -/
def isGroupMap : Json → Bool
  | .map fields => !fields.isEmpty
  | _ => false

end Input

namespace Request

/-- The first fault of an input: filter maps come before OR-groups. -/
def inputFault? (r : Request) : Option Report :=
  (r.filters.findSome? (Input.faultUnless Input.isFilterMap)).or
    (r.groups.findSome? (Input.faultUnless Input.isGroupMap))

/-- The number of keys in all maps, repeated ones counted each time. -/
def keyCount (r : Request) : Nat := r.filterFields.length + r.groupFields.flatten.length

/-- The first ceiling that a request exceeds. -/
def sizeFault? (limits : RequestLimits) (r : Request) : Option Report :=
  if limits.maxTotalPredicates < r.keyCount then some ⟨.tooManyPredicates, none⟩
  else if limits.maxGroups < r.groups.length then some ⟨.tooManyGroups, none⟩
  else if limits.maxSortKeys < r.sort.length then some ⟨.tooManySortKeys, none⟩
  else none

/-- The entries that are looked up: those of the merged filter maps, then those of the OR-groups. -/
def entries (r : Request) : Fields := lastValues r.filterFields ++ r.groupFields.flatten

end Request

namespace Catalog

/-- The first key that nothing is registered for; sort keys come last. -/
def unknownFault? (c : Catalog) (r : Request) : Option Report :=
  ((r.entries.map Prod.fst).find? fun key => (c.predicates.parseKey key).isNone).map
      (fun key => ⟨.unknownPredicate, some key⟩) |>.or
    ((r.sort.find? fun key => (c.sorts.resolve? key).isNone).map
      fun key => ⟨.unknownSort, some key⟩)

end Catalog

/-- Whether a value can be coerced to the type of a field. -/
def FieldSpec.takes (field : FieldSpec) (v : Json) : Bool := (Coercion.value? field.type v).isSome

/-- Whether an operand can stand under a key for a field and a kind. -/
def PredicateKind.fits (limits : RequestLimits) (field : FieldSpec) (kind : PredicateKind)
    (v : Json) : Bool :=
  match kind.form with
  | .scalar => field.takes v
  | .pattern _ => (Coercion.text? v).isSome
  | .range =>
    match v with
    | .list [low, high] => field.takes low && field.takes high
    | _ => false
  | .list =>
    match v with
    | .list items =>
      !items.isEmpty && items.length ≤ limits.maxListValues && items.all field.takes
    | _ => false
  | .flag _ => (Coercion.boolean? v).isSome

/-- The first registered key with an operand that does not fit. -/
def Catalog.operandFault? (c : Catalog) (limits : RequestLimits) (r : Request) : Option Report :=
  r.entries.findSome? fun entry =>
    match c.predicates.parseKey entry.1 with
    | some (field, kind) =>
      if kind.fits limits field entry.2 then none else some ⟨.invalidValue, some entry.1⟩
    | none => none

/-- The fault of a page that is out of range or too far away. -/
def PageLimits.fault? (limits : PageLimits) (r : Request) : Option Report :=
  let page := r.page.getD 1
  if page < 1 ∨ limits.maxPage < page then some ⟨.pageOutOfRange, some "page"⟩
  else if maxUnsigned < (page - 1) * limits.pageSize r.perPage then
    some ⟨.offsetOverflow, some "page"⟩
  else none

/-- The fault of the first stage that fails. -/
def Catalog.firstFault? (c : Catalog) (s : Settings) (r : Request) : Option Report :=
  r.inputFault?.or <| (r.sizeFault? s.limits).or <|
    (if s.isStrict then c.unknownFault? r else none).or <|
      (c.operandFault? s.limits r).or <| s.pagination.fault? r

/-! ### Reports of computations -/

section
variable {α β : Type}

/-- The report of a computation that fails. -/
def reported (x : Except QueryError α) : Option Report := (fault? x).map QueryError.report

theorem reported_ok (a : α) : reported (.ok a : Except QueryError α) = none := rfl

/-- A computation that reports nothing has a result. -/
theorem exists_of_reported {x : Except QueryError α} (h : reported x = none) :
    ∃ a, x = .ok a := by
  cases x with
  | error e => cases h
  | ok a => exact ⟨a, rfl⟩

/-- The report of two steps is that of the first one, or else that of the second. -/
theorem reported_bind {x : Except QueryError α} {f : α → Except QueryError β}
    {later : Option Report} (h : ∀ a, x = .ok a → reported (f a) = later) :
    reported (x >>= f) = (reported x).or later := by
  cases x with
  | error e => rfl
  | ok a => exact h a rfl

/-- The report of a traversal is that of its first step that fails. -/
theorem reported_mapM (f : α → Except QueryError β) (l : List α) :
    reported (l.mapM f) = l.findSome? fun a => reported (f a) := by
  rw [reported, fault?_mapM, List.map_findSome?]
  rfl

theorem findSome?_flatten (f : α → Option β) (ls : List (List α)) :
    ls.flatten.findSome? f = ls.findSome? fun l => l.findSome? f := by
  induction ls with
  | nil => rfl
  | cons l ls ih =>
    rw [List.flatten_cons, List.findSome?_append, ih, List.findSome?_cons]
    cases l.findSome? f <;> rfl

/-- Members that give nothing may be left out of a search. -/
theorem findSome?_filter {f g : α → Option β} {p : α → Bool} (kept : ∀ a, p a = true → f a = g a)
    (left : ∀ a, p a = false → g a = none) (l : List α) :
    (l.filter p).findSome? f = l.findSome? g := by
  induction l with
  | nil => rfl
  | cons a l ih =>
    rw [List.findSome?_cons]
    cases hp : p a with
    | true => rw [List.filter_cons_of_pos hp, List.findSome?_cons, kept a hp, ih]
    | false => rw [List.filter_cons_of_neg (by simp [hp]), left a hp, ih]

end

/-! ### Inputs and size -/

theorem reported_fields (what : String) (i : Input) (present : i.isAbsent = false) :
    reported (i.fields what) = i.faultUnless Input.isFilterMap := by
  obtain ⟨value, permission⟩ := i
  cases permission <;> cases value <;> first | rfl | cases present

theorem faultUnless_of_isAbsent {i : Input} (h : i.isAbsent = true) :
    i.faultUnless Input.isFilterMap = none := by
  obtain ⟨value, permission⟩ := i
  cases permission <;> cases value <;> first | rfl | cases h

theorem reported_groupFields (i : Input) (index : Nat) :
    reported (i.groupFields index) = i.faultUnless Input.isGroupMap := by
  obtain ⟨value, permission⟩ := i
  cases permission <;> cases value with
  | map fields => cases fields <;> rfl
  | _ => rfl

theorem reported_admit (r : Request) : reported r.admit = r.inputFault? := by
  have filters :
      reported ((r.filters.filter fun i => !i.isAbsent).mapM (Input.fields "predicates")) =
        r.filters.findSome? (Input.faultUnless Input.isFilterMap) := by
    rw [reported_mapM]
    refine findSome?_filter (fun i present => ?_) (fun i absent => ?_) r.filters
    · exact reported_fields "predicates" i (by simpa using present)
    · exact faultUnless_of_isAbsent (by simpa using absent)
  have groups : reported (r.groups.zipIdx.mapM fun entry => entry.1.groupFields entry.2) =
      r.groups.findSome? (Input.faultUnless Input.isGroupMap) := by
    simp only [reported_mapM, reported_groupFields]
    conv_rhs => rw [← List.zipIdx_map_fst 0 r.groups, List.findSome?_map]
    rfl
  unfold Request.admit
  rw [reported_bind fun _ _ => reported_bind fun _ _ => reported_ok _, filters, groups,
    Option.or_none]
  rfl

/-- What is admitted has as many keys as the request. -/
theorem Request.Admits.keyCount_eq {r : Request} {a : Admitted} (h : r.Admits a) :
    a.keyCount = r.keyCount := by
  rw [Admitted.keyCount, List.flatten_append, List.length_append, h.filters, h.groups,
    Request.keyCount]

theorem reported_checkSize {r : Request} {a : Admitted} (h : r.Admits a) (limits : RequestLimits) :
    reported (a.checkSize limits) = r.sizeFault? limits := by
  have keys := h.keyCount_eq
  have groups : a.groups.length = r.groups.length := by
    rw [h.groups, Request.groupFields, List.length_map]
  unfold Admitted.checkSize Request.sizeFault?
  rw [keys, groups, h.sort]
  split
  · rfl
  · split
    · rfl
    · split <;> rfl

/-! ### Keys and operands -/

/-- The report of an unknown key. -/
def UnknownKey.report (k : UnknownKey) : Report := ⟨k.cause.code, k.cause.key?⟩

/-- Help with an unknown key does not change its report. -/
theorem UnknownKey.report_error (r : PredicateRegistry) (k : UnknownKey) :
    (k.error r).report = k.report := by
  cases k <;> rfl

/-- The reports of filter keys that nothing is registered for. -/
def PredicateRegistry.unknownReports (r : PredicateRegistry) (keys : List String) : List Report :=
  (keys.filter fun key => (r.parseKey key).isNone).map fun key => ⟨.unknownPredicate, some key⟩

theorem map_report_unknown (r : PredicateRegistry) (group : Option Nat) (fields : Fields) :
    (r.unknown group fields).map UnknownKey.report = r.unknownReports (fields.map Prod.fst) := by
  rw [unknown_eq, List.map_map]
  rfl

/-- The index of the group that an unknown key stands in is not part of its report. -/
theorem map_report_unknown_groups (r : PredicateRegistry) (groups : List Fields) :
    (groups.zipIdx.flatMap fun entry => r.unknown (some entry.2) entry.1).map UnknownKey.report =
      r.unknownReports (groups.flatten.map Prod.fst) := by
  have each : (groups.zipIdx.map Prod.fst).flatMap (fun fields =>
      r.unknownReports (fields.map Prod.fst)) = r.unknownReports (groups.flatten.map Prod.fst) := by
    rw [List.zipIdx_map_fst]
    simp only [PredicateRegistry.unknownReports, List.flatMap_def, List.map_flatten,
      List.filter_flatten, List.map_map]
    rfl
  rw [List.map_flatMap, ← each, List.flatMap_map]
  simp only [map_report_unknown]

/-- The reports of the unknown keys of a request: filter keys come before sort keys. -/
theorem map_report_recognize {c : Catalog} {r : Request} {a : Admitted} (h : r.Admits a) :
    (c.recognize a).unknown.map UnknownKey.report =
      c.predicates.unknownReports (r.entries.map Prod.fst) ++
        (r.sort.filter fun key => (c.sorts.resolve? key).isNone).map
          fun key => ⟨.unknownSort, some key⟩ := by
  have sorts : (c.sorts.unknown r.sort).map UnknownKey.report =
      (r.sort.filter fun key => (c.sorts.resolve? key).isNone).map
        fun key => ⟨.unknownSort, some key⟩ := by
    rw [SortRegistry.unknown, List.map_map]
    rfl
  rw [← sorts, Catalog.recognize, List.map_append, List.map_append, map_report_unknown,
    map_report_unknown_groups, mergeFields_eq, h.filters, h.groups, h.sort]
  simp [PredicateRegistry.unknownReports, Request.entries]

theorem reported_checkKnown {c : Catalog} {r : Request} {a : Admitted} (h : r.Admits a)
    (strict : Bool) :
    reported (c.checkKnown strict (c.recognize a)) =
      if strict then c.unknownFault? r else none := by
  have first : reported (c.checkKnown strict (c.recognize a)) =
      if strict then ((c.recognize a).unknown.map UnknownKey.report).head? else none := by
    unfold Catalog.checkKnown
    cases strict with
    | false => rfl
    | true =>
      cases (c.recognize a).unknown with
      | nil => rfl
      | cons k rest => exact congrArg some (k.report_error c.predicates)
  rw [first, map_report_recognize h, Catalog.unknownFault?, PredicateRegistry.unknownReports,
    List.head?_append, List.head?_map, List.head?_map, List.head?_filter, List.head?_filter]

namespace KnownKey
variable (k : KnownKey)

/-- The report of a key, unless its operand fits. -/
def reportUnless (fits : Bool) : Option Report :=
  if fits then none else some ⟨.invalidValue, some k.key⟩

theorem reportUnless_or (fits others : Bool) :
    (k.reportUnless fits).or (k.reportUnless others) = k.reportUnless (fits && others) := by
  cases fits <;> rfl

/-- Null can be coerced to no type. -/
theorem reported_scalar (v : Json) :
    reported (k.scalar v) = k.reportUnless (k.field.takes v) := by
  unfold KnownKey.scalar Coercion.scalar FieldSpec.takes
  split
  · cases k.field.type <;> rfl
  · split
    next found => rw [found]; rfl
    next missing => rw [missing]; rfl

theorem reported_text (v : Json) :
    reported (Coercion.text k.key v) = k.reportUnless (Coercion.text? v).isSome := by
  unfold Coercion.text
  split
  next found => rw [found]; rfl
  next missing => rw [missing]; rfl

theorem reported_flag (v : Json) :
    reported (Coercion.flag k.key v) = k.reportUnless (Coercion.boolean? v).isSome := by
  unfold Coercion.flag
  split
  next found => rw [found]; rfl
  next missing => rw [missing]; rfl

theorem reported_scalars (items : List Json) :
    reported (items.mapM k.scalar) =
      k.reportUnless (items.all k.field.takes) := by
  simp only [reported_mapM, reported_scalar]
  induction items with
  | nil => rfl
  | cons v items ih =>
    rw [List.findSome?_cons, ih, List.all_cons, ← reportUnless_or]
    cases k.reportUnless (k.field.takes v) <;> rfl

theorem reported_members (ceiling : Nat) (items : List Json) (h : k.operand = .list items) :
    reported (k.members ceiling) =
      k.reportUnless (!items.isEmpty && items.length ≤ ceiling) := by
  have found : k.items = .ok items := items_eq_ok_iff.2 h
  unfold members
  rw [found]
  show reported (if items.isEmpty then _ else if _ then _ else _) = _
  split
  next empty =>
    rw [empty]
    rfl
  next some_item =>
    rw [Bool.not_eq_true] at some_item
    rw [some_item]
    split
    next long =>
      rw [decide_eq_false (by omega)]
      rfl
    next short =>
      rw [decide_eq_true (by omega)]
      rfl

/-- An operand that is no list has no items. -/
theorem items_of_not_list (h : ∀ items, k.operand ≠ .list items) :
    k.items = .error (k.fault (.mismatch "a list" k.operand.kind.describe)) := by
  unfold items
  split
  next items found => exact absurd found (h items)
  next => rfl

theorem reported_range :
    reported (do
      let (low, high) ← k.bounds
      let low ← k.scalar low
      let high ← k.scalar high
      Except.ok (k.holding k.kind (.range low high))) =
      k.reportUnless (match k.operand with
        | .list [low, high] => k.field.takes low && k.field.takes high
        | _ => false) := by
  split
  next low high h =>
    rw [bounds_eq_ok_iff.2 h]
    show reported (k.scalar low >>= fun _ => _) = _
    rw [reported_bind fun _ _ => reported_bind fun _ _ => reported_ok _, reported_scalar,
      reported_scalar, Option.or_none, reportUnless_or]
  next other =>
    -- What is no pair of bounds is a list of another length, or no list at all.
    by_cases list : ∃ items, k.operand = .list items
    · obtain ⟨items, h⟩ := list
      have found : k.items = .ok items := items_eq_ok_iff.2 h
      have failed : k.bounds = .error (k.fault (.notTwoBounds items.length)) := by
        unfold bounds
        rw [found]
        match items, h with
        | [], _ | [_], _ | _ :: _ :: _ :: _, _ => rfl
        | [low, high], h => exact absurd h (other low high)
      rw [failed]
      rfl
    · rw [bounds, k.items_of_not_list fun items h => list ⟨items, h⟩]
      rfl

theorem reported_list (ceiling : Nat) :
    reported (do
      let members ← k.members ceiling
      let values ← members.mapM k.scalar
      Except.ok (k.holding k.kind (.list values))) =
      k.reportUnless (match k.operand with
        | .list items =>
          !items.isEmpty && items.length ≤ ceiling && items.all k.field.takes
        | _ => false) := by
  split
  next items h =>
    have coerced (found : List Json) (hf : k.members ceiling = .ok found) :
        reported (do
          let values ← found.mapM k.scalar
          Except.ok (k.holding k.kind (.list values))) =
          k.reportUnless (items.all k.field.takes) := by
      -- The members are the items themselves: only their number is checked.
      obtain rfl : items = found := by
        have same := h.symm.trans (members_eq_ok_iff.1 hf).1
        exact Json.list.inj same
      rw [reported_bind fun _ _ => reported_ok _, Option.or_none, reported_scalars]
    rw [reported_bind coerced, k.reported_members ceiling items h, reportUnless_or]
  next other =>
    rw [members, k.items_of_not_list other]
    rfl

/-- A key fails just if its operand does not fit, and then names itself. -/
theorem reported_condition (limits : RequestLimits) :
    reported (k.condition limits) = k.reportUnless (k.kind.fits limits k.field k.operand) := by
  rw [condition_eq]
  unfold PredicateKind.fits
  cases form : k.kind.form with
  | scalar =>
    simp only
    rw [reported_bind fun _ _ => reported_ok _, Option.or_none, reported_scalar]
  | pattern position =>
    simp only
    rw [reported_bind fun _ _ => reported_ok _, Option.or_none, reported_text]
  | range =>
    exact k.reported_range
  | list =>
    exact k.reported_list limits.maxListValues
  | flag opposite =>
    simp only
    rw [reported_bind fun _ _ => reported_ok _, Option.or_none, reported_flag]

end KnownKey

theorem reported_conditionsOf (limits : RequestLimits) (keys : List KnownKey) :
    reported (conditionsOf limits keys) =
      keys.findSome? fun k => k.reportUnless (k.kind.fits limits k.field k.operand) := by
  simp only [conditionsOf, reported_mapM, KnownKey.reported_condition]

/-- A group without recognized keys is left out, but it has no operands either. -/
theorem reported_groupsOf (limits : RequestLimits) (groups : List (List KnownKey)) :
    reported (groupsOf limits groups) =
      groups.flatten.findSome? fun k => k.reportUnless (k.kind.fits limits k.field k.operand) := by
  rw [groupsOf, reported_mapM, findSome?_flatten]
  refine findSome?_filter (fun keys _ => reported_conditionsOf limits keys) (fun keys none => ?_)
    groups
  obtain rfl : keys = [] := by simpa using none
  rfl

/-- The recognized keys of a map are the registered ones among its entries. -/
theorem findSome?_known (r : PredicateRegistry) (limits : RequestLimits) (fields : Fields) :
    (r.known fields).findSome? (fun k => k.reportUnless (k.kind.fits limits k.field k.operand)) =
      fields.findSome? fun entry =>
        match r.parseKey entry.1 with
        | some (field, kind) =>
          if kind.fits limits field entry.2 then none else some ⟨.invalidValue, some entry.1⟩
        | none => none := by
  unfold PredicateRegistry.known
  induction fields with
  | nil => rfl
  | cons entry fields ih =>
    rw [List.filterMap_cons, List.findSome?_cons]
    cases r.parseKey entry.1 with
    | none => exact ih
    | some pair =>
      rw [← ih]
      exact List.findSome?_cons

theorem reported_operands {c : Catalog} {r : Request} {a : Admitted} (h : r.Admits a)
    (limits : RequestLimits) :
    (reported (conditionsOf limits (c.recognize a).filters)).or
      (reported (groupsOf limits (c.recognize a).groups)) = c.operandFault? limits r := by
  have groups : (r.groupFields.map c.predicates.known).flatten =
      c.predicates.known r.groupFields.flatten := (List.filterMap_flatten).symm
  rw [reported_conditionsOf, reported_groupsOf, Catalog.recognize]
  simp only [mergeFields_eq, h.filters, h.groups, groups, findSome?_known]
  rw [Catalog.operandFault?, Request.entries, List.findSome?_append]

/-! ### The page and the whole -/

theorem reported_window (limits : PageLimits) (r : Request) :
    reported (limits.window r.page r.perPage) = limits.fault? r := by
  unfold PageLimits.window PageLimits.fault?
  simp only
  generalize r.page.getD 1 = page
  generalize limits.pageSize r.perPage = size
  by_cases low : page < 1
  · rw [if_pos (.inl low), if_pos (.inl low)]
    rfl
  obtain ⟨n, rfl⟩ := Int.eq_ofNat_of_zero_le (show 0 ≤ page by omega)
  have offset : ((n : Int) - 1) * size = ((n - 1) * size : Nat) := by
    rw [Int.natCast_mul, Int.natCast_sub (by omega)]
    rfl
  rw [offset]
  simp only [Int.toNat_natCast, Int.ofNat_lt]
  split
  · rfl
  · split <;> rfl

/-- A compilation fails with the report of the first stage that fails. -/
theorem reported_compile (c : Catalog) (s : Settings) (r : Request) :
    reported (c.compile s r) = c.firstFault? s r := by
  have later (a : Admitted) (ha : r.admit = .ok a) :
      reported (do
        a.checkSize s.limits
        let recognized := c.recognize a
        c.checkKnown s.isStrict recognized
        let conditions ← conditionsOf s.limits recognized.filters
        let groups ← groupsOf s.limits recognized.groups
        let window ← s.pagination.window r.page r.perPage
        Except.ok (Plan.mk conditions groups recognized.order window
          (recognized.unknown.map UnknownKey.dropped))) =
      (r.sizeFault? s.limits).or ((if s.isStrict then c.unknownFault? r else none).or
        ((c.operandFault? s.limits r).or (s.pagination.fault? r))) := by
    have admits := admit_eq_ok ha
    rw [reported_bind fun _ _ => reported_bind fun _ _ => reported_bind fun _ _ =>
      reported_bind fun _ _ => reported_bind fun _ _ => reported_ok _]
    rw [reported_checkSize admits, reported_checkKnown admits, reported_window, Option.or_none,
      ← reported_operands admits, Option.or_assoc]
  rw [Catalog.compile, reported_bind later, reported_admit]
  rfl

/-- **The first failure is the outcome.** A compilation fails with the report of the first stage
that fails: the inputs, the size, in strict mode the keys, the operands, the page. It succeeds if
none of them does. -/
theorem compile_outcome (e : EntityType) (s : Settings) (r : Request) :
    match e.catalog.firstFault? s r with
    | some report =>
      (∃ error, e.compile s r = .error error ∧ error.report = report) ∧
        ∃ error, e.catalog.compile s r = .error error ∧ error.report = report
    | none => ∃ p, e.compile s r = .ok p ∧ e.catalog.compile s r = .ok p := by
  rw [← reported_compile, EntityType.compile]
  cases e.catalog.compile s r with
  | ok p => exact ⟨p, rfl, rfl⟩
  | error error =>
    refine ⟨⟨_, rfl, ?_⟩, error, rfl, rfl⟩
    simp only [QueryError.tagged]
    split <;> rfl

end QueryPlan
