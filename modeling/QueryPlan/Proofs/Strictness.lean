import QueryPlan.Proofs.Outcome

/-!
# Strict and lenient compilation

The two modes differ in one stage: strict mode refuses the first unknown key where lenient mode goes
on without it. So a request without unknown keys has the same outcome in both, and one with unknown
keys fails in strict mode with what lenient mode lists first (`strict_agrees_with_lenient`).
-/

namespace QueryPlan
set_option autoImplicit false

/-! ### The stages after recognition -/

/-- The plan of recognized keys, made by the stages that are the same in both modes. -/
def Recognized.plan (found : Recognized) (s : Settings) (r : Request) : Except QueryError Plan := do
  let conditions ← conditionsOf s.limits found.filters
  let groups ← groupsOf s.limits found.groups
  let window ← s.pagination.window r.page r.perPage
  .ok ⟨conditions, groups, found.order, window, found.unknown.map UnknownKey.dropped⟩

/-- A plan lists the unknown keys as dropped. -/
theorem Recognized.dropped_of_plan {found : Recognized} {s : Settings} {r : Request} {p : Plan}
    (h : found.plan s r = .ok p) : p.dropped = found.unknown.map UnknownKey.dropped := by
  simp only [Recognized.plan, bind_eq_ok_iff] at h
  obtain ⟨conditions, -, groups, -, window, -, made⟩ := h
  cases made
  rfl

namespace Catalog
variable {c : Catalog} {s : Settings} {r : Request}

theorem compile_of_input_error {e : QueryError} (h : r.admit = .error e) :
    c.compile s r = .error e := by
  rw [compile, h]
  rfl

theorem compile_of_size_error {a : Admitted} {e : QueryError} (admitted : r.admit = .ok a)
    (h : a.checkSize s.limits = .error e) : c.compile s r = .error e := by
  rw [compile, admitted]
  show (a.checkSize s.limits >>= fun _ => _) = _
  rw [h]
  rfl

/-- Once a request is admitted and not too large, it is up to its keys. -/
theorem compile_of_sized {a : Admitted} (admitted : r.admit = .ok a)
    (sized : a.checkSize s.limits = .ok ()) :
    c.compile s r =
      (do c.checkKnown s.isStrict (c.recognize a); (c.recognize a).plan s r) := by
  rw [compile, admitted]
  show (a.checkSize s.limits >>= fun _ => _) = _
  rw [sized]
  rfl

theorem compile_of_known {a : Admitted} (admitted : r.admit = .ok a)
    (sized : a.checkSize s.limits = .ok ())
    (known : s.isStrict = false ∨ (c.recognize a).unknown = []) :
    c.compile s r = (c.recognize a).plan s r := by
  rw [compile_of_sized admitted sized, checkKnown_eq_ok_iff.2 known]
  rfl

theorem compile_of_unknown {a : Admitted} {k : UnknownKey} {rest : List UnknownKey}
    (admitted : r.admit = .ok a) (sized : a.checkSize s.limits = .ok ())
    (strict : s.isStrict = true) (unknown : (c.recognize a).unknown = k :: rest) :
    c.compile s r = .error (k.error c.predicates) := by
  have failed : c.checkKnown s.isStrict (c.recognize a) = .error (k.error c.predicates) := by
    unfold checkKnown
    rw [strict, unknown]
  rw [compile_of_sized admitted sized, failed]
  rfl

end Catalog

/-! ### Failures by stage -/

namespace Catalog
variable {c : Catalog} {s : Settings} {r : Request} {report : Report}

/-- No key is named for an input that may not be used or is of the wrong shape. -/
theorem report_of_inputFault? (h : r.inputFault? = some report) :
    report = ⟨.unpermittedInput, none⟩ ∨ report = ⟨.requestShape, none⟩ := by
  have each {shaped : Json → Bool} {i : Input} (found : i.faultUnless shaped = some report) :
      report = ⟨.unpermittedInput, none⟩ ∨ report = ⟨.requestShape, none⟩ := by
    unfold Input.faultUnless at found
    split at found
    · exact .inl (Option.some.inj found).symm
    · exact .inr (Option.some.inj (Option.ite_none_right_eq_some.1 found).2).symm
  unfold Request.inputFault? at h
  obtain filter | ⟨-, group⟩ := Option.or_eq_some_iff.1 h
  · obtain ⟨i, -, found⟩ := List.exists_of_findSome?_eq_some filter
    exact each found
  · obtain ⟨i, -, found⟩ := List.exists_of_findSome?_eq_some group
    exact each found

/-- No key is named for a request that is too large. -/
theorem report_of_sizeFault? {limits : RequestLimits} (h : r.sizeFault? limits = some report) :
    report.code.kind = .configuration ∧ report.key = none := by
  unfold Request.sizeFault? at h
  split at h
  · cases h
    exact ⟨rfl, rfl⟩
  · split at h
    · cases h
      exact ⟨rfl, rfl⟩
    · split at h <;> cases h
      exact ⟨rfl, rfl⟩

theorem kind_of_unknownFault? (h : c.unknownFault? r = some report) :
    report.code.kind = .invalidPredicate := by
  unfold unknownFault? at h
  obtain filter | ⟨-, sort⟩ := Option.or_eq_some_iff.1 h
  · obtain ⟨key, -, rfl⟩ := Option.map_eq_some_iff.1 filter
    rfl
  · obtain ⟨key, -, rfl⟩ := Option.map_eq_some_iff.1 sort
    rfl

theorem code_of_operandFault? {limits : RequestLimits}
    (h : c.operandFault? limits r = some report) : report.code = .invalidValue := by
  obtain ⟨entry, -, fault⟩ := List.exists_of_findSome?_eq_some h
  split at fault
  · split at fault <;> cases fault
    rfl
  · cases fault

theorem kind_of_pageFault? {limits : PageLimits} (h : limits.fault? r = some report) :
    report.code.kind = .invalidPagination := by
  unfold PageLimits.fault? at h
  simp only at h
  split at h
  · cases h
    rfl
  · split at h <;> cases h
    rfl

/-- No fault of a lenient compilation is about an unknown key. -/
theorem kind_of_firstFault? (lenient : s.isStrict = false)
    (h : c.firstFault? s r = some report) : report.code.kind ≠ .invalidPredicate := by
  have malformed (h : report.code.kind = .configuration) :
      report.code.kind ≠ .invalidPredicate := by
    rw [h]
    decide
  unfold firstFault? at h
  rw [lenient, if_neg Bool.false_ne_true, Option.none_or] at h
  obtain input | ⟨-, h⟩ := Option.or_eq_some_iff.1 h
  · rcases report_of_inputFault? input with rfl | rfl <;> exact malformed rfl
  obtain size | ⟨-, h⟩ := Option.or_eq_some_iff.1 h
  · exact malformed (report_of_sizeFault? size).1
  obtain operand | ⟨-, page⟩ := Option.or_eq_some_iff.1 h
  · rw [code_of_operandFault? operand]
    decide
  · rw [kind_of_pageFault? page]
    decide

end Catalog

/-! ### Two modes -/

/-- Settings that differ in their strictness at most. -/
structure Settings.SameLimits (s t : Settings) : Prop where
  pagination : s.pagination = t.pagination
  limits : s.limits = t.limits

/-- How the outcomes of a request in strict and in lenient mode belong together. -/
structure ModesAgree (strict lenient : Except QueryError Plan) : Prop where
  /-- Strict mode gives the plan of lenient mode if nothing was dropped from it. -/
  plan : ∀ p, strict = .ok p ↔ lenient = .ok p ∧ p.dropped = []
  /-- Otherwise it fails with the first key that was dropped. -/
  dropped : ∀ p first rest, lenient = .ok p → p.dropped = first :: rest →
    ∃ e, strict = .error e ∧ e.code = first.code ∧ e.key = some first.key
  /-- What fails in lenient mode fails in strict mode, with the same error or an unknown key. -/
  failure : ∀ e, lenient = .error e →
    ∃ e', strict = .error e' ∧ (e' = e ∨ e'.kind = .invalidPredicate)
  /-- Lenient mode never fails because of an unknown key. -/
  recovers : ∀ e, lenient = .error e → e.kind ≠ .invalidPredicate

theorem Recognized.plan_congr {s t : Settings} (same : s.SameLimits t) (found : Recognized)
    (r : Request) : found.plan s r = found.plan t r := by
  rw [plan, plan, same.limits, same.pagination]

/-- The error of a key and the record that the key was dropped tell the same. -/
theorem UnknownKey.error_eq_dropped (r : PredicateRegistry) (k : UnknownKey) :
    (k.error r).code = k.dropped.code ∧ (k.error r).key = some k.dropped.key := by
  cases k <;> exact ⟨rfl, rfl⟩

theorem UnknownKey.kind_error (r : PredicateRegistry) (k : UnknownKey) :
    (k.error r).kind = .invalidPredicate := by
  cases k <;> rfl

namespace Catalog
variable {c : Catalog} {strict lenient : Settings} {r : Request}

theorem kind_of_lenient_error (h : lenient.isStrict = false) {e : QueryError}
    (failed : c.compile lenient r = .error e) : e.kind ≠ .invalidPredicate := by
  have fault : c.firstFault? lenient r = some e.report := by
    rw [← reported_compile, failed]
    rfl
  exact kind_of_firstFault? h fault

/-- A request that fails before its keys are looked up fails alike in both modes. -/
theorem modesAgree_of_error (h : lenient.isStrict = false) {e : QueryError}
    (here : c.compile strict r = .error e) (there : c.compile lenient r = .error e) :
    ModesAgree (c.compile strict r) (c.compile lenient r) where
  plan p := by simp [here, there]
  dropped p first rest made := by simp [there] at made
  failure e' failed := ⟨e, here, .inl (Except.error.inj (there.symm.trans failed))⟩
  recovers e' failed := kind_of_lenient_error h failed

/-- Without unknown keys the mode makes no difference. -/
theorem modesAgree_of_known (h : lenient.isStrict = false)
    (same : c.compile strict r = c.compile lenient r)
    (nothing : ∀ p, c.compile lenient r = .ok p → p.dropped = []) :
    ModesAgree (c.compile strict r) (c.compile lenient r) where
  plan p := by
    rw [same]
    exact ⟨fun made => ⟨made, nothing p made⟩, And.left⟩
  dropped p first rest made listed := by simp [nothing p made] at listed
  failure e failed := ⟨e, same.trans failed, .inl rfl⟩
  recovers e failed := kind_of_lenient_error h failed

/-- The first unknown key is the error of strict mode and the first dropped key of lenient mode. -/
theorem modesAgree_of_unknown (h : lenient.isStrict = false) {k : UnknownKey}
    {others : List UnknownKey} (here : c.compile strict r = .error (k.error c.predicates))
    (listed : ∀ p, c.compile lenient r = .ok p →
      p.dropped = k.dropped :: others.map UnknownKey.dropped) :
    ModesAgree (c.compile strict r) (c.compile lenient r) where
  plan p := by
    rw [here]
    constructor
    · rintro ⟨⟩
    · rintro ⟨made, none⟩
      rw [listed p made] at none
      cases none
  dropped p first rest made first_dropped := by
    rw [listed p made] at first_dropped
    obtain ⟨rfl, -⟩ := List.cons.inj first_dropped
    exact ⟨_, here, k.error_eq_dropped c.predicates⟩
  failure e _ := ⟨_, here, .inr (k.kind_error c.predicates)⟩
  recovers e failed := kind_of_lenient_error h failed

theorem modesAgree_compile (same : strict.SameLimits lenient) (isStrict : strict.isStrict = true)
    (isLenient : lenient.isStrict = false) (r : Request) :
    ModesAgree (c.compile strict r) (c.compile lenient r) := by
  cases admitted : r.admit with
  | error e =>
    exact modesAgree_of_error isLenient (compile_of_input_error admitted)
      (compile_of_input_error admitted)
  | ok a =>
    cases sized : a.checkSize lenient.limits with
    | error e =>
      have refused : a.checkSize strict.limits = .error e := by rw [same.limits, sized]
      exact modesAgree_of_error isLenient (compile_of_size_error admitted refused)
        (compile_of_size_error admitted sized)
    | ok _ =>
      have passed : a.checkSize strict.limits = .ok () := by rw [same.limits, sized]
      have there : c.compile lenient r = (c.recognize a).plan lenient r :=
        compile_of_known admitted sized (.inl isLenient)
      cases unknown : (c.recognize a).unknown with
      | nil =>
        have here : c.compile strict r = (c.recognize a).plan strict r :=
          compile_of_known admitted passed (.inr unknown)
        refine modesAgree_of_known isLenient ?_ fun p made => ?_
        · rw [here, there, Recognized.plan_congr same]
        · rw [Recognized.dropped_of_plan (there.symm.trans made), unknown]
          rfl
      | cons k others =>
        have here : c.compile strict r = .error (k.error c.predicates) :=
          compile_of_unknown admitted passed isStrict unknown
        have listed (p : Plan) (made : c.compile lenient r = .ok p) :
            p.dropped = k.dropped :: others.map UnknownKey.dropped := by
          rw [Recognized.dropped_of_plan (there.symm.trans made), unknown]
          rfl
        exact modesAgree_of_unknown isLenient here listed

end Catalog

/-! ### Errors that name the entity type -/

theorem QueryError.cause_tagged (e : QueryError) (entity : String) :
    (e.tagged entity).cause = e.cause := by
  unfold tagged
  split <;> rfl

theorem QueryError.code_tagged (e : QueryError) (entity : String) :
    (e.tagged entity).code = e.code :=
  congrArg Cause.code (e.cause_tagged entity)

theorem QueryError.key_tagged (e : QueryError) (entity : String) :
    (e.tagged entity).key = e.key := by
  unfold tagged
  split <;> rfl

/-- Naming the entity type in the errors of both modes changes nothing. -/
theorem ModesAgree.tagged {strict lenient : Except QueryError Plan}
    (agree : ModesAgree strict lenient) (entity : String) :
    ModesAgree (strict.mapError (QueryError.tagged · entity))
      (lenient.mapError (QueryError.tagged · entity)) := by
  have kind (e : QueryError) : (e.tagged entity).kind = e.kind :=
    congrArg ErrorCode.kind (e.code_tagged entity)
  constructor
  case plan =>
    intro p
    rw [mapError_eq_ok_iff, mapError_eq_ok_iff]
    exact agree.plan p
  case dropped =>
    intro p first rest made listed
    obtain ⟨e, failed, same_code, same_key⟩ :=
      agree.dropped p first rest (mapError_eq_ok_iff.1 made) listed
    exact ⟨e.tagged entity, mapError_eq_error_iff.2 ⟨e, failed, rfl⟩,
      (e.code_tagged entity).trans same_code, (e.key_tagged entity).trans same_key⟩
  case failure =>
    intro e failed
    obtain ⟨e, there, rfl⟩ := mapError_eq_error_iff.1 failed
    obtain ⟨e', here, outcome⟩ := agree.failure e there
    refine ⟨e'.tagged entity, mapError_eq_error_iff.2 ⟨e', here, rfl⟩, ?_⟩
    exact outcome.imp (congrArg (QueryError.tagged · entity)) (kind e').trans
  case recovers =>
    intro e failed
    obtain ⟨e, there, rfl⟩ := mapError_eq_error_iff.1 failed
    rw [kind]
    exact agree.recovers e there

/-- **Strict and lenient mode agree up to dropped keys.** Under settings that differ in strictness
only, strict mode gives the plan of lenient mode if nothing was dropped from it, and otherwise fails
with the first dropped key; it fails wherever lenient mode does, which never does so because of an
unknown key. -/
theorem strict_agrees_with_lenient {strict lenient : Settings} (same : strict.SameLimits lenient)
    (isStrict : strict.isStrict = true) (isLenient : lenient.isStrict = false) (e : EntityType)
    (r : Request) :
    ModesAgree (e.catalog.compile strict r) (e.catalog.compile lenient r) ∧
      ModesAgree (e.compile strict r) (e.compile lenient r) := by
  have agree := Catalog.modesAgree_compile (c := e.catalog) same isStrict isLenient r
  exact ⟨agree, agree.tagged e.name⟩

namespace Sample

/-- A request with an unknown key in its second OR-group, and an unknown sort key. -/
def misspelt : Request where
  filters := [.inherent (.map [("title_eq", .text "Lean")])]
  groups := [.inherent (.map [("views_gt", .int 3)]),
    .inherent (.map [("views_null", .bool true), ("views_most", .int 3)])]
  sort := ["title:up"]

end Sample

open Sample in
/-- Lenient mode drops both unknown keys, and strict mode fails with the one in the OR-group. -/
theorem misspelt_modes :
    (∃ p, articles.compile {} misspelt = .ok p ∧ p.dropped =
      [⟨"views_most", .unknownPredicate, some 1⟩, ⟨"title:up", .unknownSort, none⟩]) ∧
    ∃ e, articles.compile { strictPredicates := true } misspelt = .error e ∧
      e.code = .unknownPredicate ∧ e.key = some "views_most" := by
  have same : Settings.SameLimits { strictPredicates := true } {} := ⟨rfl, rfl⟩
  have agree := (strict_agrees_with_lenient same rfl rfl articles misspelt).2
  have made : ∃ p, articles.compile {} misspelt = .ok p ∧ p.dropped =
      [⟨"views_most", .unknownPredicate, some 1⟩, ⟨"title:up", .unknownSort, none⟩] :=
    ⟨_, rfl, rfl⟩
  refine ⟨made, ?_⟩
  obtain ⟨p, compiled, dropped⟩ := made
  exact agree.dropped p _ _ compiled dropped

end QueryPlan
