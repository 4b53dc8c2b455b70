import Mathlib.Data.List.Perm.Basic
import QueryPlan.Proofs.Definition
import QueryPlan.Proofs.Dropping

/-!
# Filters spread over filter maps

Filter maps are merged before anything is looked up in them, so it does not matter in how many maps
filters are supplied and in which order: only the place of a key among the merged ones depends on
it (`lastValues_perm`). Conditions are compiled one by one and so take the places of their keys
(`conditionsOf_perm`). Requests that merge to the same filters and have equally many keys therefore
compile alike (`compile_regrouped`).
-/

namespace QueryPlan
set_option autoImplicit false

/-! ### Requests -/

/-- Whether an input may be used and is a map, or null. -/
def Input.Usable (i : Input) : Prop := i.permission.allowsUse = true ∧ isFilterMap i.value = true

/-- The filters of a request, merged. -/
def Request.merged (r : Request) : OrderedMap Json := .ofList r.filterFields

/-- Whether requests differ at most in how their filters are spread over filter maps. -/
structure Request.Regrouped (q r : Request) : Prop where
  usable : ∀ i ∈ q.filters ++ r.filters, i.Usable
  /-- Each key has the same operand, that of its last occurrence. -/
  merged : ∀ key, q.merged.get? key = r.merged.get? key
  /-- Repeated keys are counted each time. -/
  keyCount : q.filterFields.length = r.filterFields.length
  groups : q.groups = r.groups
  sort : q.sort = r.sort
  page : q.page = r.page
  perPage : q.perPage = r.perPage

theorem Request.Regrouped.symm {q r : Request} (h : q.Regrouped r) : r.Regrouped q where
  usable i member := h.usable i (List.mem_append.2 (List.mem_append.1 member).symm)
  merged key := (h.merged key).symm
  keyCount := h.keyCount.symm
  groups := h.groups.symm
  sort := h.sort.symm
  page := h.page.symm
  perPage := h.perPage.symm

/-! ### Plans -/

/-- Whether a key that was left out stood in a filter map. -/
def DroppedKey.isTopLevel (k : DroppedKey) : Bool :=
  k.group = none && k.code = .unknownPredicate

/-- The keys of filter maps that were left out. -/
def Plan.topDropped (p : Plan) : List DroppedKey := p.dropped.filter DroppedKey.isTopLevel

/-- Whether plans are the same up to the order of what comes from the filter maps. -/
structure Plan.SameUpToOrder (p q : Plan) : Prop where
  conditions : p.conditions.Perm q.conditions
  groups : p.groups = q.groups
  order : p.order = q.order
  window : p.window = q.window
  topDropped : p.topDropped.Perm q.topDropped
  /-- The keys of filter maps stand before the others. -/
  dropped : ∃ others, p.dropped = p.topDropped ++ others ∧ q.dropped = q.topDropped ++ others

/-! ### Merged maps -/

/-- Maps that look up alike have the same entries, though maybe at other places. -/
theorem OrderedMap.entries_perm {α : Type} {m n : OrderedMap α}
    (same : ∀ key, m.get? key = n.get? key) : m.entries.Perm n.entries := by
  have distinct (m : OrderedMap α) : m.entries.Nodup := m.nodup.of_map Prod.fst
  apply (List.perm_ext_iff_of_nodup (distinct m) (distinct n)).2
  rintro ⟨key, v⟩
  rw [mem_entries_iff, mem_entries_iff, same key]

theorem lastValues_eq_entries (fields : Fields) :
    lastValues fields = (OrderedMap.ofList fields).entries := by
  have merged := mergeFields_eq [fields]
  rw [List.flatten_singleton] at merged
  rw [← merged, mergeFields, List.flatten_singleton]

theorem lastValues_perm {q r : Request} (h : q.Regrouped r) :
    (lastValues q.filterFields).Perm (lastValues r.filterFields) := by
  rw [lastValues_eq_entries, lastValues_eq_entries]
  exact OrderedMap.entries_perm h.merged

/-! ### Conditions -/

/-- A traversal of the same list in another order has the same results in another order. -/
theorem mapM_perm {ε α β : Type} {f : α → Except ε β} {l l' : List α} {m : List β}
    (same : l.Perm l') (run : l.mapM f = .ok m) : ∃ m', l'.mapM f = .ok m' ∧ m.Perm m' := by
  have related := mapM_eq_ok_iff.1 run
  obtain ⟨m', related', perm⟩ := List.perm_comp_forall₂ same.symm related
  exact ⟨m', mapM_eq_ok_iff.2 related', perm.symm⟩

theorem conditionsOf_perm {limits : RequestLimits} {keys keys' : List KnownKey}
    {conditions : List Condition} (same : keys.Perm keys')
    (compiled : conditionsOf limits keys = .ok conditions) :
    ∃ conditions', conditionsOf limits keys' = .ok conditions' ∧ conditions.Perm conditions' :=
  mapM_perm same compiled

/-! ### Keys that are left out -/

namespace Catalog
variable (c : Catalog)

/-- The unknown keys of the filter maps of a request. -/
def topUnknown (r : Request) : List UnknownKey :=
  c.predicates.unknown none (lastValues r.filterFields)

/-- The unknown keys of a request in its OR-groups and among its sort keys. -/
def otherUnknown (r : Request) : List UnknownKey :=
  (r.groupFields.zipIdx.flatMap fun entry => c.predicates.unknown (some entry.2) entry.1) ++
    c.sorts.unknown r.sort

theorem unknown_recognize {r : Request} {a : Admitted} (h : r.Admits a) :
    (c.recognize a).unknown = c.topUnknown r ++ c.otherUnknown r := by
  rw [recognize_eq c h, topUnknown, otherUnknown, List.append_assoc]

variable {c}

theorem isTopLevel_topUnknown {r : Request} {k : UnknownKey} (member : k ∈ c.topUnknown r) :
    k.dropped.isTopLevel = true := by
  obtain ⟨entry, -, rfl⟩ := List.mem_map.1 member
  rfl

theorem isTopLevel_otherUnknown {r : Request} {k : UnknownKey} (member : k ∈ c.otherUnknown r) :
    k.dropped.isTopLevel = false := by
  rcases List.mem_append.1 member with grouped | sort
  · obtain ⟨⟨fields, index⟩, -, inside⟩ := List.mem_flatMap.1 grouped
    obtain ⟨entry, -, rfl⟩ := List.mem_map.1 inside
    rfl
  · obtain ⟨key, -, rfl⟩ := List.mem_map.1 sort
    rfl

/-- A plan lists the keys of filter maps before the others. -/
theorem Stages.dropped_eq {s : Settings} {r : Request} {a : Admitted} {p : Plan}
    (h : c.Stages s r a p) :
    p.topDropped = (c.topUnknown r).map UnknownKey.dropped ∧
      p.dropped = p.topDropped ++ (c.otherUnknown r).map UnknownKey.dropped := by
  have all : p.dropped = (c.topUnknown r).map UnknownKey.dropped ++
      (c.otherUnknown r).map UnknownKey.dropped := by
    rw [h.dropped, unknown_recognize c (admit_eq_ok h.admitted), List.map_append]
  have top : p.topDropped = (c.topUnknown r).map UnknownKey.dropped := by
    unfold Plan.topDropped
    rw [all, List.filter_append, List.filter_eq_self.2, List.filter_eq_nil_iff.2, List.append_nil]
    · intro k member
      obtain ⟨key, other, rfl⟩ := List.mem_map.1 member
      simp [isTopLevel_otherUnknown other]
    · intro k member
      obtain ⟨key, first, rfl⟩ := List.mem_map.1 member
      exact isTopLevel_topUnknown first
  exact ⟨top, top ▸ all⟩

end Catalog

/-! ### Compilation -/

namespace Request.Regrouped
variable {c : Catalog} {s : Settings} {q r : Request} {a b : Admitted} {p : Plan}

theorem groupFields (h : q.Regrouped r) : q.groupFields = r.groupFields := by
  unfold Request.groupFields
  rw [h.groups]

theorem admitted (h : q.Regrouped r) (sound : q.admit = .ok a) : ∃ b, r.admit = .ok b := by
  have fault : q.inputFault? = none := by
    rw [← reported_admit, sound]
    rfl
  apply admitted_of_inputFault?
  apply Option.or_eq_none_iff.2
  constructor
  · apply List.findSome?_eq_none_iff.2
    intro i member
    obtain ⟨allowed, shaped⟩ := h.usable i (List.mem_append_right q.filters member)
    simp [Input.faultUnless, allowed, shaped]
  · rw [← h.groups]
    exact (Option.or_eq_none_iff.1 fault).2

theorem sized (h : q.Regrouped r) {limits : RequestLimits} (here : q.Admits a) (there : r.Admits b)
    (fits : a.checkSize limits = .ok ()) : b.checkSize limits = .ok () := by
  have same : r.sizeFault? limits = q.sizeFault? limits := by
    unfold Request.sizeFault? Request.keyCount
    rw [h.keyCount, h.groupFields, h.groups, h.sort]
  have fault : reported (b.checkSize limits) = none := by
    rw [reported_checkSize there, same, ← reported_checkSize here, fits]
    rfl
  obtain ⟨⟨⟩, found⟩ := exists_of_reported fault
  exact found

theorem topUnknown_perm (h : q.Regrouped r) (c : Catalog) :
    (c.topUnknown q).Perm (c.topUnknown r) :=
  ((lastValues_perm h).filter _).map _

theorem otherUnknown_eq (h : q.Regrouped r) (c : Catalog) :
    c.otherUnknown q = c.otherUnknown r := by
  rw [Catalog.otherUnknown, Catalog.otherUnknown, h.groupFields, h.sort]

theorem known (h : q.Regrouped r) {strict : Bool} (here : q.Admits a) (there : r.Admits b)
    (passed : c.checkKnown strict (c.recognize a) = .ok ()) :
    c.checkKnown strict (c.recognize b) = .ok () := by
  rw [checkKnown_eq_ok_iff] at passed ⊢
  rcases passed with lenient | none
  · exact .inl lenient
  · right
    rw [c.unknown_recognize here, List.append_eq_nil_iff, h.otherUnknown_eq] at none
    rw [c.unknown_recognize there, List.append_eq_nil_iff]
    obtain ⟨top, others⟩ := none
    have perm := h.topUnknown_perm c
    rw [top] at perm
    exact ⟨List.nil_perm.1 perm, others⟩

/-- What a request compiles to, a regrouped one compiles to as well, up to order. -/
theorem stages (h : q.Regrouped r) (compiled : c.Stages s q a p) :
    ∃ b p', c.Stages s r b p' ∧ p.SameUpToOrder p' := by
  obtain ⟨b, admitted⟩ := h.admitted compiled.admitted
  have here := admit_eq_ok compiled.admitted
  have there := admit_eq_ok admitted
  have filters : (c.recognize a).filters.Perm (c.recognize b).filters := by
    rw [recognize_eq c here, recognize_eq c there]
    exact (lastValues_perm h).filterMap _
  have groups : (c.recognize b).groups = (c.recognize a).groups := by
    rw [recognize_eq c here, recognize_eq c there, h.groupFields]
  have order : (c.recognize b).order = (c.recognize a).order := by
    rw [recognize_eq c here, recognize_eq c there, h.sort]
  obtain ⟨conditions, made, perm⟩ := conditionsOf_perm filters compiled.conditions
  let p' : Plan := ⟨conditions, p.groups, p.order, p.window,
    (c.recognize b).unknown.map UnknownKey.dropped⟩
  have stages : c.Stages s r b p' :=
    { admitted
      sized := h.sized here there compiled.sized
      known := h.known here there compiled.known
      conditions := made
      groups := groups ▸ compiled.groups
      order := order ▸ compiled.order
      window := h.page ▸ h.perPage ▸ compiled.window
      dropped := rfl }
  obtain ⟨top, dropped⟩ := compiled.dropped_eq
  obtain ⟨top', dropped'⟩ := stages.dropped_eq
  refine ⟨b, p', stages, perm, rfl, rfl, rfl, ?_, _, dropped, ?_⟩
  · rw [top, top']
    exact (h.topUnknown_perm c).map _
  · rw [h.otherUnknown_eq]
    exact dropped'

theorem compile (h : q.Regrouped r) (compiled : c.compile s q = .ok p) :
    ∃ p', c.compile s r = .ok p' ∧ p.SameUpToOrder p' := by
  obtain ⟨a, stages⟩ := compile_eq_ok_iff.1 compiled
  obtain ⟨b, p', stages', same⟩ := h.stages stages
  exact ⟨p', compile_eq_ok_iff.2 ⟨b, stages'⟩, same⟩

end Request.Regrouped

/-- **How filters are spread over filter maps does not matter.** Of two requests that merge to the
same filters and have equally many keys, one compiles if and only if the other one does, and then
their plans differ at most in the order of the conditions at the top level and of the keys that were
dropped from there. -/
theorem compile_regrouped {q r : Request} (h : q.Regrouped r) (c : Catalog) (s : Settings) :
    ((∃ p, c.compile s q = .ok p) ↔ ∃ p, c.compile s r = .ok p) ∧
      ∀ p p', c.compile s q = .ok p → c.compile s r = .ok p' → p.SameUpToOrder p' := by
  refine ⟨⟨?_, ?_⟩, ?_⟩
  · rintro ⟨p, compiled⟩
    obtain ⟨p', compiled', -⟩ := h.compile compiled
    exact ⟨p', compiled'⟩
  · rintro ⟨p, compiled⟩
    obtain ⟨p', compiled', -⟩ := h.symm.compile compiled
    exact ⟨p', compiled'⟩
  · intro p p' here there
    obtain ⟨found, compiled, same⟩ := h.compile here
    cases there.symm.trans compiled
    exact same

namespace Sample

/-- A request made of two single filters and a map that overrides one of them. -/
def scattered : Request :=
  ((({} : Request).addFilter "title_eq" (.text "Coq")).addFilter "colour" (.int 1)).addFilters
    (.inherent (.map [("size", .int 2), ("title_eq", .text "Lean"), ("views_gt", .text "3")]))

/-- The same filters, as many of them, in another order. -/
def gathered : Request where
  filters :=
    [.inherent (.map [("size", .int 2), ("title_eq", .text "Rocq"), ("views_gt", .text "3")]),
      ⟨.map [("colour", .int 1), ("title_eq", .text "Lean")], .permitted⟩]

/-- The plan of `scattered`. -/
def scatteredPlan : Plan where
  conditions := [⟨"title", .eq, .one (.text "Lean")⟩, ⟨"views", .gt, .one (.int 3)⟩]
  groups := []
  order := []
  window := ⟨1, 25, 25, 0⟩
  dropped := [⟨"colour", .unknownPredicate, none⟩, ⟨"size", .unknownPredicate, none⟩]

theorem scattered_regrouped : scattered.Regrouped gathered where
  usable := by
    have inputs : scattered.filters ++ gathered.filters =
        [.inherent (.map [("title_eq", .text "Coq")]), .inherent (.map [("colour", .int 1)]),
          .inherent (.map [("size", .int 2), ("title_eq", .text "Lean"), ("views_gt", .text "3")]),
          .inherent (.map [("size", .int 2), ("title_eq", .text "Rocq"), ("views_gt", .text "3")]),
          ⟨.map [("colour", .int 1), ("title_eq", .text "Lean")], .permitted⟩] := rfl
    rw [inputs]
    simp only [List.forall_mem_cons]
    exact ⟨⟨rfl, rfl⟩, ⟨rfl, rfl⟩, ⟨rfl, rfl⟩, ⟨rfl, rfl⟩, ⟨rfl, rfl⟩, fun _ => nofun⟩
  merged key := by
    have here : scattered.merged.entries =
        [("title_eq", .text "Lean"), ("colour", .int 1), ("size", .int 2),
          ("views_gt", .text "3")] := rfl
    have there : gathered.merged.entries =
        [("size", .int 2), ("title_eq", .text "Lean"), ("views_gt", .text "3"),
          ("colour", .int 1)] := rfl
    apply Option.ext
    intro v
    rw [← OrderedMap.mem_entries_iff, ← OrderedMap.mem_entries_iff, here, there]
    simp only [List.mem_cons]
    tauto
  keyCount := rfl
  groups := rfl
  sort := rfl
  page := rfl
  perPage := rfl

end Sample

open Sample in
/-- The request in one order compiles because the one in the other order does. -/
theorem scattered_like_gathered :
    scattered.Regrouped gathered ∧ articles.catalog.compile {} scattered = .ok scatteredPlan ∧
      ∃ p, articles.catalog.compile {} gathered = .ok p ∧ scatteredPlan.SameUpToOrder p := by
  have compiled : articles.catalog.compile {} scattered = .ok scatteredPlan := rfl
  obtain ⟨alike, same⟩ := compile_regrouped scattered_regrouped articles.catalog {}
  obtain ⟨p, found⟩ := alike.1 ⟨_, compiled⟩
  exact ⟨scattered_regrouped, compiled, p, found, same _ p compiled found⟩

end QueryPlan
