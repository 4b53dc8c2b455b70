import QueryPlan.Proofs.Ceilings
import QueryPlan.Proofs.Conformance

/-!
# Filters that occur again

A filter key may occur in several filter maps, or several times in one. Its condition stands where
the key first occurs and is made of the operand that it has where it last occurs. The operands in
between are never looked at (`compile_inputs`), although each occurrence counts against the ceiling
of the request. `later_values_win` puts this together.
-/

namespace QueryPlan
set_option autoImplicit false

/-! ### The first and the last occurrence of a key -/

/-- Whether a key has an operand where it occurs last. -/
def IsLast (entries : Fields) (key : String) (operand : Json) : Prop :=
  ∃ before after, entries = before ++ (key, operand) :: after ∧ key ∉ after.map Prod.fst

theorem isLast_of_lookup {entries : Fields} {key : String} {operand : Json}
    (found : entries.reverse.lookup key = some operand) : IsLast entries key operand := by
  obtain ⟨after, before, split, other⟩ := List.lookup_eq_some_iff.1 found
  refine ⟨before.reverse, after.reverse, ?_, ?_⟩
  · rw [← List.reverse_reverse entries, split]
    simp
  · intro occurs
    obtain ⟨entry, member, same⟩ := List.mem_map.1 occurs
    have differs := other entry (List.mem_reverse.1 member)
    simp [same] at differs

/-- Members that are listed once each stand in the order in which they first occur. -/
theorem pairwise_idxOf_eraseDups {α : Type} [BEq α] [LawfulBEq α] (l : List α) :
    l.eraseDups.Pairwise fun a b => l.idxOf a < l.idxOf b := by
  induction l using List.reverseRecOn with
  | nil => exact .nil
  | append_singleton l c ih =>
    have before {a : α} (member : a ∈ l) : (l ++ [c]).idxOf a = l.idxOf a :=
      List.idxOf_append_of_mem member
    have kept : l.eraseDups.Pairwise fun a b => (l ++ [c]).idxOf a < (l ++ [c]).idxOf b := by
      apply ih.imp_of_mem
      intro a b ha hb less
      rw [before (List.mem_eraseDups.1 ha), before (List.mem_eraseDups.1 hb)]
      exact less
    by_cases seen : c ∈ l
    · rw [eraseDups_snoc_of_mem seen]
      exact kept
    · have last : (l ++ [c]).idxOf c = l.length := by
        rw [List.idxOf_append_of_notMem seen]
        simp
      rw [eraseDups_snoc_of_notMem seen, List.pairwise_append]
      refine ⟨kept, List.pairwise_singleton _ c, ?_⟩
      intro a ha b hb
      obtain rfl := List.mem_singleton.1 hb
      rw [last, before (List.mem_eraseDups.1 ha)]
      exact List.idxOf_lt_length_of_mem (List.mem_eraseDups.1 ha)

theorem nodup_eraseDups {α : Type} [BEq α] [LawfulBEq α] (l : List α) : l.eraseDups.Nodup := by
  apply (pairwise_idxOf_eraseDups l).imp
  rintro a b less rfl
  exact Nat.lt_irrefl _ less

namespace PredicateRegistry

/-- Whether keys are the registered ones of some entries, each once, in the order in which they
first occur. -/
structure ListsFirst (r : PredicateRegistry) (entries : Fields) (keys : List String) : Prop where
  nodup : keys.Nodup
  mem : ∀ key, key ∈ keys ↔ key ∈ entries.map Prod.fst ∧ (r.parseKey key).isSome = true
  order : keys.Pairwise fun a b => (entries.map Prod.fst).idxOf a < (entries.map Prod.fst).idxOf b

/-- Whether a condition is made of a key and the operand that it has where it occurs last. -/
def CompilesLast (r : PredicateRegistry) (limits : RequestLimits) (entries : Fields) (key : String)
    (condition : Condition) : Prop :=
  ∃ field kind operand, r.parseKey key = some (field, kind) ∧ IsLast entries key operand ∧
    KnownKey.condition limits ⟨key, field, kind, operand⟩ = .ok condition

variable {r : PredicateRegistry} {entries : Fields}

theorem map_key_known (r : PredicateRegistry) (fields : Fields) :
    (r.known fields).map KnownKey.key =
      (fields.map Prod.fst).filter fun key => (r.parseKey key).isSome := by
  induction fields with
  | nil => rfl
  | cons entry fields ih =>
    unfold known at ih ⊢
    cases read : r.parseKey entry.1 <;> simp [read, ih]

theorem listsFirst_known (r : PredicateRegistry) (entries : Fields) :
    r.ListsFirst entries ((r.known (lastValues entries)).map KnownKey.key) := by
  rw [map_key_known, map_fst_lastValues]
  have order := pairwise_idxOf_eraseDups (entries.map Prod.fst)
  refine ⟨(nodup_eraseDups _).filter _, ?_, order.filter _⟩
  intro key
  rw [List.mem_filter, List.mem_eraseDups]

/-- A recognized key of merged maps has the operand of its last occurrence. -/
theorem isLast_of_mem_known {k : KnownKey} (member : k ∈ r.known (lastValues entries)) :
    IsLast entries k.key k.operand := by
  obtain ⟨entry, listed, read⟩ := List.mem_filterMap.1 member
  obtain ⟨pair, -, rfl⟩ := Option.map_eq_some_iff.1 read
  obtain ⟨key, -, found⟩ := List.mem_filterMap.1 listed
  obtain ⟨operand, last, rfl⟩ := Option.map_eq_some_iff.1 found
  exact isLast_of_lookup last

end PredicateRegistry

/-- The conditions at the top level of a plan, key by key. -/
theorem Catalog.Stages.compilesLast {c : Catalog} {s : Settings} {r : Request} {a : Admitted}
    {p : Plan} (h : c.Stages s r a p) :
    List.Forall₂ (c.predicates.CompilesLast s.limits r.filterFields)
      ((c.predicates.known (lastValues r.filterFields)).map KnownKey.key) p.conditions := by
  have compiled := mapM_eq_ok_iff.1 h.conditions
  rw [recognize_eq c (admit_eq_ok h.admitted)] at compiled
  rw [List.forall₂_map_left_iff]
  have members : ∀ k ∈ c.predicates.known (lastValues r.filterFields),
      k ∈ c.predicates.known (lastValues r.filterFields) := fun _ member => member
  apply ((List.forall₂_and_left _ _).2 ⟨members, compiled⟩).imp
  rintro k condition ⟨member, made⟩
  exact ⟨k.field, k.kind, k.operand, parseKey_of_mem_known member,
    PredicateRegistry.isLast_of_mem_known member, made⟩

/-! ### Operands that are never looked at -/

/-- The operand of a key that occurs again is no last value. -/
theorem lastValues_overridden {before after : Fields} {key : String}
    (again : key ∈ after.map Prod.fst) (v w : Json) :
    lastValues (before ++ (key, v) :: after) = lastValues (before ++ (key, w) :: after) := by
  have found : (after.reverse.lookup key).isSome = true := by
    obtain ⟨entry, member, same⟩ := List.mem_map.1 again
    exact List.lookup_isSome_iff.2 ⟨entry, List.mem_reverse.2 member, by simp [same]⟩
  unfold lastValues
  simp only [List.map_append, List.map_cons, List.reverse_append, List.reverse_cons,
    List.append_assoc, List.lookup_append]
  apply List.filterMap_congr
  intro k _
  by_cases same : k = key
  · subst same
    rw [Option.or_of_isSome found, Option.or_of_isSome found]
  · simp [List.lookup_cons, beq_false_of_ne same]

/-- An occurrence of a key in the filter maps of a request, whatever its operand. -/
structure Occurrence where
  /-- The inputs before the one that the key occurs in. -/
  earlier : List Input
  permission : Permission
  /-- The entries before the key in its map. -/
  front : Fields
  key : String
  /-- The entries behind the key in its map. -/
  back : Fields
  /-- The inputs behind the one that the key occurs in. -/
  later : List Input

namespace Occurrence
variable (o : Occurrence)

/-- The map that the key occurs in, with an operand. -/
def fields (operand : Json) : Fields := o.front ++ (o.key, operand) :: o.back

/-- The filter maps of the request, with an operand of the key. -/
def inputs (operand : Json) : List Input :=
  o.earlier ++ ⟨.map (o.fields operand), o.permission⟩ :: o.later

/-- Whether the key occurs again behind the occurrence. -/
def IsOverridden : Prop :=
  o.key ∈ (o.back ++ o.later.flatMap fun i => i.value.fields).map Prod.fst

/-- Filter maps are admitted one after the other. -/
theorem admit_eq (r : Request) (operand : Json) :
    Request.admit { r with filters := o.inputs operand } = (do
      let earlier ← (o.earlier.filter fun i => !i.isAbsent).mapM (Input.fields "predicates")
      let here ← Input.fields "predicates" ⟨.map (o.fields operand), o.permission⟩
      let later ← (o.later.filter fun i => !i.isAbsent).mapM (Input.fields "predicates")
      let groups ← r.groups.zipIdx.mapM fun entry => entry.1.groupFields entry.2
      .ok ⟨earlier ++ here :: later, groups, r.sort⟩) := by
  have present : (Input.mk (.map (o.fields operand)) o.permission).isAbsent = false := by
    simp [Input.isAbsent, Json.kind]
  unfold Request.admit inputs
  simp [List.filter_append, present, List.mapM_append, List.mapM_cons, bind_assoc]

/-- Whether a request is admitted does not depend on the operand, and if it is, the operand stands
in its place. -/
theorem admit_inputs (r : Request) :
    (∃ e, ∀ operand, Request.admit { r with filters := o.inputs operand } = .error e) ∨
      ∃ earlier later groups, later.flatten = o.later.flatMap (fun i => i.value.fields) ∧
        ∀ operand, Request.admit { r with filters := o.inputs operand } =
          .ok ⟨earlier ++ o.fields operand :: later, groups, r.sort⟩ := by
  simp only [admit_eq]
  cases (o.earlier.filter fun i => !i.isAbsent).mapM (Input.fields "predicates") with
  | error e => exact .inl ⟨e, fun _ => rfl⟩
  | ok earlier =>
    cases allowed : o.permission.allowsUse with
    | false =>
      left
      refine ⟨(Cause.unpermitted "predicates").toError, fun operand => ?_⟩
      rw [Input.fields, allowed]
      rfl
    | true =>
      have here (operand : Json) :
          Input.fields "predicates" ⟨.map (o.fields operand), o.permission⟩ =
            .ok (o.fields operand) :=
        Input.fields_eq_ok_iff.2 ⟨allowed, rfl⟩
      simp only [here]
      cases found : (o.later.filter fun i => !i.isAbsent).mapM (Input.fields "predicates") with
      | error e => exact .inl ⟨e, fun _ => rfl⟩
      | ok later =>
        have rest := flatten_of_mapM_fields found
        cases r.groups.zipIdx.mapM fun entry => entry.1.groupFields entry.2 with
        | error e => exact .inl ⟨e, fun _ => rfl⟩
        | ok groups => exact .inr ⟨earlier, later, groups, rest, fun _ => rfl⟩

/-- Requests that differ in the operand of an overridden occurrence compile alike. -/
theorem compile_inputs {o : Occurrence} (again : o.IsOverridden) (c : Catalog) (s : Settings)
    (r : Request) (v w : Json) :
    c.compile s { r with filters := o.inputs v } =
      c.compile s { r with filters := o.inputs w } := by
  rcases o.admit_inputs r with ⟨e, refused⟩ | ⟨earlier, later, groups, rest, admitted⟩
  · rw [Catalog.compile_of_input_error (refused v), Catalog.compile_of_input_error (refused w)]
  · have merged : mergeFields (earlier ++ o.fields v :: later) =
        mergeFields (earlier ++ o.fields w :: later) := by
      have parts (operand : Json) : (earlier ++ o.fields operand :: later).flatten =
          (earlier.flatten ++ o.front) ++ (o.key, operand) :: (o.back ++ later.flatten) := by
        simp [fields]
      rw [mergeFields_eq, mergeFields_eq, parts, parts]
      apply lastValues_overridden
      rw [rest]
      exact again
    rw [Catalog.compile, Catalog.compile, admitted v, admitted w]
    have sized : Admitted.checkSize ⟨earlier ++ o.fields v :: later, groups, r.sort⟩ s.limits =
        Admitted.checkSize ⟨earlier ++ o.fields w :: later, groups, r.sort⟩ s.limits := by
      simp [Admitted.checkSize, Admitted.keyCount, fields]
    have recognized : c.recognize ⟨earlier ++ o.fields v :: later, groups, r.sort⟩ =
        c.recognize ⟨earlier ++ o.fields w :: later, groups, r.sort⟩ := by
      simp only [Catalog.recognize, merged]
    simp only [bind, Except.bind, sized, recognized]

end Occurrence

/-! ### The plan -/

/-- A request with too many keys fails with their number, in which each occurrence counts. -/
theorem Catalog.compile_of_too_many {c : Catalog} {s : Settings} {r : Request} {a : Admitted}
    (admitted : r.admit = .ok a) (many : s.limits.maxTotalPredicates < r.keyCount) :
    c.compile s r =
      .error (Cause.tooManyPredicates r.keyCount s.limits.maxTotalPredicates).toError := by
  have count : a.keyCount = r.keyCount := (admit_eq_ok admitted).keyCount_eq
  apply compile_of_size_error admitted
  rw [Admitted.checkSize, count, if_pos many]

/-- **Later values win in place.** A plan has one condition for each registered key of the filter
maps, in the order in which the keys first occur, and it is made of the operand that the key has
where it occurs last. Any other value could stand where the key occurs before that. Still each
occurrence counts against the ceiling. -/
theorem later_values_win (c : Catalog) (s : Settings) (r : Request) :
    (∀ p, c.compile s r = .ok p → r.keyCount ≤ s.limits.maxTotalPredicates ∧
      ∃ keys, c.predicates.ListsFirst r.filterFields keys ∧
        List.Forall₂ (c.predicates.CompilesLast s.limits r.filterFields) keys p.conditions) ∧
    (∀ (o : Occurrence) (v w : Json), o.IsOverridden → r.filters = o.inputs v →
      c.compile s { r with filters := o.inputs w } = c.compile s r) ∧
    ∀ a, r.admit = .ok a → s.limits.maxTotalPredicates < r.keyCount →
      c.compile s r =
        .error (Cause.tooManyPredicates r.keyCount s.limits.maxTotalPredicates).toError := by
  refine ⟨?_, ?_, ?_⟩
  · intro p made
    obtain ⟨a, stages⟩ := compile_eq_ok_iff.1 made
    exact ⟨stages.size_le.1, _, c.predicates.listsFirst_known r.filterFields, stages.compilesLast⟩
  · intro o v w again here
    have same : r = { r with filters := o.inputs v } := by rw [← here]
    rw [same]
    exact Occurrence.compile_inputs again c s r w v
  · intro a admitted many
    exact Catalog.compile_of_too_many admitted many

namespace Sample

/-- The first number of views in a request that is followed by another one. -/
def firstViews : Occurrence where
  earlier := [.inherent .null]
  permission := .inherent
  front := []
  key := "views_gt"
  back := [("title_eq", .text "Lean")]
  later := [.inherent (.map [("title_eq", .text "Rocq"), ("colour_eq", .text "red")]),
    .inherent (.map [("views_gt", .int 3)])]

/-- The request with an operand in the first place. -/
def revised (operand : Json) : Request := { filters := firstViews.inputs operand }

/-- What it compiles to. -/
def revisedPlan : Plan :=
  ⟨[⟨"views", .gt, .one (.int 3)⟩, ⟨"title", .eq, .one (.text "Rocq")⟩], [], [],
    ⟨1, 25, 25, 0⟩, [⟨"colour_eq", .unknownPredicate, none⟩]⟩

end Sample

open Sample in
/-- A list in the first place does not matter, though it is no number of views. -/
theorem revised_wins :
    articles.catalog.compile {} (revised (.int 1)) = .ok revisedPlan ∧ firstViews.IsOverridden ∧
      articles.catalog.compile {} (revised (.list [])) = .ok revisedPlan ∧
      ∃ keys, articles.catalog.predicates.ListsFirst (revised (.int 1)).filterFields keys ∧
        List.Forall₂ (articles.catalog.predicates.CompilesLast ({} : Settings).limits
          (revised (.int 1)).filterFields) keys revisedPlan.conditions := by
  have compiled : articles.catalog.compile {} (revised (.int 1)) = .ok revisedPlan := rfl
  have again : firstViews.IsOverridden := by
    unfold Occurrence.IsOverridden
    decide
  obtain ⟨planned, ignored, -⟩ := later_values_win articles.catalog {} (revised (.int 1))
  refine ⟨compiled, again, ?_, (planned _ compiled).2⟩
  rw [← compiled]
  exact ignored firstViews (.int 1) (.list []) again rfl

end QueryPlan
