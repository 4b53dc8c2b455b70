import QueryPlan.Proofs.Merging
import QueryPlan.Proofs.Rendering
import QueryPlan.Proofs.Stages

/-!
# Values are bound, never written

Two requests are alike if they have the same keys in the same maps, the same sort keys and the same
page, while their operands may be any values; only the truth value of a flag and the length of a
list must agree. Alike requests that compile give plans with the same statement text in every
dialect (`alike_requests_same_text`). Both runs reach the same plan once every value in it is
masked (`masked_eq_of_alike`), and rendering cannot see through the mask.
-/

namespace QueryPlan
set_option autoImplicit false
open Sql

/-- The number of items of a list; other values have none. -/
def Json.itemCount? : Json → Option Nat
  | .list items => some items.length
  | _ => none

/-- What two operands of a kind must have in common: flags their truth value and lists their length,
all others nothing. -/
def OperandForm.Alike : OperandForm → Json → Json → Prop
  | .flag _, v, w => Coercion.boolean? v = Coercion.boolean? w
  | .list, v, w => v.itemCount? = w.itemCount?
  | _, _, _ => True

/-- What two operands of a key must have in common: nothing if the key is not recognized. -/
def PredicateRegistry.Alike (r : PredicateRegistry) (key : String) (v w : Json) : Prop :=
  ∀ pair, r.parseKey key = some pair → pair.2.form.Alike v w

/-- Requests that differ in operand values only. Of the values at the top level those count that are
not overridden by a later map. -/
structure Request.Alike (c : Catalog) (r s : Request) : Prop where
  filterKeys : r.filters.Forall₂
    (fun i j => i.value.fields.map Prod.fst = j.value.fields.map Prod.fst) s.filters
  groupKeys : r.groups.Forall₂
    (fun i j => i.value.fields.map Prod.fst = j.value.fields.map Prod.fst) s.groups
  filterValues : ∀ key v w, (key, v) ∈ lastValues r.filterFields →
    (key, w) ∈ lastValues s.filterFields → c.predicates.Alike key v w
  groupValues : r.groups.Forall₂
    (fun i j => i.value.fields.Forall₂ (fun a b => c.predicates.Alike a.1 a.2 b.2) j.value.fields)
    s.groups
  sort : r.sort = s.sort
  page : r.page = s.page
  perPage : r.perPage = s.perPage

/-- What stands for every value when values do not matter. -/
def mask : Value → Value := fun _ => .bool false

/-! ### Conditions -/

/-- The condition of a key but for its values: all that its operand decides is the truth value of a
flag and the length of a list. -/
def KnownKey.masked (k : KnownKey) : Condition :=
  match k.kind.form with
  | .scalar | .pattern _ => k.holding k.kind (.one (.bool false))
  | .range => k.holding k.kind (.range (.bool false) (.bool false))
  | .list =>
    k.holding k.kind (.list (List.replicate (k.operand.itemCount?.getD 0) (.bool false)))
  | .flag opposite =>
    k.holding (if Coercion.boolean? k.operand = some true then k.kind else opposite) .none

theorem map_mask (values : List Value) :
    values.map mask = List.replicate values.length (.bool false) := List.map_const'

theorem condition_masked {limits : RequestLimits} {k : KnownKey} {c : Condition}
    (h : k.condition limits = .ok c) : c.rebind mask = k.masked := by
  unfold KnownKey.masked
  cases KnownKey.condition_eq_ok h with
  | scalar form _ => rw [form]; rfl
  | pattern form _ => rw [form]; rfl
  | range form _ _ _ => rw [form]; rfl
  | list form operand _ _ values =>
    have same := (mapM_eq_ok_iff.1 values).length_eq
    rw [form, operand]
    simp [KnownKey.holding, Condition.rebind, Operand.rebind, Json.itemCount?, map_mask, same]
  | flag form on =>
    rw [form, Coercion.flag_eq_ok_iff.1 on]
    simp [KnownKey.holding, Condition.rebind, Operand.rebind]

theorem masked_congr {key : String} {field : FieldSpec} {kind : PredicateKind} {v w : Json}
    (alike : kind.form.Alike v w) :
    KnownKey.masked ⟨key, field, kind, v⟩ = KnownKey.masked ⟨key, field, kind, w⟩ := by
  unfold KnownKey.masked
  cases form : kind.form <;> simp_all [OperandForm.Alike, KnownKey.holding]

/-! ### Recognition -/

/-- Entries with alike operands under the same keys are recognized as the same conditions. -/
theorem known_masked_congr {r : PredicateRegistry} {fields others : Fields}
    (alike : fields.Forall₂ (fun a b => a.1 = b.1 ∧ r.Alike a.1 a.2 b.2) others) :
    (r.known fields).map KnownKey.masked = (r.known others).map KnownKey.masked := by
  induction alike with
  | nil => rfl
  | @cons a b fields others head _ ih =>
    obtain ⟨key, v⟩ := a
    obtain ⟨_, w⟩ := b
    obtain ⟨rfl, operand⟩ := head
    simp only at operand
    unfold PredicateRegistry.known at ih ⊢
    cases h : r.parseKey key with
    | none => simpa [h] using ih
    | some pair => simp [h, ih, masked_congr (operand pair h)]

theorem groups_unknown_eq (r : PredicateRegistry) (groups : List Fields) :
    (groups.zipIdx.flatMap fun entry => r.unknown (some entry.2) entry.1) =
      (groups.map (List.map Prod.fst)).zipIdx.flatMap fun entry =>
        (entry.1.filter fun key => (r.parseKey key).isNone).map (.filter · (some entry.2)) := by
  rw [List.zipIdx_map, List.flatMap_map]
  simp only [unknown_eq]
  rfl

theorem map_fst_filterFields (r : Request) :
    r.filterFields.map Prod.fst =
      (r.filters.map fun i => i.value.fields.map Prod.fst).flatten := by
  rw [Request.filterFields, List.map_flatMap, List.flatMap_def]

namespace Request.Alike
variable {c : Catalog} {r s : Request}

/-- Merging leaves the same keys on both sides. -/
theorem lastValues_keys (alike : r.Alike c s) :
    (lastValues r.filterFields).map Prod.fst = (lastValues s.filterFields).map Prod.fst := by
  rw [map_fst_lastValues, map_fst_lastValues, map_fst_filterFields, map_fst_filterFields,
    forall₂_eq_iff_map_eq.1 alike.filterKeys]

theorem groups_keys (alike : r.Alike c s) :
    r.groupFields.map (List.map Prod.fst) = s.groupFields.map (List.map Prod.fst) := by
  have same := forall₂_eq_iff_map_eq.1 alike.groupKeys
  simpa [groupFields, Function.comp_def] using same

/-- The top level is recognized as the same conditions but for their values. -/
theorem filters_masked (alike : r.Alike c s) :
    (c.predicates.known (lastValues r.filterFields)).map KnownKey.masked =
      (c.predicates.known (lastValues s.filterFields)).map KnownKey.masked := by
  apply known_masked_congr
  obtain ⟨length, keys⟩ := List.forall₂_iff_zip.1 (forall₂_eq_iff_map_eq.2 alike.lastValues_keys)
  refine List.forall₂_iff_zip.2 ⟨length, fun {a b} hab => ?_⟩
  have same := keys hab
  obtain ⟨ha, hb⟩ := List.of_mem_zip hab
  refine ⟨same, alike.filterValues a.1 a.2 b.2 ha ?_⟩
  rw [same]
  exact hb

/-- Each OR-group is recognized as the same conditions but for their values. -/
theorem groups_masked (alike : r.Alike c s) :
    (r.groupFields.map c.predicates.known).map (List.map KnownKey.masked) =
      (s.groupFields.map c.predicates.known).map (List.map KnownKey.masked) := by
  have each (i j : Input)
      (keys : i.value.fields.map Prod.fst = j.value.fields.map Prod.fst)
      (values : i.value.fields.Forall₂ (fun a b => c.predicates.Alike a.1 a.2 b.2) j.value.fields) :
      (c.predicates.known i.value.fields).map KnownKey.masked =
        (c.predicates.known j.value.fields).map KnownKey.masked :=
    known_masked_congr ((forall₂_eq_iff_map_eq.2 keys).mp (fun _ _ h k => ⟨h, k⟩) values)
  have same := forall₂_eq_iff_map_eq.1 (alike.groupKeys.mp each alike.groupValues)
  simpa [groupFields, Function.comp_def] using same

end Request.Alike

/-! ### Compilation -/

theorem conditionsOf_masked {limits : RequestLimits} {keys : List KnownKey}
    {conditions : List Condition} (h : conditionsOf limits keys = .ok conditions) :
    conditions.map (Condition.rebind mask) = keys.map KnownKey.masked :=
  map_eq_map_of_mapM_ok (fun _ _ => condition_masked) h

/-- A group without conditions is one without keys, so masking tells which groups are left out. -/
theorem groupsOf_masked {limits : RequestLimits} {groups : List (List KnownKey)}
    {conditions : List (List Condition)} (h : groupsOf limits groups = .ok conditions) :
    conditions.map (List.map (Condition.rebind mask)) =
      (groups.map (List.map KnownKey.masked)).filter fun g => !g.isEmpty := by
  rw [map_eq_map_of_mapM_ok (fun _ _ => conditionsOf_masked) h, List.filter_map]
  simp [Function.comp_def]

/-- What a successful compilation leaves when values do not matter. -/
theorem rebind_mask_of_stages {c : Catalog} {settings : Settings} {r : Request} {a : Admitted}
    {p : Plan} (h : c.Stages settings r a p) :
    p.rebind mask =
      { conditions := (c.predicates.known (lastValues r.filterFields)).map KnownKey.masked
        groups := ((r.groupFields.map c.predicates.known).map (List.map KnownKey.masked)).filter
          fun g => !g.isEmpty
        order := c.sorts.known r.sort
        window := p.window
        dropped := p.dropped } := by
  obtain ⟨filters, groups, -, sort⟩ := admit_eq_ok h.admitted
  have conditions := conditionsOf_masked h.conditions
  have others := groupsOf_masked h.groups
  simp only [Catalog.recognize, mergeFields_eq, filters, groups] at conditions others
  rw [Plan.rebind, conditions, others, h.order, Catalog.recognize, sort]

theorem unknown_keys_congr {c : Catalog} {r s : Request} {a b : Admitted} (alike : r.Alike c s)
    (ha : r.Admits a) (hb : s.Admits b) : (c.recognize a).unknown = (c.recognize b).unknown := by
  unfold Catalog.recognize
  simp only
  rw [groups_unknown_eq, groups_unknown_eq, mergeFields_eq, mergeFields_eq, unknown_eq, unknown_eq,
    ha.filters, hb.filters, ha.groups, hb.groups, ha.sort, hb.sort, alike.lastValues_keys,
    alike.groups_keys, alike.sort]

/-- Alike requests that compile reach the same plan once values do not matter. -/
theorem masked_eq_of_alike {c : Catalog} {settings : Settings} {r s : Request} {p q : Plan}
    (alike : r.Alike c s) (hp : c.compile settings r = .ok p) (hq : c.compile settings s = .ok q) :
    p.rebind mask = q.rebind mask := by
  obtain ⟨a, ha⟩ := compile_eq_ok_iff.1 hp
  obtain ⟨b, hb⟩ := compile_eq_ok_iff.1 hq
  have window : p.window = q.window := by
    have same := ha.window
    rw [alike.page, alike.perPage, hb.window] at same
    exact (Except.ok.inj same).symm
  have dropped : p.dropped = q.dropped := by
    rw [ha.dropped, hb.dropped,
      unknown_keys_congr alike (admit_eq_ok ha.admitted) (admit_eq_ok hb.admitted)]
  rw [rebind_mask_of_stages ha, rebind_mask_of_stages hb, alike.filters_masked, alike.groups_masked,
    alike.sort, window, dropped]

/-- Plans that differ in their values only are rendered alike: `s` is a way to render plans that
moves values without looking at them. -/
theorem text_and_params_congr {p q : Plan} (same : p.rebind mask = q.rebind mask)
    {s : Plan → Statement} (natural : ∀ p, s (p.rebind mask) = (s p).rebind mask) (d : Dialect) :
    (s p).text d = (s q).text d ∧ (s p).params.length = (s q).params.length := by
  have pieces : (s p).rebind mask = (s q).rebind mask := by rw [← natural, ← natural, same]
  constructor
  · have text := congrArg (Statement.textFrom d 0) pieces
    rwa [Statement.textFrom_rebind, Statement.textFrom_rebind] at text
  · have params := congrArg (fun t => (Statement.params t).length) pieces
    simpa [Statement.params_rebind] using params

/-- **Values never reach the text.** Requests that differ in their operand values only and that
compile give statements with the same text, to select and to count, and with as many parameters. -/
theorem alike_requests_same_text {e : EntityType} {settings : Settings} {r s : Request} {p q : Plan}
    (alike : r.Alike e.catalog s) (hp : e.compile settings r = .ok p)
    (hq : e.compile settings s = .ok q) (table : String) (d : Dialect) :
    ((p.select table d).text d = (q.select table d).text d ∧
      (p.select table d).params.length = (q.select table d).params.length) ∧
    ((p.count table).text d = (q.count table).text d ∧
      (p.count table).params.length = (q.count table).params.length) := by
  rw [EntityType.compile_eq_ok_iff, ← compile_eq_ok_iff] at hp hq
  have same := masked_eq_of_alike alike hp hq
  constructor
  · exact text_and_params_congr (s := fun p => p.select table d) same
      (fun p => p.select_rebind mask table d) d
  · exact text_and_params_congr (s := fun p => p.count table) same
      (fun p => p.count_rebind mask table) d

namespace Sample

/-- A search for articles by a part of the title, by whether views are missing, and by a list of
numbers of views. -/
def search (title : String) (missing : Json) (views : List Json) : Request where
  filters := [.inherent (.map [("title_contains", .text title), ("views_null", missing)])]
  groups := [.inherent (.map [("views_in", .list views)])]
  sort := ["title:asc"]

/-- The plan of a search for articles of which the views are not missing. -/
def searchPlan (pattern : String) (views : List Value) : Plan where
  conditions := [⟨"title", .contains, .one (.text pattern)⟩, ⟨"views", .notNull, .none⟩]
  groups := [[⟨"views", .isIn, .list views⟩]]
  order := [⟨"title", .asc, none, false⟩]
  window := ⟨1, 25, 25, 0⟩
  dropped := []

theorem search_alike {title other : String} {missing given : Json} {views counts : List Json}
    (flag : Coercion.boolean? missing = Coercion.boolean? given)
    (length : views.length = counts.length) :
    (search title missing views).Alike articles.catalog (search other given counts) where
  filterKeys := .cons rfl .nil
  groupKeys := .cons rfl .nil
  filterValues := by
    intro key v w hv hw pair hp
    rw [show lastValues (search title missing views).filterFields =
      [("title_contains", .text title), ("views_null", missing)] from rfl] at hv
    rw [show lastValues (search other given counts).filterFields =
      [("title_contains", .text other), ("views_null", given)] from rfl] at hw
    have title_key : articles.catalog.predicates.parseKey "title_contains" =
      some (⟨"title", .string, false⟩, .contains) := rfl
    have views_key : articles.catalog.predicates.parseKey "views_null" =
      some (⟨"views", .numeric, true⟩, .null) := rfl
    simp only [List.mem_cons, Prod.mk.injEq, List.not_mem_nil, or_false] at hv hw
    obtain ⟨rfl, rfl⟩ | ⟨rfl, rfl⟩ := hv
    · cases title_key.symm.trans hp
      exact trivial
    · cases views_key.symm.trans hp
      obtain ⟨absurd, -⟩ | ⟨-, rfl⟩ := hw
      · exact nomatch absurd
      · exact flag
  groupValues := by
    refine .cons (.cons (fun pair hp => ?_) .nil) .nil
    have views_key : articles.catalog.predicates.parseKey "views_in" =
      some (⟨"views", .numeric, true⟩, .isIn) := rfl
    cases views_key.symm.trans hp
    exact congrArg some length
  sort := rfl
  page := rfl
  perPage := rfl

end Sample

open Sample in
/-- A harmless search and an attack are alike: the attack's text is bound like any other. -/
theorem attack_same_text :
    let r := search "rust" (.bool false) [.int 3, .int 4]
    let s := search "' OR 1 = 1; --" (.text " FALSE ") [.text "5", .int 6]
    let p := searchPlan "%rust%" [.int 3, .int 4]
    let q := searchPlan "%' OR 1 = 1; --%" [.int 5, .int 6]
    r.Alike articles.catalog s ∧ articles.compile {} r = .ok p ∧ articles.compile {} s = .ok q ∧
      (p.select "articles" .mysql).text .mysql = (q.select "articles" .mysql).text .mysql ∧
      (p.count "articles").text .mysql = (q.count "articles").text .mysql := by
  intro r s p q
  have alike : r.Alike articles.catalog s := search_alike rfl rfl
  have hp : articles.compile {} r = .ok p := rfl
  have hq : articles.compile {} s = .ok q := rfl
  have same := alike_requests_same_text alike hp hq "articles" .mysql
  exact ⟨alike, hp, hq, same.1.1, same.2.1⟩

end QueryPlan
