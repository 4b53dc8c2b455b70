import QueryPlan.Proofs.Stages

/-!
# Envelopes

What a field of an envelope adds to a request, told from its key (`addField_eq_ok_iff`), and how it
is refused: the error is about the shape of the request and names the key (`blames_addField`). The
outcome of an envelope is that of the request that is read from it, or else the error of reading it
(`EntityType.compileEnvelope`).
-/

namespace QueryPlan
set_option autoImplicit false

/-! ### Fields -/

namespace Request
variable {permission : Permission} {r r' : Request} {field : String × Json} {fields : Fields}

/-- What a field of an envelope adds to a request. -/
inductive Adds (permission : Permission) (r : Request) : String × Json → Request → Prop where
  | filters (v : Json) : Adds permission r ("filters", v) (r.addFilters ⟨v, permission⟩)
  | groups (items : List Json) : Adds permission r ("or", .list items)
      { r with groups := r.groups ++ items.map fun item => ⟨item, permission⟩ }
  | sort {v : Json} {sort : List String} (read : sortKeys "sort" v = .ok sort) :
    Adds permission r ("sort", v) { r with sort := sort }
  | page {v : Json} {page : Option Int} (read : integerField "page" v = .ok page) :
    Adds permission r ("page", v) { r with page := page }
  | perPage {v : Json} {perPage : Option Int} (read : integerField "per_page" v = .ok perPage) :
    Adds permission r ("per_page", v) { r with perPage := perPage }

theorem groupItems_eq_ok_iff {key : String} {v : Json} {items : List Json} :
    groupItems key v = .ok items ↔ v = .list items := by
  unfold groupItems
  split <;> simp_all

theorem addField_eq_ok_iff : addField permission r field = .ok r' ↔ Adds permission r field r' := by
  constructor
  · intro added
    obtain ⟨key, v⟩ := field
    simp only [addField] at added
    split at added
    case h_1 =>
      cases added
      exact .filters v
    case h_6 => cases added
    all_goals
      obtain ⟨found, read, added⟩ := bind_eq_ok_iff.1 added
      cases added
    · rw [groupItems_eq_ok_iff.1 read]
      exact .groups found
    · exact .sort read
    · exact .page read
    · exact .perPage read
  · intro adds
    cases adds with
    | filters v => rfl
    | groups items => rfl
    | sort read => exact bind_eq_ok_iff.2 ⟨_, read, rfl⟩
    | page read => exact bind_eq_ok_iff.2 ⟨_, read, rfl⟩
    | perPage read => exact bind_eq_ok_iff.2 ⟨_, read, rfl⟩

/-! ### Errors -/

/-- An error about the shape of a request that names a key of the envelope. -/
def Blames (key : String) (e : QueryError) : Prop :=
  ∃ fault : ShapeFault, e = shapeError fault ∧ fault.key? = some key

theorem Blames.report {key : String} {e : QueryError} (h : Blames key e) :
    e.code = .requestShape ∧ e.key = some key := by
  obtain ⟨fault, rfl, named⟩ := h
  exact ⟨rfl, named⟩

theorem blames_groupItems {key : String} {v : Json} {e : QueryError}
    (failed : groupItems key v = .error e) : Blames key e := by
  unfold groupItems at failed
  split at failed
  · cases failed
  · cases failed
    exact ⟨_, rfl, rfl⟩

theorem blames_sortKeys {key : String} {v : Json} {e : QueryError}
    (failed : sortKeys key v = .error e) : Blames key e := by
  unfold sortKeys at failed
  split at failed
  case h_1 | h_2 => cases failed
  case h_3 items =>
    have first : fault? (sortKeysOfItems key items) = some e := by
      rw [failed]
      rfl
    rw [sortKeysOfItems, fault?_mapM] at first
    obtain ⟨item, -, fault⟩ := List.exists_of_findSome?_eq_some first
    split at fault
    · cases fault
    · cases fault
      exact ⟨_, rfl, rfl⟩
  case h_4 =>
    cases failed
    exact ⟨_, rfl, rfl⟩

theorem blames_integerField {key : String} {v : Json} {e : QueryError}
    (failed : integerField key v = .error e) : Blames key e := by
  unfold integerField at failed
  split at failed
  · cases failed
  · split at failed
    · cases failed
    · cases failed
      exact ⟨_, rfl, rfl⟩

/-- A field that is refused is named by the error. -/
theorem blames_addField {e : QueryError} (failed : addField permission r field = .error e) :
    Blames field.1 e := by
  obtain ⟨key, v⟩ := field
  simp only [addField] at failed
  split at failed
  case h_1 => cases failed
  case h_6 =>
    cases failed
    exact ⟨_, rfl, rfl⟩
  all_goals
    obtain failed | ⟨found, -, added⟩ := bind_eq_error_iff.1 failed
    case inr => cases added
  · exact blames_groupItems failed
  · exact blames_sortKeys failed
  · exact blames_integerField failed
  · exact blames_integerField failed

/-- An envelope is refused for one of its fields. -/
theorem blames_foldlM {e : QueryError}
    (failed : fields.foldlM (addField permission) r = .error e) :
    ∃ key ∈ fields.map Prod.fst, Blames key e := by
  induction fields generalizing r with
  | nil => cases failed
  | cons field fields ih =>
    rw [List.foldlM_cons] at failed
    obtain first | ⟨next, -, later⟩ := bind_eq_error_iff.1 failed
    · exact ⟨field.1, List.mem_cons_self, blames_addField first⟩
    · obtain ⟨key, member, blamed⟩ := ih later
      exact ⟨key, List.mem_cons_of_mem _ member, blamed⟩

/-! ### Whole envelopes -/

theorem ofEnvelope_map (usable : permission.allowsUse = true) (fields : Fields) :
    ofEnvelope ⟨.map fields, permission⟩ = fields.foldlM (addField permission) {} :=
  if_pos usable

theorem ofEnvelope_unusable (unusable : permission.allowsUse = false) (v : Json) :
    ofEnvelope ⟨v, permission⟩ = .error (Cause.unpermitted "request parameters").toError := by
  unfold ofEnvelope
  rw [unusable]
  rfl

/-- An envelope that is read may be used. -/
theorem usable_of_ofEnvelope {v : Json} (read : ofEnvelope ⟨v, permission⟩ = .ok r) :
    permission.allowsUse = true := by
  cases usable : permission.allowsUse with
  | true => rfl
  | false =>
    rw [ofEnvelope_unusable usable] at read
    cases read

/-- Fields at the end are added to the request of those before them. -/
theorem ofEnvelope_append (usable : permission.allowsUse = true) (before after : Fields) :
    ofEnvelope ⟨.map (before ++ after), permission⟩ =
      ofEnvelope ⟨.map before, permission⟩ >>= after.foldlM (addField permission) := by
  rw [ofEnvelope_map usable, ofEnvelope_map usable, List.foldlM_append]

/-- What an envelope is refused for does not depend on the fields behind it. -/
theorem ofEnvelope_append_of_error {before : Fields} {e : QueryError}
    (refused : ofEnvelope ⟨.map before, permission⟩ = .error e) (after : Fields) :
    ofEnvelope ⟨.map (before ++ after), permission⟩ = .error e := by
  cases usable : permission.allowsUse with
  | false =>
    rw [← refused, ofEnvelope_unusable usable, ofEnvelope_unusable usable]
  | true =>
    rw [ofEnvelope_append usable, refused]
    rfl

end Request

/-- The outcome of an envelope: the plan of the request that is read from it. -/
def EntityType.compileEnvelope (e : EntityType) (s : Settings) (input : Input) :
    Except QueryError Plan := do
  let r ← Request.ofEnvelope input
  e.compile s r

end QueryPlan
