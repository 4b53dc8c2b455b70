import QueryPlan.Proofs.Envelopes
import QueryPlan.Proofs.Strictness

/-!
# Permission

Parameters from an untrusted boundary may be used only once they are permitted, and what is taken
from them is as permitted as they are (`Params.Obtained`). A request loses none of its inputs when
more is added to it (`Request.mem_slots_after`), so parameters that were never permitted make every
compilation fail, whatever their value is and whatever stands beside them (`unpermitted_refused`).
-/

namespace QueryPlan
set_option autoImplicit false

/-! ### Parameters -/

namespace Params

/-- Parameters as a caller comes by them. The flag tells whether they, or the ones that they were
taken from, were ever permitted. -/
inductive Obtained : Bool → Params → Prop where
  | arrived (value : Json) : Obtained false (ofJson value)
  | permit {flag : Bool} {p : Params} (h : Obtained flag p) : Obtained true p.permit
  | get {flag : Bool} {p q : Params} {key : String} (h : Obtained flag p)
      (found : p.get? key = some q) : Obtained flag q

/-- Parameters remember whether they were permitted. -/
theorem Obtained.permitted_eq {flag : Bool} {p : Params} (h : p.Obtained flag) :
    p.permitted = flag := by
  induction h with
  | arrived value => rfl
  | permit h ih => rfl
  | get h found ih =>
    obtain ⟨value, -, rfl⟩ := Option.map_eq_some_iff.1 found
    exact ih

theorem Obtained.permission_eq {flag : Bool} {p : Params} (h : p.Obtained flag) :
    p.input.permission = if flag then .permitted else .unpermitted := by
  rw [← h.permitted_eq]
  rfl

end Params

namespace Request

/-! ### The inputs of a request -/

/-- An input with the place that it has in a request. -/
inductive Slot where
  | filters (input : Input)
  | group (input : Input)

namespace Slot

/-- The input itself. -/
def input : Slot → Input
  | filters input => input
  | group input => input

/-- Whether the input may be used. -/
def mayBeUsed (s : Slot) : Bool := s.input.permission.allowsUse

/-- Whether the input has the shape that its place asks for. -/
def isShaped : Slot → Bool
  | filters input => Input.isFilterMap input.value
  | group input => Input.isGroupMap input.value

/-- The fault of the input in its place. -/
def fault? (s : Slot) : Option Report :=
  if !s.mayBeUsed then some ⟨.unpermittedInput, none⟩
  else if !s.isShaped then some ⟨.requestShape, none⟩
  else none

end Slot

/-- The inputs of a request in the order in which they are looked at. -/
def slots (r : Request) : List Slot := r.filters.map .filters ++ r.groups.map .group

/-- The inputs without their places. -/
def inputs (r : Request) : List Input := r.filters ++ r.groups

theorem inputFault?_eq (r : Request) : r.inputFault? = r.slots.findSome? Slot.fault? := by
  rw [slots, List.findSome?_append, List.findSome?_map, List.findSome?_map]
  rfl

/-- The code of the failure that an unpermitted input causes: what stands before it is looked at
first. -/
def refusal (slots : List Slot) : ErrorCode :=
  if (slots.takeWhile Slot.mayBeUsed).all Slot.isShaped then .unpermittedInput else .requestShape

/-- Among inputs of which one may not be used, the first fault is that one's or that of a malformed
input before it. -/
theorem findSome?_fault? {slots : List Slot} {s : Slot} (held : s ∈ slots)
    (refused : s.mayBeUsed = false) :
    slots.findSome? Slot.fault? = some ⟨refusal slots, none⟩ := by
  induction slots with
  | nil => cases held
  | cons first rest ih =>
    rw [List.findSome?_cons, Slot.fault?, refusal]
    cases usable : first.mayBeUsed with
    | false => rw [List.takeWhile_cons_of_neg (by simp [usable])]; rfl
    | true =>
      -- An input that may be used is at fault only for its shape, and is not the one in question.
      have later : s ∈ rest := by
        rcases List.mem_cons.1 held with rfl | later
        · exact absurd usable (by simp [refused])
        · exact later
      rw [List.takeWhile_cons_of_pos usable, List.all_cons, ih later]
      cases first.isShaped <;> rfl

/-! ### Building requests -/

/-- One more thing to ask for. -/
inductive Call where
  | filters (source : Input)
  | filter (key : String) (operand : Json)
  | group (source : Input)
  | sort (key : String)
  | page (number : Int)
  | perPage (number : Int)

/-- The input that is added. -/
def Call.slot? : Call → Option Slot
  | filters source => some (.filters source)
  | filter key operand => some (.filters (.inherent (.map [(key, operand)])))
  | group source => some (.group source)
  | _ => none

/-- The request with one more thing asked for. -/
def apply (r : Request) : Call → Request
  | .filters source => r.addFilters source
  | .filter key operand => r.addFilter key operand
  | .group source => r.addGroup source
  | .sort key => r.addSort key
  | .page number => r.withPage number
  | .perPage number => r.withPerPage number

/-- The request with more things asked for, one after the other. -/
def after (r : Request) (calls : List Call) : Request := calls.foldl apply r

theorem mem_slots_addFilters (r : Request) (input : Input) (s : Slot) :
    s ∈ (r.addFilters input).slots ↔ s ∈ r.slots ∨ s = .filters input := by
  simp only [addFilters, slots, List.map_append, List.map_cons, List.map_nil, List.mem_append,
    List.mem_singleton]
  exact or_right_comm

theorem mem_slots_addGroup (r : Request) (input : Input) (s : Slot) :
    s ∈ (r.addGroup input).slots ↔ s ∈ r.slots ∨ s = .group input := by
  simp only [addGroup, slots, List.map_append, List.map_cons, List.map_nil, List.mem_append,
    List.mem_singleton, or_assoc]

/-- A call adds its input and takes none away. -/
theorem mem_slots_apply (r : Request) (call : Call) (s : Slot) :
    s ∈ (r.apply call).slots ↔ s ∈ r.slots ∨ call.slot? = some s := by
  cases call with
  | filters source =>
    rw [Call.slot?, Option.some.injEq, eq_comm]
    exact r.mem_slots_addFilters source s
  | filter key operand =>
    rw [Call.slot?, Option.some.injEq, eq_comm]
    exact r.mem_slots_addFilters _ s
  | group source =>
    rw [Call.slot?, Option.some.injEq, eq_comm]
    exact r.mem_slots_addGroup source s
  | sort _ | page _ | perPage _ => exact ⟨.inl, fun h => h.resolve_right nofun⟩

/-- A request holds the inputs that it was built from. -/
theorem mem_slots_after (r : Request) (calls : List Call) (s : Slot) :
    s ∈ (r.after calls).slots ↔ s ∈ r.slots ∨ ∃ call ∈ calls, call.slot? = some s := by
  unfold after
  induction calls generalizing r with
  | nil => simp
  | cons call calls ih => simp [ih, mem_slots_apply, or_assoc]

/-! ### Failure and envelopes -/

/-- Whether no catalog and no entity type has a plan for a request under any settings: they all
fail with the same code. -/
structure FailsWith (r : Request) (code : ErrorCode) : Prop where
  /-- The failure under the registries of a catalog. -/
  catalog : ∀ (c : Catalog) (s : Settings), ∃ e, c.compile s r = .error e ∧ e.code = code
  /-- The failure for an entity type, which its error names. -/
  entity : ∀ (t : EntityType) (s : Settings), ∃ e, t.compile s r = .error e ∧ e.code = code

/-- Admission comes first, so a fault of the inputs is the outcome everywhere. -/
theorem failsWith_of_inputFault? {r : Request} {report : Report}
    (fault : r.inputFault? = some report) : r.FailsWith report.code := by
  have catalog (c : Catalog) (s : Settings) :
      ∃ e, c.compile s r = .error e ∧ e.code = report.code := by
    have outcome : reported (c.compile s r) = some report := by
      rw [reported_compile, Catalog.firstFault?, fault, Option.some_or]
    cases failed : c.compile s r with
    | ok p => rw [failed] at outcome; cases outcome
    | error e =>
      rw [failed] at outcome
      exact ⟨e, rfl, congrArg Report.code (Option.some.inj outcome)⟩
  refine ⟨catalog, fun t s => ?_⟩
  obtain ⟨e, failed, code⟩ := catalog t.catalog s
  exact ⟨e.tagged t.name, mapError_eq_error_iff.2 ⟨e, failed, rfl⟩,
    (e.code_tagged t.name).trans code⟩

/-- A field of an envelope adds no input but with the permission of the envelope. -/
theorem permission_addField {permission : Permission} {r r' : Request} {field : String × Json}
    (added : addField permission r field = .ok r')
    (all : ∀ i ∈ r.inputs, i.permission = permission) :
    ∀ i ∈ r'.inputs, i.permission = permission := by
  obtain ⟨filters, groups⟩ := List.forall_mem_append.1 all
  cases addField_eq_ok_iff.1 added with
  | filters v =>
    exact List.forall_mem_append.2 ⟨List.forall_mem_append.2 ⟨filters, by simp⟩, groups⟩
  | groups items =>
    exact List.forall_mem_append.2 ⟨filters, List.forall_mem_append.2 ⟨groups, by simp⟩⟩
  -- Sort keys and page numbers are no inputs.
  | sort read | page read | perPage read => exact all

theorem permission_foldlM {permission : Permission} {r r' : Request} {fields : Fields}
    (added : fields.foldlM (addField permission) r = .ok r')
    (all : ∀ i ∈ r.inputs, i.permission = permission) :
    ∀ i ∈ r'.inputs, i.permission = permission :=
  foldlM_invariant (fun _ _ _ _ kept step => permission_addField step kept) all added

/-- The inputs of an envelope's request are permitted as much as the envelope is. -/
theorem permission_ofEnvelope {input : Input} {r : Request} (read : ofEnvelope input = .ok r) :
    ∀ i ∈ r.inputs, i.permission = input.permission := by
  unfold ofEnvelope at read
  split at read
  · split at read
    · exact permission_foldlM read (by simp [inputs])
    · cases read
  · cases read

/-- An envelope that was never permitted is refused before it is looked at. -/
theorem ofEnvelope_unpermitted {input : Input} (refused : input.permission = .unpermitted) :
    ∃ e, ofEnvelope input = .error e ∧ e.code = .unpermittedInput := by
  unfold ofEnvelope
  rw [refused]
  exact ⟨_, rfl, rfl⟩

end Request

/-- **Unpermitted input never reaches a plan.** A request with an input from parameters that were
never permitted fails everywhere, whenever the input was added and whatever its value is; as an
envelope such parameters are refused outright. A permitted envelope permits every map of its
request. -/
theorem unpermitted_refused :
    (∀ p : Params, p.Obtained false →
      (∀ (start : Request) (calls : List Request.Call),
        .filters p.input ∈ calls ∨ .group p.input ∈ calls →
        (start.after calls).FailsWith (Request.refusal (start.after calls).slots)) ∧
      ∃ e, Request.ofEnvelope p.input = .error e ∧ e.code = .unpermittedInput) ∧
    ∀ p : Params, p.Obtained true → ∀ r, Request.ofEnvelope p.input = .ok r →
      ∀ i ∈ r.inputs, i.permission = .permitted := by
  refine ⟨fun p never => ⟨fun start calls given => ?_, ?_⟩, fun p permitted r read i held => ?_⟩
  · have refused : p.input.permission.allowsUse = false := by
      rw [never.permission_eq]
      rfl
    obtain ⟨s, held, unusable⟩ : ∃ s ∈ (start.after calls).slots, s.mayBeUsed = false := by
      simp only [Request.mem_slots_after]
      rcases given with given | given
      · exact ⟨.filters p.input, .inr ⟨_, given, rfl⟩, refused⟩
      · exact ⟨.group p.input, .inr ⟨_, given, rfl⟩, refused⟩
    have fault := Request.findSome?_fault? held unusable
    exact Request.failsWith_of_inputFault? ((Request.inputFault?_eq _).trans fault)
  · exact Request.ofEnvelope_unpermitted never.permission_eq
  · exact (Request.permission_ofEnvelope read i held).trans permitted.permission_eq

namespace Sample

/-- What a visitor sent, with null for the filters. -/
def sent : Params := .ofJson (.map [("search", .map [("filters", .null)])])

/-- A request that takes its filters from elsewhere, behind an empty OR-group. -/
def borrowing (source : Input) : List Request.Call :=
  [.group (.inherent (.map [])), .filters (.inherent .null), .filters source, .sort "title:asc"]

end Sample

open Sample in
/-- Null filters from an unpermitted part make a request fail, though null stands for no filters and
though the empty OR-group was added before. A list in place of a map is found first. -/
theorem sent_refused :
    ∃ search filters, sent.get? "search" = some search ∧ search.get? "filters" = some filters ∧
      (({} : Request).after (borrowing filters.input)).FailsWith .unpermittedInput ∧
      (({} : Request).after (.filters (.inherent (.list [])) :: borrowing filters.input)).FailsWith
        .requestShape ∧
      ∃ r, Request.ofEnvelope search.permit.input = .ok r ∧ r.inputs.length = 1 ∧
        ∀ i ∈ r.inputs, i.permission = .permitted := by
  have search : Params.Obtained false ⟨.map [("filters", .null)], false⟩ :=
    .get (.arrived _) (show sent.get? "search" = some _ from rfl)
  have filters : Params.Obtained false ⟨.null, false⟩ :=
    .get search (show Params.get? _ "filters" = some _ from rfl)
  have given : .filters (Params.input ⟨.null, false⟩) ∈ borrowing (Params.input ⟨.null, false⟩) :=
    .tail _ (.tail _ (.head _))
  have refused := (unpermitted_refused.1 _ filters).1 {}
  exact ⟨_, _, rfl, rfl, refused (borrowing _) (.inl given),
    refused (_ :: borrowing _) (.inl (.tail _ given)), _, rfl, rfl,
    unpermitted_refused.2 _ search.permit _ rfl⟩

end QueryPlan
