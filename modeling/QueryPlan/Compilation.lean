import QueryPlan.Coercion
import QueryPlan.Request.Recognized
import QueryPlan.Like
import QueryPlan.Request.Envelope

/-!
# Compilation

A request becomes a plan in four stages, and the first failure is the outcome: admission, with the
ceilings on its size; recognition of its keys, where an unknown key fails in strict mode and is
left out otherwise; coercion of the operands, those at the top level before those of the OR-groups;
the page window.
-/

namespace QueryPlan
set_option autoImplicit false

namespace KnownKey

/-- The error of an operand that does not fit. -/
def fault (k : KnownKey) (fault : ValueFault) : QueryError :=
  (Cause.invalidValue k.key fault).toError

/-- The condition of the key with an operand. -/
def holding (k : KnownKey) (kind : PredicateKind) (operand : Operand) : Condition :=
  ⟨k.field.name, kind, operand⟩

/-- A value of the field's type. -/
def scalar (k : KnownKey) (v : Json) : Except QueryError Value :=
  Coercion.scalar k.key k.field.type v

/-- The items of an operand that must be a list. -/
def items (k : KnownKey) : Except QueryError (List Json) :=
  match k.operand with
  | .list items => .ok items
  | v => .error (k.fault (.mismatch "a list" v.kind.describe))

/-- The bounds of an operand that must be a list of two. -/
def bounds (k : KnownKey) : Except QueryError (Json × Json) := do
  match ← k.items with
  | [low, high] => .ok (low, high)
  | items => .error (k.fault (.notTwoBounds items.length))

/-- The members of an operand that must be a list of at least one and at most `ceiling`. -/
def members (k : KnownKey) (ceiling : Nat) : Except QueryError (List Json) := do
  let items ← k.items
  if items.isEmpty then .error (k.fault .emptyList)
  else if ceiling < items.length then .error (k.fault (.longList items.length ceiling))
  else .ok items

/-- Where the pattern of a kind lets its text stand. -/
def position (k : KnownKey) : Except QueryError PatternPosition :=
  match k.kind.position? with
  | some position => .ok position
  | none => .error (Cause.internal (ticked k.kind.suffix ++ " has no pattern position")).toError

/-- The kind that a flag selects: the kind itself if the flag is on, and its opposite if not. -/
def selected (k : KnownKey) (on : Bool) : Except QueryError PredicateKind :=
  if on then .ok k.kind
  else match k.kind.opposite? with
    | some opposite => .ok opposite
    | none => .error (Cause.internal (ticked k.kind.suffix ++ " has no negation")).toError

/-- The condition that the key and its operand stand for. -/
def condition (limits : RequestLimits) (k : KnownKey) : Except QueryError Condition :=
  match k.kind.shape with
  | .scalar => do
    let value ← k.scalar k.operand
    .ok (k.holding k.kind (.one value))
  | .pattern => do
    let position ← k.position
    let text ← Coercion.text k.key k.operand
    .ok (k.holding k.kind (.one (.text (Like.pattern position text))))
  | .range => do
    let (low, high) ← k.bounds
    let low ← k.scalar low
    let high ← k.scalar high
    .ok (k.holding k.kind (.range low high))
  | .list => do
    let members ← k.members limits.maxListValues
    let values ← members.mapM k.scalar
    .ok (k.holding k.kind (.list values))
  | .flag => do
    let on ← Coercion.flag k.key k.operand
    let kind ← k.selected on
    .ok (k.holding kind .none)

theorem position_eq_ok {k : KnownKey} {position : PatternPosition}
    (known : k.kind.position? = some position) : k.position = .ok position := by
  rw [KnownKey.position, known]

theorem selected_eq_ok {k : KnownKey} {opposite : PredicateKind}
    (known : k.kind.opposite? = some opposite) (on : Bool) :
    k.selected on = .ok (if on then k.kind else opposite) := by
  unfold selected
  rw [known]
  cases on <;> rfl

/-- The condition by the form of the kind. No pattern lacks a position and no flag an opposite, so
the errors of such kinds never arise. -/
theorem condition_eq (limits : RequestLimits) (k : KnownKey) :
    k.condition limits = (match k.kind.form with
      | .scalar => do
        let value ← k.scalar k.operand
        .ok (k.holding k.kind (.one value))
      | .pattern position => do
        let text ← Coercion.text k.key k.operand
        .ok (k.holding k.kind (.one (.text (Like.pattern position text))))
      | .range => do
        let (low, high) ← k.bounds
        let low ← k.scalar low
        let high ← k.scalar high
        .ok (k.holding k.kind (.range low high))
      | .list => do
        let members ← k.members limits.maxListValues
        let values ← members.mapM k.scalar
        .ok (k.holding k.kind (.list values))
      | .flag opposite => do
        let on ← Coercion.flag k.key k.operand
        .ok (k.holding (if on then k.kind else opposite) .none)) := by
  unfold condition
  rw [PredicateKind.shape_eq]
  cases form : k.kind.form with
  | pattern position =>
    simp only [OperandForm.shape, position_eq_ok (PredicateKind.form_eq_pattern_iff.1 form)]
    rfl
  | flag opposite =>
    simp only [OperandForm.shape, selected_eq_ok (PredicateKind.form_eq_flag_iff.1 form)]
    rfl
  | _ => rfl

end KnownKey

/-- The conditions of recognized keys, in their order. -/
def conditionsOf (limits : RequestLimits) (keys : List KnownKey) :
    Except QueryError (List Condition) :=
  keys.mapM (KnownKey.condition limits)

/-- The conditions of OR-groups. A group without a recognized key would hold of every row and is
left out. -/
def groupsOf (limits : RequestLimits) (groups : List (List KnownKey)) :
    Except QueryError (List (List Condition)) :=
  (groups.filter fun keys => !keys.isEmpty).mapM (conditionsOf limits)

/-- The plan of a request, or the first failure. -/
def Catalog.compile (c : Catalog) (settings : Settings) (request : Request) :
    Except QueryError Plan := do
  let admitted ← request.admit
  admitted.checkSize settings.limits
  let recognized := c.recognize admitted
  c.checkKnown settings.isStrict recognized
  let conditions ← conditionsOf settings.limits recognized.filters
  let groups ← groupsOf settings.limits recognized.groups
  let window ← settings.pagination.window request.page request.perPage
  .ok ⟨conditions, groups, recognized.order, window, recognized.unknown.map UnknownKey.dropped⟩

end QueryPlan
