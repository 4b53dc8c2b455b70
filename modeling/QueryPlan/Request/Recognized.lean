import QueryPlan.Request.Admitted
import QueryPlan.Order.Registry
import QueryPlan.Plan
import QueryPlan.Predicate.Registry

/-!
# Recognition of keys

Every key of an admitted request is looked up in the registries. Recognized keys go on to be
compiled; the others are collected in the order in which they are met: the merged filter maps, the
OR-groups, the sort keys.
-/

namespace QueryPlan
set_option autoImplicit false

/-- What an entity type lets requests filter and order by. -/
structure Catalog where
  /-- The fields to filter by. -/
  predicates : PredicateRegistry
  /-- The fields to order by. -/
  sorts : SortRegistry

/-- A filter key that spells a registered pair. -/
structure KnownKey where
  key : String
  field : FieldSpec
  kind : PredicateKind
  /-- The operand as it was supplied. -/
  operand : Json

/-- A key that nothing is registered for. -/
inductive UnknownKey where
  /-- A filter key, with the index of the OR-group it stands in. -/
  | filter (key : String) (group : Option Nat)
  | sort (key : String)
  deriving DecidableEq, Repr

namespace UnknownKey

/-- What cause the key gives an error of. -/
def cause : UnknownKey → Cause
  | filter key _ => .unknownPredicate key
  | sort key => .unknownSort key

/-- The error of the key: for a filter key that starts with a registered field it names what the
field accepts. -/
def error (r : PredicateRegistry) (k : UnknownKey) : QueryError :=
  match k with
  | filter key _ => { k.cause.toError with help := r.hint? key }
  | sort _ => k.cause.toError

/-- The record of the key in a plan that leaves it out. -/
def dropped (k : UnknownKey) : DroppedKey :=
  match k with
  | filter key group => ⟨key, k.cause.code, group⟩
  | sort key => ⟨key, k.cause.code, none⟩

end UnknownKey

/-- Filter maps merged key by key: a later value replaces an earlier one in its place. -/
def mergeFields (maps : List Fields) : Fields := (OrderedMap.ofList maps.flatten).entries

namespace PredicateRegistry

/-- The recognized keys of a map. -/
def known (r : PredicateRegistry) (fields : Fields) : List KnownKey :=
  fields.filterMap fun entry =>
    (r.parseKey entry.1).map fun pair => ⟨entry.1, pair.1, pair.2, entry.2⟩

/-- The other keys of a map. -/
def unknown (r : PredicateRegistry) (group : Option Nat) (fields : Fields) : List UnknownKey :=
  (fields.filter fun entry => (r.parseKey entry.1).isNone).map fun entry => .filter entry.1 group

end PredicateRegistry

namespace SortRegistry

/-- The orderings of the recognized sort keys, each key once, in the order of first occurrence. -/
def known (r : SortRegistry) (keys : List String) : List OrderTerm :=
  keys.eraseDups.filterMap fun key => (r.resolve? key).map SortScope.term

/-- The other sort keys, as often as they occur. -/
def unknown (r : SortRegistry) (keys : List String) : List UnknownKey :=
  (keys.filter fun key => (r.resolve? key).isNone).map .sort

end SortRegistry

/-- An admitted request with its keys looked up. -/
structure Recognized where
  /-- The recognized filter keys at the top level. -/
  filters : List KnownKey
  /-- The recognized filter keys of each OR-group. -/
  groups : List (List KnownKey)
  /-- The orderings of the recognized sort keys. -/
  order : List OrderTerm
  /-- The keys that nothing is registered for, in the order in which they are met. -/
  unknown : List UnknownKey

/-- An admitted request with its keys looked up in a catalog. -/
def Catalog.recognize (c : Catalog) (a : Admitted) : Recognized :=
  let filters := mergeFields a.filters
  { filters := c.predicates.known filters
    groups := a.groups.map c.predicates.known
    order := c.sorts.known a.sort
    unknown := c.predicates.unknown none filters ++
      (a.groups.zipIdx.flatMap fun entry => c.predicates.unknown (some entry.2) entry.1) ++
        c.sorts.unknown a.sort }

/-- Refuses, in strict mode, a request with an unknown key. -/
def Catalog.checkKnown (c : Catalog) (strict : Bool) (r : Recognized) : Except QueryError Unit :=
  match strict, r.unknown with
  | true, key :: _ => .error (key.error c.predicates)
  | _, _ => .ok ()

end QueryPlan
