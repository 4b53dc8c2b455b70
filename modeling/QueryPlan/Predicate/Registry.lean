import QueryPlan.Predicate.Kind
import QueryPlan.Schema.Table

/-!
# Predicate registries

The fields of an entity type that may be filtered by and the kinds that each allows. A filter key
is a field name, an underscore and a suffix. Field names may hold underscores themselves, so a key
is read from its end: the longest suffix that leaves a registered pair wins.
-/

namespace QueryPlan
set_option autoImplicit false

/-- A field that may be filtered by, with the kinds it allows. -/
structure Registration where
  field : FieldSpec
  kinds : KindSet

/-- The field with every kind that is legal on it. -/
def FieldSpec.registration (f : FieldSpec) : Registration := ⟨f, .ofColumn f.type f.nullable⟩

/-- The filter key of a field name and a kind. -/
def predicateKey (field : String) (kind : PredicateKind) : String := field ++ "_" ++ kind.suffix

/-- The filter keys of a registration. -/
def Registration.keys (r : Registration) : List String :=
  r.kinds.toList.map (predicateKey r.field.name)

/-- The fields that may be filtered by, in the order of registration. -/
structure PredicateRegistry where
  /-- The registrations by field name. -/
  entries : OrderedMap Registration

namespace PredicateRegistry

/-- The registry without fields. -/
def empty : PredicateRegistry := ⟨.empty⟩

/-- The registry with a column of a schema registered. A field that is registered already stays as
it is. -/
def register (r : PredicateRegistry) (schema : TableSchema) (name : String) (type : StorageType) :
    Except QueryError PredicateRegistry := do
  let field ← schema.resolve name type
  if r.entries.contains name then .ok r
  else .ok ⟨r.entries.insert field.name field.registration⟩

/-- The registration of a field. -/
def get? (r : PredicateRegistry) (field : String) : Option Registration := r.entries.get? field

/-- Whether a field is registered. -/
def isRegistered (r : PredicateRegistry) (field : String) : Bool := r.entries.contains field

/-- The kinds that a field allows; none if it is not registered. -/
def allowed (r : PredicateRegistry) (field : String) : KindSet :=
  match r.get? field with
  | some registration => registration.kinds
  | none => .empty

/-- Whether a field allows a kind. -/
def isPair (r : PredicateRegistry) (field : String) (kind : PredicateKind) : Bool :=
  (r.allowed field).contains kind

/-- The registrations in the order in which they were made. -/
def registrations (r : PredicateRegistry) : List Registration := r.entries.values

/-- Every filter key of a registered pair, in the order of registration. -/
def keys (r : PredicateRegistry) : List String := r.registrations.flatMap Registration.keys

/-- The field of a key that ends in the suffix of a kind, if the field allows the kind. Nothing but
an underscore and a suffix is no key. -/
def pairOf? (r : PredicateRegistry) (key : String) (kind : PredicateKind) :
    Option (FieldSpec × PredicateKind) := do
  let name ← (Text.stripEnd? ("_" ++ kind.suffix) key).filter fun name => !name.isEmpty
  let registration ← r.get? name
  if registration.kinds.contains kind then some (registration.field, kind) else none

/-- The registered pair that a filter key spells, by its longest possible suffix. -/
def parseKey (r : PredicateRegistry) (key : String) : Option (FieldSpec × PredicateKind) :=
  PredicateKind.longestFirst.findSome? (r.pairOf? key)

/-- What the first field that starts a key accepts, for a key that spells no pair. -/
def hint? (r : PredicateRegistry) (key : String) : Option String :=
  (r.registrations.find? fun entry =>
      (Text.stripStart? (entry.field.name ++ "_") key).isSome).map fun entry =>
    ticked entry.field.name ++ " accepts: " ++
      String.intercalate ", " (entry.kinds.toList.map PredicateKind.suffix)

end PredicateRegistry
end QueryPlan
