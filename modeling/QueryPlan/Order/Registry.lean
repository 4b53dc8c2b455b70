import QueryPlan.Order.Term
import QueryPlan.Schema.Table

/-!
# Sort registries

The fields of an entity type that may be ordered by. Registering one adds a scope for each variant
that its storage type has, under the key `field:variant`.
-/

namespace QueryPlan
set_option autoImplicit false

/-- The sort key of a field name and a variant. -/
def sortKey (field : String) (variant : SortVariant) : String := field ++ ":" ++ variant.name

/-- A registered way to order. -/
structure SortScope where
  field : String
  variant : SortVariant
  deriving DecidableEq, Repr

/-- The sort key of a scope. -/
def SortScope.key (s : SortScope) : String := sortKey s.field s.variant

/-- The ordering that a scope stands for. -/
def SortScope.term (s : SortScope) : OrderTerm := s.variant.term s.field

/-- The scopes of a field of a storage type. -/
def fieldScopes (field : String) (type : StorageType) : List SortScope :=
  (SortVariant.ofType type).map fun variant => ⟨field, variant⟩

/-- The fields that may be ordered by and their scopes, in the order of registration. -/
structure SortRegistry where
  /-- The storage types of the registered fields. -/
  fields : OrderedMap StorageType
  /-- The scopes by sort key. -/
  scopes : OrderedMap SortScope

namespace SortRegistry

/-- The registry without fields. -/
def empty : SortRegistry := ⟨.empty, .empty⟩

/-- The registry with a column of a schema registered. A field that is registered already stays as
it is. -/
def register (r : SortRegistry) (schema : TableSchema) (name : String) (type : StorageType) :
    Except QueryError SortRegistry := do
  let field ← schema.resolve name type
  if r.fields.contains name then .ok r
  else
    let scopes := (fieldScopes field.name field.type).foldl (fun m s => m.insert s.key s) r.scopes
    .ok ⟨r.fields.insert field.name field.type, scopes⟩

/-- The scope of a sort key. -/
def resolve? (r : SortRegistry) (key : String) : Option SortScope := r.scopes.get? key

/-- Whether a field may be ordered by. -/
def isRegistered (r : SortRegistry) (field : String) : Bool := r.fields.contains field

/-- The number of scopes. -/
def size (r : SortRegistry) : Nat := r.scopes.size

end SortRegistry
end QueryPlan
