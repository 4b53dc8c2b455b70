import QueryPlan.Compilation

/-!
# Entity types

An entity type is a table schema with the fields that requests may filter and order by. It is built
up by registrations; a subtype starts from everything that its supertype has. Listings hide fields
that look like credentials.
-/

namespace QueryPlan
set_option autoImplicit false

/-- A type of records that can be asked for. -/
structure EntityType where
  name : String
  /-- The name of the supertype. -/
  parent : Option String
  /-- The table that records are stored in. -/
  schema : TableSchema
  /-- What requests may filter and order by. -/
  catalog : Catalog

namespace EntityType

/-- The entity type of a schema, without registrations. -/
def ofSchema (name : String) (schema : TableSchema) : EntityType :=
  ⟨name, none, schema, ⟨.empty, .empty⟩⟩

/-- A subtype with all that its supertype has. -/
def extend (parent : EntityType) (name : String) : EntityType :=
  { parent with name := name, parent := some parent.name }

/-- The type with a column that its table does not have yet. -/
def withColumn (e : EntityType) (name : String) (type : StorageType) (nullable : Bool) :
    Except QueryError EntityType := do
  if e.schema.columns.contains name then
    .error ((Cause.invalidConfiguration (.duplicateColumn name e.schema.table)).toError.withEntity
      e.name)
  else
    let schema ← e.schema.declare name type nullable
    .ok { e with schema := schema }

/-- The type with a field to filter by. -/
def registerPredicate (e : EntityType) (field : String) (type : StorageType) :
    Except QueryError EntityType := do
  let predicates ← (e.catalog.predicates.register e.schema field type).mapError
    (QueryError.withEntity · e.name)
  .ok { e with catalog := { e.catalog with predicates := predicates } }

/-- The type with a field to order by. -/
def registerSort (e : EntityType) (field : String) (type : StorageType) :
    Except QueryError EntityType := do
  let sorts ← (e.catalog.sorts.register e.schema field type).mapError
    (QueryError.withEntity · e.name)
  .ok { e with catalog := { e.catalog with sorts := sorts } }

/-- The type with a field to filter and to order by. -/
def registerField (e : EntityType) (field : String) (type : StorageType) :
    Except QueryError EntityType := do
  let e ← e.registerPredicate field type
  e.registerSort field type

/-- The plan of a request for records of the type. Errors name the type. -/
def compile (e : EntityType) (settings : Settings) (request : Request) : Except QueryError Plan :=
  (e.catalog.compile settings request).mapError (QueryError.tagged · e.name)

/-- The registrations of fields that are not hidden. -/
def visibleRegistrations (e : EntityType) : List Registration :=
  e.catalog.predicates.registrations.filter fun r => !r.field.sensitive

/-- The fields to filter by, without hidden ones. -/
def searchableFields (e : EntityType) : List String :=
  e.visibleRegistrations.map fun r => r.field.name

/-- The filter keys, without those of hidden fields. -/
def predicateKeys (e : EntityType) : List String := e.visibleRegistrations.flatMap Registration.keys

/-- The fields to order by, without hidden ones. -/
def sortableFields (e : EntityType) : List String :=
  e.catalog.sorts.fields.keys.filter fun field => !isSensitive field

/-- The sort keys, without those of hidden fields. -/
def sortScopes (e : EntityType) : List String :=
  (e.catalog.sorts.scopes.entries.filter fun entry => !isSensitive entry.2.field).map Prod.fst

end EntityType
end QueryPlan
