import QueryPlan.Error
import QueryPlan.OrderedMap
import QueryPlan.Text.Search

/-!
# Table schemas

The columns of the table that an entity type is stored in. A column declared again replaces the
earlier declaration and keeps its place. Names are plain identifiers: each is checked as it is
declared, and a schema carries the evidence.
-/

namespace QueryPlan
set_option autoImplicit false

/-- Parts of a column name that mark it as holding a credential. -/
def sensitiveFragments : List String :=
  ["password", "secret", "token", "api_key", "digest", "salt", "otp", "private_key", "credential",
   "encrypted"]

/-- Whether a column name looks as if the column held a credential. -/
def isSensitive (name : String) : Bool :=
  sensitiveFragments.any fun fragment => Text.occurs fragment.toList (Text.lower name).toList

/-- Whether a character may start an identifier. -/
def startsIdentifier (c : Char) : Bool := c.isAlpha || c = '_'

/-- Whether a name is a letter or underscore followed by letters, digits and underscores, all of
them ASCII. -/
def isIdentifier (name : String) : Bool :=
  match name.toList with
  | [] => false
  | c :: rest => startsIdentifier c && rest.all fun d => startsIdentifier d || d.isDigit

/-- The evidence that a name is an identifier; other names are refused. -/
def checkIdentifier (name : String) : Except QueryError (PLift (isIdentifier name = true)) :=
  if plain : isIdentifier name = true then .ok ⟨plain⟩
  else .error (Cause.invalidConfiguration (.badIdentifier name)).toError

/-- The declaration of a column. -/
structure ColumnDef where
  /-- How the column is stored. -/
  type : StorageType
  /-- Whether the column admits null. -/
  nullable : Bool
  deriving DecidableEq, Repr

/-- A column by name, with its declaration. -/
structure FieldSpec where
  name : String
  /-- How the column is stored. -/
  type : StorageType
  /-- Whether the column admits null. -/
  nullable : Bool
  deriving DecidableEq, Repr

/-- Whether a field is hidden from listings because its name looks like that of a credential. -/
def FieldSpec.sensitive (f : FieldSpec) : Bool := isSensitive f.name

/-- The table that an entity type is stored in. -/
structure TableSchema where
  table : String
  columns : OrderedMap ColumnDef
  /-- The name of the table is an identifier. -/
  table_plain : isIdentifier table = true := by decide
  /-- So are the names of its columns. -/
  columns_plain : ∀ name ∈ columns.keys, isIdentifier name = true := by decide

namespace TableSchema

/-- The schema of a table without columns. -/
def ofTable (table : String) : Except QueryError TableSchema := do
  let ⟨plain⟩ ← checkIdentifier table
  .ok { table := table, columns := .empty, table_plain := plain }

/-- The schema with a column of a plain name. -/
def withColumn (s : TableSchema) (name : String) (plain : isIdentifier name = true)
    (column : ColumnDef) : TableSchema where
  table := s.table
  columns := s.columns.insert name column
  table_plain := s.table_plain
  columns_plain k member := by
    obtain rfl | before := mem_keys_insertEntry.1 member
    · exact plain
    · exact s.columns_plain k before

/-- The schema with a column declared. -/
def declare (s : TableSchema) (name : String) (type : StorageType) (nullable : Bool) :
    Except QueryError TableSchema := do
  let ⟨plain⟩ ← checkIdentifier name
  .ok (s.withColumn name plain ⟨type, nullable⟩)

/-- The field of a column name. -/
def field? (s : TableSchema) (name : String) : Option FieldSpec :=
  (s.columns.get? name).map fun column => ⟨name, column.type, column.nullable⟩

/-- The field of a column that is stored as a given type. -/
def resolve (s : TableSchema) (name : String) (type : StorageType) :
    Except QueryError FieldSpec :=
  match s.field? name with
  | none => .error (Cause.unknownColumn s.table name).toError
  | some field =>
    if field.type = type then .ok field
    else .error (Cause.typeMismatch s.table name type field.type).toError

end TableSchema
end QueryPlan
