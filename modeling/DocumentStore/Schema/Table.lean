import DocumentStore.Schema.Field
import DocumentStore.Sql

/-!
# Tables of collections

A collection's table has the bookkeeping columns and one column per declared field. `createTable`
and `addColumn` are the statements that make them; both leave alone what is there already.
-/

set_option autoImplicit false

namespace DocumentStore

/-- The column type of a field type. -/
def FieldType.columnType : FieldType → String
  | .dateTime => "TIMESTAMP"
  | .mixed => "JSON"
  | .object => "JSON"
  | .number => "INTEGER"
  | .reference => "VARCHAR(255)"
  | .string => "VARCHAR(255)"

/-- The bookkeeping columns with their types, in the order in which a table has them. -/
def systemColumns : List (String × String) :=
  [("_id", "UUID PRIMARY KEY NOT NULL DEFAULT gen_random_uuid()"),
   ("_apiVersion", "VARCHAR(50) NULL"),
   ("_version", "INTEGER NULL"),
   ("_history", "JSON NULL"),
   ("_createdAt", "TIMESTAMP NULL"),
   ("_createdBy", "VARCHAR(255) NULL"),
   ("_lastModifiedAt", "TIMESTAMP NULL"),
   ("_lastModifiedBy", "VARCHAR(255) NULL")]

namespace FieldDefinition

/-- The column type of a field. -/
def columnType (d : FieldDefinition) : Except Fault String :=
  match d.fieldType with
  | some t => .ok t.columnType
  | none => .error (.naming [d.name, d.type] (.unsupportedType d.name d.type))

/-- The column of a field: name, type and whether it may be null. -/
def column (d : FieldDefinition) : Except Fault Sql := do
  let name ← Sql.nameOf d.name
  let type ← d.columnType
  return [name, .fixed (" " ++ type ++ (if d.required then " NOT NULL" else " NULL"))]

end FieldDefinition

/-- The bookkeeping columns. -/
def systemColumnDefinitions : List Sql :=
  systemColumns.map fun c => [.name c.1, .fixed (" " ++ c.2)]

/-- The statement that creates the table of a schema. -/
def createTable (table : Value) (s : FieldSchema) : Except Fault Sql := do
  let declared ← s.userFields.mapM (·.column)
  let name ← Sql.nameOf table
  return [.fixed "CREATE TABLE IF NOT EXISTS ", name, .fixed " (\n  "] ++
    Sql.join ",\n  " (systemColumnDefinitions ++ declared) ++ [.fixed "\n)"]

/-- The statement that adds the column of a field. -/
def addColumn (table : Value) (d : FieldDefinition) : Except Fault Sql := do
  let name ← Sql.nameOf table
  let column ← d.column
  return [.fixed "ALTER TABLE ", name, .fixed " ADD COLUMN IF NOT EXISTS "] ++ column

/-- The statements that add the columns of fields, in order. -/
def addColumns (table : Value) (fields : List FieldDefinition) : Except Fault (List Sql) :=
  fields.mapM (addColumn table)

end DocumentStore
