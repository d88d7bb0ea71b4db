import DocumentStore.Conversion
import DocumentStore.Schema.Table
import DocumentStore.Schema.Validation
import DocumentStore.Session.Connection

/-!
# Tables and the catalog

`reconcile` makes sure that a collection's table has at least the columns that a schema declares: it
creates an absent table and adds absent columns, and it never changes or removes anything. What
there is already it asks of the catalog of the server.
-/

set_option autoImplicit false

namespace DocumentStore.Session

variable {σ ω τ : Type}

open Step

/-- The catalog's answer to whether a table exists. -/
def tableExistsSql : String := "
    SELECT EXISTS (
        SELECT 1
        FROM pg_catalog.pg_class c
        JOIN pg_catalog.pg_namespace n ON n.oid = c.relnamespace
        WHERE n.nspname = $1
        AND c.relname = $2
        AND c.relkind = 'r'
    ) AS table_exists
"

/-- The catalog's list of the columns of a table. -/
def columnNamesSql : String := "
    SELECT column_name
    FROM information_schema.columns
    WHERE table_schema = $1 AND table_name = $2
"

/-- A question about a table of the session's schema. -/
def catalogQuery (s : Session σ ω τ) (sql : String) (table : Value) : Statement :=
  .raw sql [.text s.tableSchema, table]

/-- The value of a column of a row. -/
def cell (row : Entries) (column : String) : Except Fault Value :=
  match Entries.getText? row column with
  | some v => .ok v
  | none => .error (.missingKey (.text column))

/-- Whether a table exists. -/
def tableExists (s : Session σ ω τ) (table : Value) : Step σ ω τ Bool := do
  let result ← execute s (catalogQuery s tableExistsSql table)
  match result.rows with
  | [] => return false
  | row :: _ => return (← demand (cell row "table_exists")).truthy

/-- The names of columns in rows of the catalog, each once. -/
def columnNames : List Entries → List Value → Except Fault (List Value)
  | [], names => .ok names
  | row :: rows, names => do
    let name ← cell row "column_name"
    name.ensureHashable
    columnNames rows (if names.any fun n => n.same name then names else names ++ [name])

/-- The columns of a table. -/
def existingColumns (s : Session σ ω τ) (table : Value) : Step σ ω τ (List Value) := do
  let result ← execute s (catalogQuery s columnNamesSql table)
  demand (columnNames result.rows [])

/-! ## Reconciling -/

/-- The columns of a table that is created from a schema. -/
def createdColumns (schema : FieldSchema) : List Value :=
  systemColumns.map (fun c => .text c.1) ++ schema.userFields.map (·.name)

/-- Creates a table. -/
def createMissingTable (s : Session σ ω τ) (table : Value) (schema : FieldSchema) :
    Step σ ω τ (List Value) := do
  let sql ← demand (createTable table schema)
  let _ ← execute s ⟨sql, []⟩
  let created := createdColumns schema
  log .info "Collection table created"
    [(.text "table_name", table), (.text "column_count", .int created.length)]
  return created

/-- Adds columns one after the other. -/
def addAll (s : Session σ ω τ) (table : Value) : List Sql → Step σ ω τ Unit
  | [] => pure ()
  | sql :: rest => do
    let _ ← execute s ⟨sql, []⟩
    log .debug "Column added" [(.text "table_name", table), (.text "ddl", .text (Sql.text sql))]
    addAll s table rest

/-- The declared fields that a table has no column for. -/
def missingFields (schema : FieldSchema) (existing : List Value) : List FieldDefinition :=
  schema.userFields.filter fun d => !existing.any fun n => n.same d.name

/-- Adds the columns of fields. -/
def addFields (s : Session σ ω τ) (table : Value) (missing : List FieldDefinition) :
    Step σ ω τ (List Value) := do
  let statements ← demand (addColumns table missing)
  addAll s table statements
  let added := missing.map (·.name)
  log .info "Columns added to collection table"
    [(.text "table_name", table), (.text "fields", .list added)]
  return added

/-- Adds the columns that a table lacks. -/
def widenTable (s : Session σ ω τ) (table : Value) (schema : FieldSchema) :
    Step σ ω τ (List Value) := do
  let existing ← existingColumns s table
  let missing := missingFields schema existing
  if missing.isEmpty then return [] else addFields s table missing

/-- Makes sure that a table has the columns of a schema: the columns that were made. -/
def reconcile (s : Session σ ω τ) (table : Value) (source : SchemaSource) :
    Step σ ω τ (List Value) := do
  requireConnected
  let schema ← demand (FieldSchema.of source)
  demand schema.ensureValid
  demand table.ensureHashable
  if ← tableExists s table then widenTable s table schema else createMissingTable s table schema

end DocumentStore.Session
