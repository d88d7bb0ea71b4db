import DocumentStore.Conversion
import DocumentStore.Query.Options
import DocumentStore.Query.Where

/-!
# Reading statements

`compileFind` is the SELECT of a filter and query options, `compileCount` the count of the rows that
a filter matches. Both have the same WHERE clause.
-/

set_option autoImplicit false

namespace DocumentStore

/-- The column by which an empty filter sorts. -/
def defaultSortField : String := "_createdAt"

/-- The sort of a find without one: ascending by every field of the filter. -/
def defaultSort (conditions : List Condition) : Entries :=
  match conditions with
  | [] => [(.text defaultSortField, .int 1)]
  | _ => Entries.ofList (conditions.map fun c => (c.field, .int 1))

/-- One key of a sort with its direction. -/
def compileSortKey (key direction : Value) : Except Fault Sql := do
  let name ← Sql.nameOf key
  return [name, .fixed (if direction.same (.int 1) then " ASC" else " DESC")]

/-- The ORDER BY clause of a sort. -/
def compileOrderBy (sort : Value) : Except Fault Sql :=
  match sort with
  | .map es => do
    let keys ← es.mapM fun e => compileSortKey e.1 e.2
    return .fixed " ORDER BY " :: Sql.join ", " keys
  | v => .error (.noMember v.kind "items")

/-- The columns of a projection: the identifier and what was asked for beside it, or every
column. -/
def compileProjection (fields : Value) : Except Fault Sql :=
  if fields.truthy then do
    let asked ← fields.items
    let columns := .text idField :: asked.filter fun f => !f.same (.text idField)
    let names ← columns.mapM Sql.nameOf
    return Sql.join ", " (names.map ([·]))
  else .ok [.fixed "*"]

/-- A clause that binds one further parameter, when the parameter is there. -/
def bindClause (keyword : String) (v : Value) (built : Sql × List Value) : Sql × List Value :=
  if v.isNull then built
  else
    (built.1 ++ [.fixed keyword, .placeholder (built.2.length + 1 : Nat)], built.2 ++ [v])

/-- The SELECT of a filter with options that are built. -/
def compileFindWith (s : FieldSchema) (collection filter : Value) (o : QueryOptions) :
    Except Fault Statement := do
  let conditions ← Condition.ofFilter filter
  let (restriction, params) ← compileWhere s conditions 1
  let projection ← compileProjection o.fields
  let table ← Sql.nameOf collection
  let order ← compileOrderBy (o.sort.orElse (.map (defaultSort conditions)))
  let head : Sql := [.fixed "SELECT "] ++ projection ++ [.fixed " FROM ", table]
  let (sql, params) := bindClause " OFFSET " o.skip
    (bindClause " LIMIT " o.limit (head ++ restriction ++ order, params))
  return ⟨sql, params⟩

/-- The SELECT of a filter and query options. -/
def compileFind (s : FieldSchema) (collection filter : Value) (options : OptionsSource) :
    Except Fault Statement := do
  let o ← QueryOptions.of options
  compileFindWith s collection filter o

/-- The count of the rows that a filter matches. -/
def compileCount (s : FieldSchema) (collection filter : Value) : Except Fault Statement := do
  let conditions ← Condition.ofFilter filter
  let (restriction, params) ← compileWhere s conditions 1
  let table ← Sql.nameOf collection
  return ⟨[.fixed "SELECT COUNT(*) AS count FROM ", table] ++ restriction, params⟩

end DocumentStore
