import DocumentStore.Query.Where

/-!
# Writing statements

`compileInsert` inserts one row, `compileUpdate` applies `set` and `inc` operators to the rows that
a filter of equalities matches, and `compileDelete` removes such rows. An update gathers, for each
column, the last value set and all increments; the increments are added to the value set, or to the
column when none is set.
-/

set_option autoImplicit false

namespace DocumentStore

/-! ## Values of columns -/

/-- The placeholder of a column value. -/
def columnPlaceholder (s : FieldSchema) (column : Value) (index : Int) : Sql :=
  if s.isDateTime column then [.placeholder index, .fixed "::text::timestamp"]
  else [.placeholder index]

/-- The parameter of a column value: JSON for the history and for JSON fields, text for DateTime
fields. -/
def columnValue (s : FieldSchema) (column v : Value) : Except Fault Value :=
  if column.same (.text historyField) then (encodeJson v).map Value.ofText
  else
    match s.columnType column with
    | some .mixed => (encodeJson v).map Value.ofText
    | some .object => (encodeJson v).map Value.ofText
    | some .dateTime => (toDateTimeText v).map Value.ofText
    | _ => .ok v

/-! ## Insert -/

/-- The placeholders of columns, numbered from `index`. -/
def insertPlaceholders (s : FieldSchema) : List Value → Int → List Sql
  | [], _ => []
  | column :: columns, index =>
    columnPlaceholder s column index :: insertPlaceholders s columns (index + 1)

/-- The INSERT of a row. -/
def compileInsertRow (s : FieldSchema) (collection : Value) (row : Entries) :
    Except Fault Statement := do
  let columns ← (Entries.keys row).mapM Sql.nameOf
  let table ← Sql.nameOf collection
  let params ← row.mapM fun e => columnValue s e.1 e.2
  return ⟨[.fixed "INSERT INTO ", table, .fixed "("] ++ Sql.join ", " (columns.map ([·])) ++
    [.fixed ") VALUES("] ++ Sql.join ", " (insertPlaceholders s (Entries.keys row) 1) ++
    [.fixed ") RETURNING *"], params⟩

/-- The INSERT of column values. -/
def compileInsert (s : FieldSchema) (collection values : Value) : Except Fault Statement :=
  if values.truthy then
    match values with
    | .map row => compileInsertRow s collection row
    | v => .error (.noMember v.kind "keys")
  else .error (.invalidQuery .nothingToInsert)

/-! ## Update -/

/-- The operators of updates. -/
inductive UpdateOperator where
  | set
  | inc
deriving DecidableEq, Repr

/-- The operator that a key names, with or without a leading dollar sign. -/
def UpdateOperator.ofKey (key : Value) : Except Fault UpdateOperator :=
  match key with
  | .text s =>
    if withoutDollar s = "set" then .ok .set
    else if withoutDollar s = "inc" then .ok .inc
    else .error (.unsupportedOperator key.display .null)
  | _ => .error (.naming [key] (.unsupportedOperator key.display .null))

/-- What an update does to one column: the value it sets, if any, and what it adds. -/
structure Assignment where
  setValue : Option Value
  deltas : List Value

/-- The assignments of an update in order of first appearance. -/
abbrev Assignments := List (Value × Assignment)

namespace Assignments

/-- Applies a change to the assignment of a column, a new one going to the end. -/
def modify (change : Assignment → Assignment) (column : Value) : Assignments → Assignments
  | [] => [(column, change ⟨none, []⟩)]
  | (name, a) :: rest =>
    if name.same column then (name, change a) :: rest else (name, a) :: modify change column rest

/-- Adds an operand of an operator. -/
def apply (o : UpdateOperator) (column v : Value) (as : Assignments) : Assignments :=
  match o with
  | .set => modify (fun a => ⟨some v, a.deltas⟩) column as
  | .inc => modify (fun a => ⟨a.setValue, a.deltas ++ [v]⟩) column as

/-- Adds the operands of an operator. References and the identifier are passed over. -/
def addOperands (o : UpdateOperator) : List (Value × Value) → Assignments → Except Fault Assignments
  | [], as => .ok as
  | (column, v) :: rest, as => do
    let isReference ← isReferenceKey column
    addOperands o rest
      (if isReference || column.same (.text idField) then as else apply o column v as)

/-- Adds the operators of an update. -/
def addOperators : List (Value × Value) → Assignments → Except Fault Assignments
  | [], as => .ok as
  | (key, operands) :: rest, as => do
    let o ← UpdateOperator.ofKey key
    match operands with
    | .map es =>
      let as ← addOperands o es as
      addOperators rest as
    | _ => throw (.invalidQuery (.operandNotMapping key))

/-- The assignments of an update document. -/
def ofUpdate (update : Value) : Except Fault Assignments :=
  match update with
  | .map es => addOperators es []
  | _ => .error (.invalidQuery .updateNotMapping)

end Assignments

/-- The expression of a value set. -/
def setExpression (s : FieldSchema) (column : Value) (index : Int) : Sql :=
  if isNamed timestampFields column then [.fixed "to_timestamp(", .placeholder index, .fixed ")"]
  else columnPlaceholder s column index

/-- The parameter of a value set. -/
def setParameter (s : FieldSchema) (column v : Value) : Except Fault Value :=
  if isNamed timestampFields column then (toEpochSeconds v).map Value.ofDouble
  else columnValue s column v

/-- The sum of what an assignment adds, numbered from `index`. -/
def compileDeltas : List Value → Int → Sql
  | [], _ => []
  | _ :: rest, index => .fixed " + " :: .placeholder index :: compileDeltas rest (index + 1)

/-- One assignment, its parameters numbered from `index`. -/
def compileAssignment (s : FieldSchema) (column : Value) (a : Assignment) (index : Int) :
    Except Fault (Sql × List Value) := do
  let name ← Sql.nameOf column
  match a.setValue with
  | some v =>
    let param ← setParameter s column v
    return ([name, .fixed " = "] ++ setExpression s column index ++
      compileDeltas a.deltas (index + 1), param :: a.deltas)
  | none => return ([name, .fixed " = ", name] ++ compileDeltas a.deltas index, a.deltas)

/-- The assignments, their parameters numbered from `index`. -/
def compileAssignments (s : FieldSchema) :
    Assignments → Int → Except Fault (List Sql × List Value)
  | [], _ => .ok ([], [])
  | (column, a) :: rest, index => do
    let (sql, params) ← compileAssignment s column a index
    let (sqls, more) ← compileAssignments s rest (index + params.length)
    return (sql :: sqls, params ++ more)

/-- The UPDATE of an update document, on the rows that a filter of equalities matches. -/
def compileUpdate (s : FieldSchema) (collection filter update : Value) :
    Except Fault Statement := do
  let assignments ← Assignments.ofUpdate update
  if assignments.isEmpty then throw (.invalidQuery .nothingToUpdate)
  let (sqls, params) ← compileAssignments s assignments 1
  let (restriction, more) ← compileEqualityWhere s filter (params.length + 1 : Nat)
  let table ← Sql.nameOf collection
  return ⟨[.fixed "UPDATE ", table, .fixed " SET "] ++ Sql.join ", " sqls ++ restriction ++
    [.fixed " RETURNING *"], params ++ more⟩

/-! ## Delete -/

/-- The DELETE of the rows that a filter of equalities matches. -/
def compileDelete (s : FieldSchema) (collection filter : Value) : Except Fault Statement := do
  let (restriction, params) ← compileEqualityWhere s filter 1
  let table ← Sql.nameOf collection
  return ⟨[.fixed "DELETE FROM ", table] ++ restriction ++ [.fixed " RETURNING *"], params⟩

end DocumentStore
