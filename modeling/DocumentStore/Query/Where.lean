import DocumentStore.Query.Condition
import DocumentStore.Query.Operand
import DocumentStore.Query.Pattern
import DocumentStore.Schema.Field
import DocumentStore.Sql

/-!
# Compiled conditions

A condition becomes a fragment of SQL and one parameter. Operands of timestamp columns and of
DateTime fields are coerced as written values are, and their placeholders are cast. `compileWhere`
joins the fragments of a filter; `compileEqualityWhere` is its restriction to equalities, which is
what updates and deletes accept.
-/

set_option autoImplicit false

namespace DocumentStore

/-- The placeholder of an operand, or of a list of operands. -/
def filterPlaceholder (s : FieldSchema) (column : Value) (index : Int) (many : Bool) : Sql :=
  if isNamed timestampFields column then
    .placeholder index :: (if many then [.fixed "::timestamp[]"] else [])
  else if s.isDateTime column then
    [.placeholder index, .fixed (if many then "::text[]::timestamp[]" else "::text::timestamp")]
  else [.placeholder index]

/-- The parameter of an operand. -/
def filterValue (s : FieldSchema) (column operand : Value) : Except Fault Value :=
  if isNamed timestampFields column then (toTimestamp operand).map Value.ofMoment
  else if s.isDateTime column then (toDateTimeText operand).map Value.ofText
  else .ok operand

/-- The operands of a membership test: the items of a list, or the one value. -/
def memberOperands : Value → List Value
  | .list xs => xs
  | .tuple xs => xs
  | .set xs => xs
  | v => [v]

/-- The comparison sign of an operator that compares with one operand. -/
def Operator.sign? : Operator → Option String
  | .eq => some "="
  | .ne => some "<>"
  | .lt => some "<"
  | .lte => some "<="
  | .gt => some ">"
  | .gte => some ">="
  | .isIn => none
  | .containsAny => none
  | .regex => none

/-- The fragment and the parameter of a comparison with one operand. -/
def compileComparison (s : FieldSchema) (c : Condition) (name : Piece) (index : Int) :
    Except Fault (Sql × Value) := do
  let operand ← filterValue s c.field c.operand
  match c.operator.bind Operator.sign? with
  | some sign =>
    return ([name, .fixed (" " ++ sign ++ " ")] ++ filterPlaceholder s c.field index false, operand)
  | none => throw (.unsupportedOperator "Condition" c.field)

/-- The fragment and the parameter of a membership test. -/
def compileMembership (s : FieldSchema) (c : Condition) (name : Piece) (index : Int) :
    Except Fault (Sql × Value) := do
  let operands ← (memberOperands c.operand).mapM (filterValue s c.field)
  return ([name, .fixed " = ANY("] ++ filterPlaceholder s c.field index true ++ [.fixed ")"],
    .list operands)

/-- The fragment and the parameter of a condition. -/
def compileCondition (s : FieldSchema) (c : Condition) (index : Int) :
    Except Fault (Sql × Value) := do
  let name ← Sql.nameOf c.field
  match c.operator with
  | some .regex =>
    let pattern ← c.operand.written c.operand.points
    return ([name, .fixed " ILIKE ", .placeholder index], Value.ofPoints (Pattern.contains pattern))
  | some .isIn => compileMembership s c name index
  | some .containsAny => compileMembership s c name index
  | _ => compileComparison s c name index

/-- The fragments and parameters of conditions, numbered from `start`. -/
def compileConditions (s : FieldSchema) : List Condition → Int → Except Fault (List (Sql × Value))
  | [], _ => .ok []
  | c :: cs, start => do
    let head ← compileCondition s c start
    let tail ← compileConditions s cs (start + 1)
    return head :: tail

/-- The WHERE clause and the parameters of conditions, numbered from `start`. -/
def compileWhere (s : FieldSchema) (conditions : List Condition) (start : Int) :
    Except Fault (Sql × List Value) := do
  let compiled ← compileConditions s conditions start
  match compiled with
  | [] => return ([], [])
  | _ => return (.fixed " WHERE " :: Sql.join " AND " (compiled.map (·.1)), compiled.map (·.2))

/-- Accepts conditions that are all equalities. -/
def ensureEqualities : List Condition → Except Fault Unit
  | [] => .ok ()
  | c :: cs =>
    match c.operator with
    | some .eq => ensureEqualities cs
    | some o => .error (.naming [c.field] (.unsupportedOperator o.name c.field))
    | none => .error (.naming [c.field] (.unsupportedOperator "Condition" c.field))

/-- The WHERE clause and the parameters of a filter of equalities. -/
def compileEqualityWhere (s : FieldSchema) (filter : Value) (start : Int) :
    Except Fault (Sql × List Value) := do
  let conditions ← Condition.ofFilter filter
  ensureEqualities conditions
  compileWhere s conditions start

end DocumentStore
