import DocumentStore.Proofs.Sql.Reading
import DocumentStore.Query.Select
import DocumentStore.Query.Write
import Mathlib.Algebra.GroupWithZero.Nat

/-!
# The form of a statement

A statement's text follows from its form: which columns it names and how, with which operators, and
how many values it binds where. No value is part of a form. `Form.sql` writes a form out, given how
its columns are written (`Naming`): under their own names, or as marks when only the text around the
names matters.

`Form.names` are the names that stand in the text, in their order, and `Form.arity` is how many
values it binds.
-/

set_option autoImplicit false

namespace DocumentStore

open Sql

/-! ## Kinds of columns -/

/-- How the values of a column are bound: as moments, as texts cast by the server, or as they
are. -/
inductive ColumnKind where
  | timestamp
  | dateTime
  | plain
deriving DecidableEq, Repr

/-- The kind of a column. -/
def FieldSchema.kindOf (s : FieldSchema) (column : Value) : ColumnKind :=
  if isNamed timestampFields column then .timestamp
  else if s.isDateTime column then .dateTime
  else .plain

namespace ColumnKind

/-- The cast of a value. -/
def castOne : ColumnKind → Sql
  | .dateTime => [.fixed "::text::timestamp"]
  | _ => []

/-- The cast of a list of values. -/
def castMany : ColumnKind → Sql
  | .timestamp => [.fixed "::timestamp[]"]
  | .dateTime => [.fixed "::text[]::timestamp[]"]
  | .plain => []

end ColumnKind

namespace Operator

/-- The text between a column and its operand. -/
def lead : Operator → String
  | .eq => " = "
  | .ne => " <> "
  | .lt => " < "
  | .lte => " <= "
  | .gt => " > "
  | .gte => " >= "
  | .isIn => " = ANY("
  | .containsAny => " = ANY("
  | .regex => " ILIKE "

/-- The text behind the operand of a column. -/
def trail (kind : ColumnKind) : Operator → Sql
  | .isIn => kind.castMany ++ [.fixed ")"]
  | .containsAny => kind.castMany ++ [.fixed ")"]
  | .regex => []
  | _ => kind.castOne

end Operator

/-! ## Forms -/

/-- The form of a condition. -/
structure ConditionForm (ν : Type) where
  column : ν
  operator : Operator

/-- The form of an assignment: whether it sets a value, and how many it adds. -/
structure AssignmentForm (ν : Type) where
  column : ν
  sets : Bool
  increments : Nat

/-- The number of values that an assignment binds. -/
def AssignmentForm.arity {ν : Type} (a : AssignmentForm ν) : Nat := a.sets.toNat + a.increments

/-- The form of a statement. A sort key is ascending or not; a limit and a number of rows to skip
are there or not. -/
inductive Form (ν : Type) where
  | find (columns : List ν) (conditions : List (ConditionForm ν)) (order : List (ν × Bool))
      (limit skip : Bool)
  | count (conditions : List (ConditionForm ν))
  | insert (columns : List ν)
  | update (assignments : List (AssignmentForm ν)) (conditions : List (ConditionForm ν))
  | delete (conditions : List (ConditionForm ν))

/-- How columns are written: each by a piece, its values with the casts of a kind. -/
structure Naming (ν : Type) where
  piece : ν → Piece
  kind : ν → ColumnKind

section Writing

variable {ν : Type} (n : Naming ν)

/-- Texts of items, numbered from an index on; each item takes as many numbers as it binds
values. -/
def numbered {α : Type} (arity : α → Nat) (sql : α → Int → Sql) : List α → Int → List Sql
  | [], _ => []
  | a :: as, index => sql a index :: numbered arity sql as (index + arity a)

/-- A condition. -/
def ConditionForm.sql (c : ConditionForm ν) (index : Int) : Sql :=
  [n.piece c.column, .fixed c.operator.lead, .placeholder index] ++
    c.operator.trail (n.kind c.column)

/-- Conditions, numbered from an index on. -/
def conditionsSql (cs : List (ConditionForm ν)) (start : Int) : List Sql :=
  numbered (fun _ => 1) (ConditionForm.sql n) cs start

/-- A WHERE clause, numbered from an index on; without conditions there is none. -/
def whereSql (cs : List (ConditionForm ν)) (start : Int) : Sql :=
  match cs with
  | [] => []
  | _ => .fixed " WHERE " :: join " AND " (conditionsSql n cs start)

/-- A value that is written to a column. -/
def valueSql (column : ν) (index : Int) : Sql := .placeholder index :: (n.kind column).castOne

/-- A value that is set: timestamps are bound as seconds. -/
def setSql (column : ν) (index : Int) : Sql :=
  match n.kind column with
  | .timestamp => [.fixed "to_timestamp(", .placeholder index, .fixed ")"]
  | kind => .placeholder index :: kind.castOne

/-- Values that are added. -/
def incrementsSql : Nat → Int → Sql
  | 0, _ => []
  | k + 1, index => .fixed " + " :: .placeholder index :: incrementsSql k (index + 1)

/-- An assignment: the value set, or the column, with what is added. -/
def AssignmentForm.sql (a : AssignmentForm ν) (index : Int) : Sql :=
  [n.piece a.column, .fixed " = "] ++
    if a.sets then setSql n a.column index ++ incrementsSql a.increments (index + 1)
    else n.piece a.column :: incrementsSql a.increments index

/-- The columns of a projection; without columns it is all of them. -/
def projectionSql (columns : List ν) : Sql :=
  match columns with
  | [] => [.fixed "*"]
  | _ => join ", " (columns.map fun c => [n.piece c])

/-- One key of a sort. -/
def sortKeySql (key : ν × Bool) : Sql :=
  [n.piece key.1, .fixed (if key.2 then " ASC" else " DESC")]

/-- An ORDER BY clause. -/
def orderSql (keys : List (ν × Bool)) : Sql :=
  .fixed " ORDER BY " :: join ", " (keys.map (sortKeySql n))

/-- A clause that binds one value, when it is there. -/
def clauseSql (keyword : String) (present : Bool) (index : Int) : Sql :=
  if present then [.fixed keyword, .placeholder index] else []

/-- The number of values that assignments bind. -/
def assignmentsArity (as : List (AssignmentForm ν)) : Nat := (as.map AssignmentForm.arity).sum

/-- The text of a form on a table. -/
def Form.sql (table : Piece) : Form ν → Sql
  | .find columns conditions order limit skip =>
    .fixed "SELECT " :: (projectionSql n columns ++ .fixed " FROM " :: table ::
      (whereSql n conditions 1 ++ (orderSql n order ++
        (clauseSql " LIMIT " limit (conditions.length + 1 : Nat) ++
          clauseSql " OFFSET " skip (conditions.length + limit.toNat + 1 : Nat)))))
  | .count conditions =>
    .fixed "SELECT COUNT(*) AS count FROM " :: table :: whereSql n conditions 1
  | .insert columns =>
    .fixed "INSERT INTO " :: table :: .fixed "(" ::
      (join ", " (columns.map fun c => [n.piece c]) ++ .fixed ") VALUES(" ::
        (join ", " (numbered (fun _ => 1) (valueSql n) columns 1) ++ [.fixed ") RETURNING *"]))
  | .update assignments conditions =>
    .fixed "UPDATE " :: table :: .fixed " SET " ::
      (join ", " (numbered AssignmentForm.arity (AssignmentForm.sql n) assignments 1) ++
        (whereSql n conditions (assignmentsArity assignments + 1 : Nat) ++ [.fixed " RETURNING *"]))
  | .delete conditions =>
    .fixed "DELETE FROM " :: table :: (whereSql n conditions 1 ++ [.fixed " RETURNING *"])

end Writing

/-- The number of values that a statement of a form binds. -/
def Form.arity {ν : Type} : Form ν → Nat
  | .find _ conditions _ limit skip => conditions.length + limit.toNat + skip.toNat
  | .count conditions => conditions.length
  | .insert columns => columns.length
  | .update assignments conditions => assignmentsArity assignments + conditions.length
  | .delete conditions => conditions.length

/-- The names of a form on a table, in the order of the text. An assignment that sets no value names
its column twice. -/
def Form.names {ν : Type} (table : ν) : Form ν → List ν
  | .find columns conditions order _ _ =>
    columns ++ table :: conditions.map (·.column) ++ order.map (·.1)
  | .count conditions => table :: conditions.map (·.column)
  | .insert columns => table :: columns
  | .update assignments conditions =>
    table :: assignments.flatMap (fun a => if a.sets then [a.column] else [a.column, a.column]) ++
      conditions.map (·.column)
  | .delete conditions => table :: conditions.map (·.column)

/-- A condition with its column replaced. -/
def ConditionForm.map {ν μ : Type} (f : ν → μ) (c : ConditionForm ν) : ConditionForm μ :=
  ⟨f c.column, c.operator⟩

/-- An assignment with its column replaced. -/
def AssignmentForm.map {ν μ : Type} (f : ν → μ) (a : AssignmentForm ν) : AssignmentForm μ :=
  ⟨f a.column, a.sets, a.increments⟩

/-- A form with its columns replaced. -/
def Form.map {ν μ : Type} (f : ν → μ) : Form ν → Form μ
  | .find columns conditions order limit skip =>
    .find (columns.map f) (conditions.map (.map f)) (order.map fun k => (f k.1, k.2)) limit skip
  | .count conditions => .count (conditions.map (.map f))
  | .insert columns => .insert (columns.map f)
  | .update assignments conditions =>
    .update (assignments.map (.map f)) (conditions.map (.map f))
  | .delete conditions => .delete (conditions.map (.map f))

end DocumentStore
