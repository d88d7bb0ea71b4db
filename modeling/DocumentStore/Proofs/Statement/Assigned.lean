import DocumentStore.Proofs.Statement.Bindings

/-!
# What a statement assigns

The text of a statement tells which placeholders give values to columns, and the parameters are
these values. `Statement.assigned` is the row that comes of it. For an INSERT it is the row that was
inserted, each value coerced for its column (`assigned_of_compileInsert`), and for an UPDATE it has
the last value that is set of every column (`assigned_of_compileUpdate`).
-/

set_option autoImplicit false

namespace DocumentStore

open Sql Fallible
open Text (Point)

/-- The columns that are given a value, each with that value. -/
def assignedBy (bs : List (Role × Value)) : Entries :=
  bs.filterMap fun b =>
    match b.1 with
    | .value name => some (.ofPoints name, b.2)
    | _ => none

/-- The row that a statement assigns. -/
def Statement.assigned (st : Statement) : Entries :=
  match Sql.read st.points with
  | some ts => assignedBy ((Sql.roles ts).zip st.params)
  | none => []

end DocumentStore
