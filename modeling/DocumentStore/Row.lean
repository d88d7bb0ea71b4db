import DocumentStore.Document
import DocumentStore.Log.Entry

/-!
# Rows to insert

The row of a document has its column values with the identifier last, a new one being drawn for a
document that has none. Keys without a column are reported in the log.
-/

set_option autoImplicit false

namespace DocumentStore.Mapper

/-- A warning about keys without a column, if there are any. -/
def reportIgnored (ignored : List Value) (j : Journal) : Journal :=
  if ignored.isEmpty then j
  else j.log .warning "Ignoring fields not declared in schema" [(.text "fields", .list ignored)]

/-- The identifier of a document: the one it has, or the next one drawn. -/
def identify (identifier : Nat → Uuid) (document : Entries) (j : Journal) :
    Except Fault Value × Journal :=
  match givenId document with
  | .error fault => (.error fault, j)
  | .ok (some id) => (.ok id, j)
  | .ok none =>
    let (u, j) := j.draw identifier
    (.ok (.text (String.ofList u.text)), j)

/-- The row of a document. -/
def rowOf (identifier : Nat → Uuid) (m : Mapper) (document : Value) (j : Journal) :
    Except Fault Entries × Journal :=
  match m.sortDocument document with
  | .error fault => (.error fault, j)
  | .ok sorted =>
    let (id, j) := identify identifier (match document with | .map es => es | _ => [])
      (reportIgnored sorted.ignored j)
    (id.map fun id => sorted.values ++ [(.text idField, id)], j)

/-- The rows of documents, up to the first that has none. -/
def rowsOf (identifier : Nat → Uuid) (m : Mapper) :
    List Value → Journal → Except Fault (List Entries) × Journal
  | [], j => (.ok [], j)
  | document :: rest, j =>
    match m.rowOf identifier document j with
    | (.error fault, j) => (.error fault, j)
    | (.ok row, j) =>
      let (rows, j) := m.rowsOf identifier rest j
      (rows.map (row :: ·), j)

end DocumentStore.Mapper
