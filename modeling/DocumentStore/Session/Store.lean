import DocumentStore.Query.Select
import DocumentStore.Query.Write
import DocumentStore.Row
import DocumentStore.Session.Catalog

/-!
# The document store

Inserting, finding, updating, deleting and counting documents of a collection. Every operation needs
a connected connector. An insert reconciles the table and then inserts each document with a
statement of its own; a document that fails does not keep the others from being inserted, and what
became of each is reported.
-/

set_option autoImplicit false

namespace DocumentStore

/-- What became of one document of an insert: the row that came back, if any, and the fault, if it
failed. -/
structure InsertOutcome where
  index : Int
  document : Value
  row : Option Value
  fault : Option Fault

/-- Whether a document was inserted. -/
def InsertOutcome.succeeded (o : InsertOutcome) : Bool := o.fault.isNone

/-- An insert of which at least one document failed. -/
structure PartialInsert where
  outcomes : List InsertOutcome

namespace PartialInsert

/-- The rows of the documents that were inserted. -/
def rows (p : PartialInsert) : List Value :=
  (p.outcomes.filter (·.succeeded)).filterMap (·.row)

/-- The outcomes of the documents that failed. -/
def failures (p : PartialInsert) : List InsertOutcome := p.outcomes.filter fun o => !o.succeeded

/-- A failure in words. -/
def describe (o : InsertOutcome) : String :=
  "[" ++ Text.Numeral.text o.index ++ "] " ++ (o.fault.map Fault.message).getD Value.null.display

/-- What failed, in words. -/
def message (p : PartialInsert) : String :=
  Text.Numeral.text p.failures.length ++ " of " ++ Text.Numeral.text p.outcomes.length ++
    " documents failed to insert: " ++ String.intercalate "; " (p.failures.map describe)

end PartialInsert

namespace Session

variable {σ ω τ : Type}

open Step

/-! ## Inserting -/

/-- The documents of an insert: a single mapping, or the items of a list. -/
def documentsOf : Value → Except Fault (List Value)
  | .map es => .ok [.map es]
  | v => v.items

/-- Inserts one document: the row that came back. -/
def insertDocument (s : Session σ ω τ) (m : Mapper) (collection : Value) (document : Entries) :
    Step σ ω τ (Option Value) := do
  let row ← ofJournal (m.rowOf s.identifier (.map document))
  let statement ← demand (compileInsert m.schema collection (.map row))
  let result ← execute s statement
  match result.rows with
  | row :: _ => demand ((m.documentOf row).map some)
  | [] => return none

/-- Inserts one document: what became of it. -/
def insertOne (s : Session σ ω τ) (m : Mapper) (collection : Value) (index : Nat)
    (document : Entries) : Step σ ω τ InsertOutcome := do
  match ← attempt (insertDocument s m collection document) with
  | .ok row => return ⟨index, .map document, row, none⟩
  | .error fault =>
    log .error "Document insert failed"
      [(.text "index", .int index), (.text "error", .text fault.message)]
    return ⟨index, .map document, none, some fault⟩

/-- Inserts documents, the first of which has the given index. -/
def insertAll (s : Session σ ω τ) (m : Mapper) (collection : Value) :
    Nat → List Entries → Step σ ω τ (List InsertOutcome)
  | _, [] => return []
  | index, document :: rest => do
    let outcome ← insertOne s m collection index document
    let outcomes ← insertAll s m collection (index + 1) rest
    return outcome :: outcomes

/-- Inserts documents into a reconciled table: the rows that came back, or what became of each
document when one failed. -/
def insertReconciled (s : Session σ ω τ) (documents : List Value) (collection : Value)
    (schema : FieldSchema) : Step σ ω τ (Except PartialInsert (List (Option Value))) := do
  log .debug "Inserting documents" [(.text "count", .int documents.length)]
  let _ ← reconcile s collection (.built schema)
  let m ← demand (Mapper.ofSchema schema)
  let documents ← demand (documents.mapM Value.entries)
  let outcomes ← insertAll s m collection 0 documents
  if outcomes.all (·.succeeded) then
    log .info "Documents inserted" [(.text "count", .int outcomes.length)]
    return .ok (outcomes.map (·.row))
  else return .error ⟨outcomes⟩

/-- Inserts one document or a list of documents. -/
def insert (s : Session σ ω τ) (data collection : Value) (source : SchemaSource) :
    Step σ ω τ (Except PartialInsert (List (Option Value))) := do
  requireConnected
  let documents ← demand (documentsOf data)
  let schema ← demand (FieldSchema.of source)
  inContext [(.text "collection", collection)] (insertReconciled s documents collection schema)

/-! ## Finding -/

/-- The count in the first row, zero without rows. -/
def countOf (result : QueryResult) : Except Fault Int :=
  match result.rows with
  | [] => .ok 0
  | row :: _ => do (← cell row "count").integer

/-- Page metadata. -/
def metadataOf (s : Session σ ω τ) (options : OptionsSource) (count : Value) :
    Step σ ω τ Value := do
  let o ← demand (QueryOptions.of options)
  demand (s.metadata o count)

/-- The documents of rows. -/
def documentsOfRows (schema : FieldSchema) (rows : List Entries) : Except Fault Value := do
  let m ← Mapper.ofSchema schema
  (rows.mapM m.documentOf).map .list

/-- The documents that a filter matches, with page metadata. -/
def find (s : Session σ ω τ) (filter collection : Value) (options : OptionsSource)
    (source : SchemaSource) : Step σ ω τ Entries := do
  requireConnected
  let o ← demand (QueryOptions.of options)
  let schema ← demand (FieldSchema.of source)
  log .debug "Finding documents"
    [(.text "collection", collection), (.text "query", filter), (.text "options", .map o.toEntries)]
  let statement ← demand (compileFindWith schema collection filter o)
  let response ← execute s statement
  let counting ← demand (compileCount schema collection filter)
  let counted ← execute s counting
  let total ← demand (countOf counted)
  let documents ← demand (documentsOfRows schema response.rows)
  let metadata ← metadataOf s (.built o) (.int total)
  return [(.text "results", documents), (.text "metadata", metadata)]

/-! ## Changing -/

/-- Updates the documents that a filter matches. -/
def update (s : Session σ ω τ) (filter collection change : Value) (source : SchemaSource) :
    Step σ ω τ Entries := do
  requireConnected
  log .debug "Updating documents"
    [(.text "collection", collection), (.text "query", filter), (.text "update", change)]
  let schema ← demand (FieldSchema.of source)
  let statement ← demand (compileUpdate schema collection filter change)
  let response ← execute s statement
  let documents ← demand (documentsOfRows schema response.rows)
  return [(.text "results", documents)]

/-- Deletes the documents that a filter matches. -/
def delete (s : Session σ ω τ) (filter collection : Value) (source : SchemaSource) :
    Step σ ω τ Entries := do
  requireConnected
  log .debug "Deleting documents" [(.text "collection", collection), (.text "query", filter)]
  let schema ← demand (FieldSchema.of source)
  let statement ← demand (compileDelete schema collection filter)
  let response ← execute s statement
  return [(.text "deletedCount", .int response.rows.length)]

/-- The number of documents of a collection. -/
def stats (s : Session σ ω τ) (collection : Value) : Step σ ω τ Entries := do
  requireConnected
  let counting ← demand (compileCount .empty collection .null)
  let counted ← execute s counting
  let total ← demand (countOf counted)
  return [(.text "count", .int total)]

end Session

end DocumentStore
