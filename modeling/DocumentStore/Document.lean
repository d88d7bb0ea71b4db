import DocumentStore.Conversion
import DocumentStore.Query.Operand
import DocumentStore.Schema.Field

/-!
# Documents and rows

A document becomes the column values of a row: references are dropped, bookkeeping fields are
coerced, declared fields are kept unless they are null, and other keys are reported as ignored. The
identifier comes last, a new one being drawn when the document has none. A row that comes back
becomes a document again, its JSON columns decoded and its identifier as text.
-/

set_option autoImplicit false

namespace DocumentStore

/-- The columns of JSON in a schema: the history and the declared fields of a JSON type. -/
def jsonColumns (s : FieldSchema) : List Value :=
  .text historyField :: (s.userFields.filter fun d => d.fieldType.any FieldType.isJson).map (·.name)

/-- A schema whose JSON columns can be looked up by name. -/
structure Mapper where
  schema : FieldSchema
  json : List Value

namespace Mapper

/-- The mapper of a schema. -/
def ofSchema (s : FieldSchema) : Except Fault Mapper := do
  let columns := jsonColumns s
  for c in columns do c.ensureHashable
  return ⟨s, columns⟩

/-- The value of a bookkeeping field. -/
def coerceInternal (key v : Value) : Except Fault Value := do
  match key with
  | .set _ => pure ()
  | key => key.ensureHashable
  if isNamed timestampFields key then (toTimestamp v).map Value.ofMoment
  else if key.same (.text historyField) then return .list []
  else return v

/-! ## From documents to rows -/

/-- Column values so far, and the keys that have no column. -/
structure Sorted where
  values : Entries
  ignored : List Value

/-- Adds an entry of a document. -/
def sortEntry (m : Mapper) (key v : Value) (acc : Sorted) : Except Fault Sorted := do
  if key.same (.text idField) then return acc
  else if ← isReferenceKey key then return acc
  else if isInternal key then
    let v ← coerceInternal key v
    return { acc with values := acc.values ++ [(key, v)] }
  else if m.schema.contains key then
    return if v.isNull then acc else { acc with values := acc.values ++ [(key, v)] }
  else return { acc with ignored := acc.ignored ++ [key] }

/-- Adds the entries of a document. -/
def sortEntries (m : Mapper) : List (Value × Value) → Sorted → Except Fault Sorted
  | [], acc => .ok acc
  | (key, v) :: rest, acc => do
    let acc ← sortEntry m key v acc
    sortEntries m rest acc

/-- The identifier that a document has, as text. -/
def givenId (es : Entries) : Except Fault (Option Value) :=
  match Entries.getText? es idField with
  | some v => if v.truthy then (v.written v.points).map fun id => some (.ofPoints id) else .ok none
  | none => .ok none

/-- The column values of a document without its identifier, and the keys that have no column. -/
def sortDocument (m : Mapper) (document : Value) : Except Fault Sorted :=
  match document with
  | .map es => sortEntries m es ⟨[], []⟩
  | v => .error (.noMember v.kind "items")

/-! ## From rows to documents -/

/-- Writes an identifier as text. -/
def idAsText (es : Entries) : Except Fault Entries :=
  match Entries.getText? es idField with
  | some .null => .ok es
  | some (.text _) => .ok es
  | some (.torn _) => .ok es
  | some v => v.shown.map fun id => Entries.insertText es idField (.text id)
  | none => .ok es

/-- Decodes the JSON columns. -/
def decodeColumns (columns : List Value) (es : Entries) : Entries :=
  es.map fun e => if columns.any fun c => c.same e.1 then (e.1, decodeJson e.2) else e

/-- The document of a row's entries. -/
def documentOf (m : Mapper) (row : Entries) : Except Fault Value :=
  (idAsText row).map fun es => .map (decodeColumns m.json es)

/-- The document of a row. -/
def toDocument (m : Mapper) (row : Value) : Except Fault Value := do
  let es ← row.entries
  m.documentOf es

/-- The documents of rows. -/
def toDocuments (m : Mapper) (rows : Value) : Except Fault (List Value) := do
  let rows ← rows.items
  rows.mapM m.toDocument

end Mapper

end DocumentStore
