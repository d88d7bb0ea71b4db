import DocumentStore.Fault
import DocumentStore.Text.Occurrence

/-!
# Field schemas

A collection is a table together with a field schema: an ordered list of declared fields. Names and
types are kept as they were given, so that validation can report them; `FieldDefinition.fieldType`
is the type when it is one of the six that exist. `FieldSchema.of` builds a schema from a mapping of
field names to attributes, or from a mapping that holds one under `fields`.
-/

set_option autoImplicit false

namespace DocumentStore

/-- The types of fields. -/
inductive FieldType where
  | string
  | number
  | dateTime
  | mixed
  | object
  | reference
deriving DecidableEq, Repr

namespace FieldType

/-- The name of a type in a schema. -/
def name : FieldType → String
  | .string => "String"
  | .number => "Number"
  | .dateTime => "DateTime"
  | .mixed => "Mixed"
  | .object => "Object"
  | .reference => "Reference"

/-- All types. -/
def all : List FieldType := [.string, .number, .dateTime, .mixed, .object, .reference]

/-- The type of a name. -/
def ofName? (s : String) : Option FieldType := all.find? fun t => t.name == s

/-- Whether fields of a type are stored as JSON. -/
def isJson (t : FieldType) : Bool := t == .mixed || t == .object

/-- Reading a name gives its type. -/
theorem ofName?_name (t : FieldType) : ofName? t.name = some t := by cases t <;> decide

end FieldType

/-! ## Reserved names -/

/-- The bookkeeping columns that every table has. -/
def internalFields : List String :=
  ["_id", "_apiVersion", "_version", "_history", "_createdAt", "_createdBy", "_lastModifiedBy",
   "_lastModifiedAt"]

/-- The bookkeeping columns that hold timestamps. -/
def timestampFields : List String := ["_createdAt", "_lastModifiedAt"]

/-- The bookkeeping column that holds the history. -/
def historyField : String := "_history"

/-- The column of the identifier. -/
def idField : String := "_id"

/-- Whether a name is one of a list of texts. -/
def isNamed (names : List String) : Value → Bool
  | .text s => names.contains s
  | _ => false

/-- Whether a name is reserved. -/
def isInternal (name : Value) : Bool := isNamed internalFields name

/-- Whether a key holds a resolved reference, which is never written. Only texts can be asked. -/
def isReferenceKey : Value → Except Fault Bool
  | .text s => .ok ("_ref".toList.isPrefixOf s.toList)
  | .torn t => .ok ((Text.points "_ref").isPrefixOf t.points)
  | .bytes _ => .error (.kind .bytesStart)
  | v => .error (.noMember v.kind "startswith")

/-! ## Definitions and schemas -/

/-- A declared field, name and type as they were given. -/
structure FieldDefinition where
  name : Value
  type : Value
  required : Bool

/-- The declared type, when it exists. -/
def FieldDefinition.fieldType (d : FieldDefinition) : Option FieldType :=
  match d.type with
  | .text s => FieldType.ofName? s
  | _ => none

/-- Declared fields in order. -/
structure FieldSchema where
  fields : List FieldDefinition

namespace FieldSchema

/-- No declared fields. -/
def empty : FieldSchema := ⟨[]⟩

/-- The first definition of a name. -/
def get? (s : FieldSchema) (name : Value) : Option FieldDefinition :=
  s.fields.find? fun d => d.name.same name

/-- Whether a name is declared. -/
def contains (s : FieldSchema) (name : Value) : Bool := s.fields.any fun d => d.name.same name

/-- The declared names in order. -/
def names (s : FieldSchema) : List Value := s.fields.map (·.name)

/-- The declared fields other than the reserved ones. -/
def userFields (s : FieldSchema) : List FieldDefinition :=
  s.fields.filter fun d => !isInternal d.name

/-- The type of a column that is declared and not reserved. -/
def columnType (s : FieldSchema) (name : Value) : Option FieldType :=
  if isInternal name then none else (s.get? name).bind (·.fieldType)

/-- Whether a column is a declared DateTime field. -/
def isDateTime (s : FieldSchema) (name : Value) : Bool := s.columnType name == some .dateTime

end FieldSchema

/-! ## Building a schema -/

/-- What a caller gives for a schema: a value, or a schema that is built already. -/
inductive SchemaSource where
  | value (v : Value)
  | built (s : FieldSchema)

/-- The value that must hold field attributes, once a surrounding collection file is taken off: a
mapping under `fields` is unwrapped. -/
def unwrapFields : Value → Except Fault Value
  | .map es =>
    match Entries.getText? es "fields" with
    | some (.map fields) => .ok (.map fields)
    | _ => .ok (.map es)
  | .text s =>
    if Text.occursIn "fields".toList s.toList then .error (.kind .textIndex) else .ok (.text s)
  | .torn t =>
    if Text.occursIn "fields".toList t.standIn then .error (.kind .textIndex) else .ok (.torn t)
  | .list xs =>
    if xs.any fun x => x.same (.text "fields") then .error (.kind (.sequenceIndex .list))
    else .ok (.list xs)
  | .tuple xs =>
    if xs.any fun x => x.same (.text "fields") then .error (.kind (.sequenceIndex .tuple))
    else .ok (.tuple xs)
  | .set xs =>
    if xs.any fun x => x.same (.text "fields") then .error (.kind (.notSubscriptable .set))
    else .ok (.set xs)
  | .bytes _ => .error (.kind .bytesMembership)
  | v => .error (.kind (.noMembership v.kind))

/-- The attributes of a field: anything that counts as false stands for none. -/
def attributesOf (v : Value) : Except Fault Entries :=
  if v.truthy then
    match v with
    | .map es => .ok es
    | v => .error (.noMember v.kind "get")
  else .ok []

/-- The definition of a field with its attributes. -/
def definitionOf (name attributes : Value) : Except Fault FieldDefinition :=
  (attributesOf attributes).map fun es =>
    ⟨name, Entries.getD es "type" (.text ""), (Entries.getD es "required" (.bool false)).truthy⟩

/-- Builds a schema. -/
def FieldSchema.of : SchemaSource → Except Fault FieldSchema
  | .built s => .ok s
  | .value .null => .ok .empty
  | .value v => do
    match ← unwrapFields v with
    | .map es => return ⟨← es.mapM fun e => definitionOf e.1 e.2⟩
    | v => throw (.noMember v.kind "items")

end DocumentStore
