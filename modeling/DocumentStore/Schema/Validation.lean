import DocumentStore.Schema.Field
import DocumentStore.Text.Blank

/-!
# Validation of field schemas

Names must be texts that can be encoded and are not blank, short enough for an identifier and free
of NUL; types must exist. `Finding.ofSchema` lists every problem of a schema in order,
`FieldSchema.ensureValid` stops at the first.
-/

set_option autoImplicit false

namespace DocumentStore

/-- Whether a byte is ASCII white space. -/
def isBlankByte (b : UInt8) : Bool := b = 0x20 || (0x09 ≤ b && b ≤ 0x0D)

/-- The problems of a field name. A name that is blank has no other. -/
def nameProblems (name : Value) : Except Fault (List NameProblem) :=
  if !name.truthy then .ok [.required]
  else
    match name with
    | .text s =>
      if Text.trim s = "" then .ok [.required]
      else .ok ((if maxNameBytes < s.utf8ByteSize then [.tooLong] else []) ++
        (if s.toList.contains '\x00' then [.containsNul] else []))
    | .torn t => .error (.unencodable t)
    | .bytes b =>
      if b.all isBlankByte then .ok [.required] else .error (.noMember .bytes "encode")
    | v => .error (.noMember v.kind "strip")

/-- A problem found in a schema, at the index of its field. -/
inductive Finding where
  | name (index : Nat) (problem : NameProblem)
  | type (index : Nat) (given : Value)

namespace Finding

/-- Where the problem is. -/
def path : Finding → String
  | .name index _ => "fields[" ++ Text.Numeral.text index ++ "].name"
  | .type index _ => "fields[" ++ Text.Numeral.text index ++ "].type"

/-- The problem in words. -/
def message : Finding → String
  | .name _ problem => problem.message
  | .type _ given => "Unsupported field type '" ++ given.display ++ "'"

/-- The code under which the problem is reported. -/
def code : Finding → String
  | .name _ problem => problem.code
  | .type .. => "field_type_invalid"

/-- The problem of a type that does not exist, in whose words the type stands. -/
def ofType (index : Nat) (d : FieldDefinition) : Except Fault (List Finding) :=
  if d.fieldType = none then d.type.written [.type index d.type] else .ok []

/-- The problems of one definition. -/
def ofDefinition (index : Nat) (d : FieldDefinition) : Except Fault (List Finding) := do
  let problems ← nameProblems d.name
  let untyped ← ofType index d
  return problems.map (.name index) ++ untyped

/-- The problems of definitions, the first of which has the given index. -/
def ofDefinitions : Nat → List FieldDefinition → Except Fault (List Finding)
  | _, [] => .ok []
  | index, d :: ds => do
    let here ← ofDefinition index d
    let rest ← ofDefinitions (index + 1) ds
    return here ++ rest

/-- Every problem of a schema, in the order of its fields. -/
def ofSchema (s : FieldSchema) : Except Fault (List Finding) := ofDefinitions 0 s.fields

end Finding

/-- Accepts definitions without problems, the first of which has the given index. -/
def ensureDefinitions : Nat → List FieldDefinition → Except Fault Unit
  | _, [] => .ok ()
  | index, d :: ds => do
    match ← nameProblems d.name with
    | problem :: _ => throw (.invalidName index problem)
    | [] =>
      if d.fieldType = none then throw (.naming [d.name, d.type] (.unsupportedType d.name d.type))
    ensureDefinitions (index + 1) ds

/-- Accepts a schema without problems, and refuses any other with its first one. -/
def FieldSchema.ensureValid (s : FieldSchema) : Except Fault Unit := ensureDefinitions 0 s.fields

end DocumentStore
