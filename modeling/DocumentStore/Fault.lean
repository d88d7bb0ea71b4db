import DocumentStore.Value.Display

/-!
# Faults

A `Fault` says why an operation stopped. The first group are the refusals of this library: a request
that it understands and declines. The others report a value of the wrong kind, a value outside its
range, a missing key, a setting that cannot be used, or the words of the database driver.
`Fault.message` is the one place where a fault is put into words. A fault that names values takes
their texts at once, so that `Fault.naming` gives another one where a value has none; `Value.shown`
is the text of a value elsewhere.
-/

set_option autoImplicit false

namespace DocumentStore

/-- What is wrong with a query, an update or a row to insert. -/
inductive QueryProblem where
  | emptyName
  | nulInName
  | booleanTimestamp
  | unreadableTimestamp (text : String)
  | unsuitableTimestamp (kind : Kind)
  | notInteger (option : String)
  | sortNotMapping
  | fieldsNotNames
  | nothingToInsert
  | updateNotMapping
  | operandNotMapping (key : Value)
  | nothingToUpdate

/-- What is wrong with a field name. -/
inductive NameProblem where
  | required
  | tooLong
  | containsNul
deriving DecidableEq, Repr

/-- The most bytes a field name may have: longer identifiers are cut off by the server. -/
def maxNameBytes : Nat := 63

namespace NameProblem

/-- The problem in words. -/
def message : NameProblem → String
  | .required => "Field name is required"
  | .tooLong => "Field name must be at most " ++ Text.Numeral.text maxNameBytes ++ " bytes"
  | .containsNul => "Field name must not contain NUL characters"

/-- The code under which the problem is reported. -/
def code : NameProblem → String
  | .required => "field_name_required"
  | .tooLong => "field_name_too_long"
  | .containsNul => "field_name_invalid_format"

end NameProblem

/-- A value whose kind does not allow what is asked of it. -/
inductive KindProblem where
  | notIterable (kind : Kind)
  | noMembership (kind : Kind)
  | bytesMembership
  | textIndex
  | sequenceIndex (kind : Kind)
  | notSubscriptable (kind : Kind)
  | unhashable (kind : Kind)
  | bytesStart
  | jsonKey (kind : Kind)
  | notPair (index : Nat)
  | notNumber (kind : Kind)
  | operands (operator : String) (left right : Kind)
  | comparison (operator : String) (left right : Kind)
  | notReal (kind : Kind)
  | urlPart (part : String)
  | urlPort
  | repeatedArgument (name : String)
  | argumentName (kind : Kind)

/-- A value that its kind allows and its use does not. -/
inductive ValueProblem where
  | year (year : Int)
  | nanTimestamp
  | numeral (text : Value)
  | numeralTooLong (digits : Nat)
  | nanInteger
  | pairLength (index length : Nat)
  | unknownEvent (name : String)
  | unknownState (number : Int)
  | nulInPath
  | unwritable

/-- A number or a time beyond what can be represented. -/
inductive RangeProblem where
  | quotient
  | clock
  | date
  | float
  | infiniteInteger
deriving DecidableEq, Repr

/-- Why an operation stopped. -/
inductive Fault where
  | notConnected
  | unsupportedOperator (operator : String) (field : Value)
  | invalidQuery (problem : QueryProblem)
  | invalidName (index : Nat) (problem : NameProblem)
  | unsupportedType (field type : Value)
  | driver (message : String)
  | settings (fields : List String)
  | noMember (kind : Kind) (member : String)
  | kind (problem : KindProblem)
  | value (problem : ValueProblem)
  | range (problem : RangeProblem)
  | missingKey (key : Value)
  | unencodable (t : Text.Torn)
  | calendar

/-- The families of faults. -/
inductive Fault.Category where
  | refusal
  | driver
  | settings
  | member
  | kind
  | value
  | range
  | key
  | system
deriving DecidableEq, Repr

namespace QueryProblem

/-- The problem in words. -/
def message : QueryProblem → String
  | .emptyName => "Identifiers must be non-empty strings"
  | .nulInName => "Identifiers must not contain NUL characters"
  | .booleanTimestamp => "Booleans cannot be used as timestamps"
  | .unreadableTimestamp text => "Cannot interpret '" ++ text ++ "' as a timestamp"
  | .unsuitableTimestamp kind => "Cannot interpret " ++ kind.name ++ " as a timestamp"
  | .notInteger option => option ++ " must be an integer"
  | .sortNotMapping => "sort must be a mapping of field to direction"
  | .fieldsNotNames => "fields must be a mapping or a list of field names"
  | .nothingToInsert => "Nothing to insert"
  | .updateNotMapping => "update must be a mapping of operators"
  | .operandNotMapping key => "'" ++ key.display ++ "' must map fields to values"
  | .nothingToUpdate => "Update has no fields to modify"

end QueryProblem

namespace KindProblem

/-- The problem in words. -/
def message : KindProblem → String
  | .notIterable kind => "'" ++ kind.qualifiedName ++ "' object is not iterable"
  | .noMembership kind => "argument of type '" ++ kind.qualifiedName ++ "' is not iterable"
  | .bytesMembership => "a bytes-like object is required, not 'str'"
  | .textIndex => "string indices must be integers, not 'str'"
  | .sequenceIndex kind => kind.qualifiedName ++ " indices must be integers or slices, not str"
  | .notSubscriptable kind => "'" ++ kind.qualifiedName ++ "' object is not subscriptable"
  | .unhashable kind => "unhashable type: '" ++ kind.qualifiedName ++ "'"
  | .bytesStart => "startswith first arg must be bytes or a tuple of bytes, not str"
  | .jsonKey kind => "keys must be str, int, float, bool or None, not " ++ kind.qualifiedName
  | .notPair index =>
      "cannot convert dictionary update sequence element #" ++ Text.Numeral.text index ++
        " to a sequence"
  | .notNumber kind =>
      "'" ++ kind.qualifiedName ++ "' object is not a number"
  | .operands operator left right =>
      "unsupported operand type(s) for " ++ operator ++ ": '" ++ left.qualifiedName ++ "' and '" ++
        right.qualifiedName ++ "'"
  | .comparison operator left right =>
      "'" ++ operator ++ "' not supported between instances of '" ++ left.qualifiedName ++
        "' and '" ++ right.qualifiedName ++ "'"
  | .notReal kind => "must be real number, not " ++ kind.qualifiedName
  | .urlPart part => part ++ " must be a string"
  | .urlPort => "Port argument must be an integer or None"
  | .repeatedArgument name => "got multiple values for argument '" ++ name ++ "'"
  | .argumentName kind => "keywords must be strings, not " ++ kind.qualifiedName

end KindProblem

namespace ValueProblem

/-- The problem in words. -/
def message : ValueProblem → String
  | .year y => "year " ++ Text.Numeral.text y ++ " is out of range"
  | .nanTimestamp => "Invalid value NaN (not a number)"
  | .numeral text =>
      "not an integer numeral: " ++ String.ofList (text.literal.take Value.patternShown)
  | .numeralTooLong digits =>
      "an integer numeral of " ++ Text.Numeral.text digits ++ " digits exceeds the limit of " ++
        Text.Numeral.text Text.Numeral.maxDigits
  | .nanInteger => "cannot convert float NaN to integer"
  | .pairLength index length =>
      "dictionary update sequence element #" ++ Text.Numeral.text index ++ " has length " ++
        Text.Numeral.text length ++ "; 2 is required"
  | .unknownEvent name => (Value.text name).display ++ " is not a valid event"
  | .unknownState number => Text.Numeral.text number ++ " is not a valid connection state"
  | .nulInPath => "embedded null byte"
  | .unwritable =>
      "an integer exceeds the limit of " ++ Text.Numeral.text Text.Numeral.maxDigits ++ " digits"

end ValueProblem

namespace RangeProblem

/-- The problem in words. -/
def message : RangeProblem → String
  | .quotient => "integer division result too large for a float"
  | .clock => "timestamp out of range for platform time_t"
  | .date => "date value out of range"
  | .float => "int too large to convert to float"
  | .infiniteInteger => "cannot convert float infinity to integer"

end RangeProblem

namespace Fault

/-- Why a torn text has no encoding, in words. -/
def unencodableMessage (t : Text.Torn) : String :=
  let start := Text.Numeral.text t.firstAt
  let (what, place) :=
    match t.firstRun with
    | [p] => ("character '" ++ String.ofList p.shown ++ "'", "position " ++ start)
    | run =>
      ("characters", "position " ++ start ++ "-" ++ Text.Numeral.text (t.firstAt + run.length - 1))
  "'utf-8' codec can't encode " ++ what ++ " in " ++ place ++ ": surrogates not allowed"

/-- The fault in words. -/
def message : Fault → String
  | .notConnected => "DB_DISCONNECTED"
  | .unsupportedOperator operator field =>
      "Unsupported operator '" ++ operator ++ "'" ++
        (if field.isNull then "" else " on field '" ++ field.display ++ "'")
  | .invalidQuery problem => problem.message
  | .invalidName index problem =>
      "fields[" ++ Text.Numeral.text index ++ "].name: " ++ problem.message
  | .unsupportedType field type =>
      "Field '" ++ field.display ++ "' has unsupported type '" ++ type.display ++ "'"
  | .driver message => message
  | .settings fields => "invalid settings: " ++ String.intercalate ", " fields
  | .noMember k member => "'" ++ k.qualifiedName ++ "' object has no attribute '" ++ member ++ "'"
  | .kind problem => problem.message
  | .value problem => problem.message
  | .range problem => problem.message
  | .missingKey key => String.ofList key.literal
  | .unencodable t => unencodableMessage t
  | .calendar => "[Errno 75] Value too large for defined data type"

/-- The family of a fault. -/
def category : Fault → Category
  | .notConnected => .refusal
  | .unsupportedOperator .. => .refusal
  | .invalidQuery _ => .refusal
  | .invalidName .. => .refusal
  | .unsupportedType .. => .refusal
  | .driver _ => .driver
  | .settings _ => .settings
  | .noMember .. => .member
  | .kind _ => .kind
  | .value _ => .value
  | .range _ => .range
  | .missingKey _ => .key
  | .unencodable _ => .value
  | .calendar => .system

/-- Whether a fault is one of this library's own refusals. -/
def isRefusal (f : Fault) : Bool := f.category = .refusal

/-- A fault in whose words these values stand. It takes their texts, and where one of them cannot be
written, that is the fault. -/
def naming (vs : List Value) (f : Fault) : Fault :=
  if vs.all Value.writable then f else .value .unwritable

end Fault

namespace Value

/-- A text that is made of a value, which must be one that can be written. -/
def written {α : Type} (v : Value) (text : α) : Except Fault α :=
  if v.writable then .ok text else .error (.value .unwritable)

/-- The plain text of a value that can be written. -/
def shown (v : Value) : Except Fault String := v.written v.display

end Value

end DocumentStore
