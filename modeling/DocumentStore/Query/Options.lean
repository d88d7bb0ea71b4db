import DocumentStore.Conversion

/-!
# Query options

Sort order, projection and pagination of a find. `QueryOptions.of` reads them from a mapping:
integers may be written as texts, negative ones are ignored, and an empty sort or projection is
none. Options may also be filled in field by field and are then taken as they are, so the fields are
values; null stands for an absent one.
-/

set_option autoImplicit false

namespace DocumentStore

/-- Query options. -/
structure QueryOptions where
  sort : Value
  fields : Value
  limit : Value
  skip : Value
  page : Value

/-- What a caller gives for options: a value, or options that are built already. -/
inductive OptionsSource where
  | value (v : Value)
  | built (o : QueryOptions)

namespace QueryOptions

/-- No options. -/
def empty : QueryOptions := ⟨.null, .null, .null, .null, .null⟩

/-- Whether a text is taken for a numeral: digits of any kind behind any number of minus signs,
blanks around them. -/
def looksNumeric (s : String) : Bool :=
  let body := (Text.strip Text.isBlank s.toList).dropWhile (· = '-')
  !body.isEmpty && body.all Text.isDigit

/-- An integer that is not negative; a negative one counts as absent. -/
def keepNonNegative (n : Int) : Value := if 0 ≤ n then .int n else .null

/-- An integer option. -/
def countOf (name : String) : Value → Except Fault Value
  | .null => .ok .null
  | .int n => .ok (keepNonNegative n)
  | .text s =>
    if looksNumeric s then (Value.integer (.text s)).map keepNonNegative
    else .error (.invalidQuery (.notInteger name))
  | _ => .error (.invalidQuery (.notInteger name))

/-- The sort option: a mapping, none when it is empty. -/
def sortOf : Value → Except Fault Value
  | .null => .ok .null
  | .map [] => .ok .null
  | .map es => .ok (.map es)
  | _ => .error (.invalidQuery .sortNotMapping)

/-- The projection: one name, the keys of a mapping, or a list of names. -/
def fieldsOf (v : Value) : Except Fault Value :=
  if v.truthy then
    match v with
    | .text s => .ok (.list [.text s])
    | .torn t => .ok (.list [.torn t])
    | .map es => .ok (.list (Entries.keys es))
    | .list xs => .ok (.list xs)
    | .tuple xs => .ok (.list xs)
    | .bytes b => .ok (.list (b.map fun x => .int x.toNat))
    | _ => .error (.invalidQuery .fieldsNotNames)
  else .ok .null

/-- Reads options from the entries of a mapping. -/
def ofEntries (es : Entries) : Except Fault QueryOptions := do
  let sort ← sortOf (Entries.getD es "sort" .null)
  let fields ← fieldsOf (Entries.getD es "fields" .null)
  let limit ← countOf "limit" (Entries.getD es "limit" .null)
  let skip ← countOf "skip" (Entries.getD es "skip" .null)
  let page ← countOf "page" (Entries.getD es "page" .null)
  return ⟨sort, fields, limit, skip, page⟩

/-- Reads options. -/
def of : OptionsSource → Except Fault QueryOptions
  | .built o => .ok o
  | .value .null => .ok empty
  | .value (.map es) => ofEntries es
  | .value v => .error (.noMember v.kind "get")

/-- The options that are present, as a mapping. -/
def toEntries (o : QueryOptions) : Entries :=
  [(.text "sort", o.sort), (.text "fields", o.fields), (.text "limit", o.limit),
   (.text "skip", o.skip), (.text "page", o.page)].filter fun e => !e.2.isNull

end QueryOptions

end DocumentStore
