import DocumentStore.Conversion
import DocumentStore.Json.Reader
import DocumentStore.Settings.Basic
import DocumentStore.Text.Blank
import DocumentStore.Text.Utf8

/-!
# Reading settings

Settings come from values given by name and from environment variables, whose names have a prefix.
Names may be written in either case. A value given wins, and what neither gives is standard.
Integers and flags may be written as texts. `Settings.read` reports every setting that cannot be
used.
-/

set_option autoImplicit false

namespace DocumentStore

/-- The variables of the environment, later ones winning over earlier ones. -/
abbrev Variables := List (String × String)

namespace Settings

/-! ## Single values -/

/-- A text, given as such or as its bytes. -/
def textOf? : Value → Option String
  | .text s => some s
  | .bytes b => (Text.Utf8.decode? b).map String.ofList
  | _ => none

/-- A text that may be absent. -/
def optionalTextOf? : Value → Option (Option String)
  | .null => some none
  | v => (textOf? v).map some

/-! ### Integer numerals

A numeral may begin with zeros, with underscores among them, and end in a fraction of zeros; single
underscores may stand between its other digits. A minus sign may also come behind the zeros.
-/

/-- What follows the zeros that a numeral begins with. When there is nothing but a fraction, `last`,
the character passed over last, stays. -/
def afterZeros? (last : Char) : List Char → Option (List Char)
  | [] => some [last]
  | c :: cs =>
    if c = '0' ∨ c = '_' then afterZeros? c cs
    else if c = '.' then some (last :: c :: cs)
    else if c = '-' ∨ ('1' ≤ c ∧ c ≤ '9') then some (c :: cs)
    else none

/-- A numeral without the zeros that it begins with. -/
def withoutZeros? : List Char → Option (List Char)
  | [] => none
  | c :: cs =>
    if c = '0' then afterZeros? c cs
    else if '1' ≤ c ∧ c ≤ '9' then some (c :: cs)
    else none

/-- A numeral without a fraction of zeros. -/
def withoutFraction (cs : List Char) : List Char :=
  match cs.dropWhile (· ≠ '.') with
  | _ :: z :: zs => if (z :: zs).all (· = '0') then cs.takeWhile (· ≠ '.') else cs
  | _ => cs

/-- Whether every underscore stands alone between other characters. `inside` says that another
character stands in front. -/
def underscoresFit (inside : Bool) : List Char → Bool
  | [] => inside
  | c :: cs => if c = '_' then inside && underscoresFit false cs else underscoresFit true cs

/-- A numeral without its underscores. -/
def withoutUnderscores? (cs : List Char) : Option (List Char) :=
  if underscoresFit false cs then some (cs.filter (· ≠ '_')) else none

/-- The digits of a numeral: a lone zero, or digits that do not begin with one. -/
def digits? (cs : List Char) : Option (List Nat) :=
  match Json.integral? cs with
  | some (ds, []) => if ds.length ≤ Text.Numeral.maxDigits then some ds else none
  | _ => none

/-- An integer numeral, blanks around it. It has at most one minus sign. -/
def numeral? (s : String) : Option Int := do
  let (outer, body) := Text.Numeral.takeSign (Text.strip Text.isSpace s.toList)
  let body ← withoutZeros? body
  let body ← withoutUnderscores? (withoutFraction body)
  let (inner, body) := Text.Numeral.takeSign body
  let ds ← digits? body
  if outer && inner then none
  else some (Text.Numeral.withSign (outer || inner) (Text.Numeral.value ds))

/-! ### Other values -/

/-- Floats that are read as integers lie within this bound. -/
def floatBound : Int := 0x8000000000000000

/-- An integer: a truth value, an integer, a float without a fraction, or a numeral. -/
def integerOf? : Value → Option Int
  | .bool b => some b.toNat
  | .int n => some n
  | .float x =>
    match x.ratio?, x.truncate? with
    | some (n, d), some i => if n = i * d ∧ -floatBound < i ∧ i < floatBound then some i else none
    | _, _ => none
  | v => (textOf? v).bind numeral?

/-- A flag: a truth value, a number that is zero or one, or a word for either. -/
def flagOf? (v : Value) : Option Bool :=
  match textOf? v with
  | some s =>
    if ["0", "off", "f", "false", "n", "no"].contains s.toLower then some false
    else if ["1", "on", "t", "true", "y", "yes"].contains s.toLower then some true
    else none
  | none =>
    match integerOf? v with
    | some n => if n = 0 then some false else if n = 1 then some true else none
    | none => none

/-- A page size. -/
def pageSizeOf? (v : Value) : Option { n : Int // 1 ≤ n } :=
  (integerOf? v).bind fun n => if h : 1 ≤ n then some ⟨n, h⟩ else none

/-- One of the names of a setting with few values. -/
def nameOf? {α : Type} (ofName? : String → Option α) : Value → Option α
  | .text s => ofName? s
  | _ => none

/-! ## All settings -/

/-- What stands in front of the name of a setting in the environment. -/
def variablePrefix : String := "pgdocstore_"

/-- The variable of a setting. -/
def environmentValue? (env : Variables) (name : String) : Option String :=
  (env.reverse.find? fun v => v.1.toLower == variablePrefix ++ name).map (·.2)

/-- Whether a key names a setting, in either case. -/
def namesSetting (name : String) : Value → Bool
  | .text s => s.toLower == name
  | _ => false

/-- The value given under the name of a setting: the name as it is wins over other spellings, and of
these the last one wins. -/
def givenValue? (given : Entries) (name : String) : Option Value :=
  match Entries.getText? given name with
  | some v => some v
  | none => (given.reverse.find? fun e => namesSetting name e.1).map (·.2)

/-- The value of a setting, when there is one. -/
def source? (env : Variables) (given : Entries) (name : String) : Option Value :=
  match givenValue? given name with
  | some v => some v
  | none => (environmentValue? env name).map .text

/-- A reading: a result, or the names of all settings that cannot be used. -/
abbrev Reading (α : Type) := Except (List String) α

/-- Applies a reading to a further one. -/
def Reading.apply {α β : Type} : Reading (α → β) → Reading α → Reading β
  | .ok f, .ok a => .ok (f a)
  | .ok _, .error names => .error names
  | .error names, .ok _ => .error names
  | .error names, .error more => .error (names ++ more)

/-- Reads one setting. -/
def readOne {α : Type} (env : Variables) (given : Entries) (name : String)
    (of? : Value → Option α) (default : α) : Reading α :=
  match source? env given name with
  | none => .ok default
  | some v =>
    match of? v with
    | some a => .ok a
    | none => .error [name]

/-- Settings with a page size that is known to be positive. -/
def make (echo : Bool) (host database : String) (password : Option String) (port : Int)
    (schema user : String) (pageSize : { n : Int // 1 ≤ n }) (environment : Environment)
    (logFormat : LogFormat) (logLevel : Level) : Settings :=
  ⟨echo, host, database, password, port, schema, user, pageSize.1, environment, logFormat, logLevel,
    pageSize.2⟩

/-- Reads all settings, in the order of their names. -/
def readAll (env : Variables) (given : Entries) : Reading Settings :=
  let one {α : Type} (name : String) (of? : Value → Option α) (default : α) : Reading α :=
    readOne env given name of? default
  let r : Reading _ := .ok make
  let r := Reading.apply r (one "db_echo" flagOf? standard.echo)
  let r := Reading.apply r (one "db_host" textOf? standard.host)
  let r := Reading.apply r (one "db_name" textOf? standard.database)
  let r := Reading.apply r (one "db_password" optionalTextOf? standard.password)
  let r := Reading.apply r (one "db_port" integerOf? standard.port)
  let r := Reading.apply r (one "db_schema" textOf? standard.schema)
  let r := Reading.apply r (one "db_user" textOf? standard.user)
  let r := Reading.apply r
    (one "default_page_size" pageSizeOf? ⟨standard.pageSize, standard.pageSize_pos⟩)
  let r := Reading.apply r (one "environment" (nameOf? Environment.ofName?) standard.environment)
  let r := Reading.apply r (one "log_format" (nameOf? LogFormat.ofName?) standard.logFormat)
  Reading.apply r (one "log_level" (nameOf? Level.ofSetting?) standard.logLevel)

/-- Reads settings. -/
def read (env : Variables) (given : Entries) : Except Fault Settings := do
  Entries.ensureNamed [] given
  match readAll env given with
  | .ok s => .ok s
  | .error names => .error (.settings names)

end Settings

end DocumentStore
