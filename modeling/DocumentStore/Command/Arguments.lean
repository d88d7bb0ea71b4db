import DocumentStore.Log.Entry
import DocumentStore.Settings.Basic
import DocumentStore.Text.Numeral

/-!
# Command-line arguments

The program has options of its own, which come before the name of a command, and each command has
options and positional arguments in any order. A value follows its option or is joined to it by an
equals sign; two hyphens end the options. What does not fit is a misuse.
-/

set_option autoImplicit false

namespace DocumentStore.Command

/-! ## Options and positional arguments -/

/-- An option that was given, with its value if it takes one. -/
abbrev Given := String × Option String

/-- Whether an argument is an option. -/
def isOption (arg : String) : Bool :=
  match arg.toList with
  | '-' :: _ :: _ => true
  | _ => false

/-- An option and the value that is joined to it. -/
def splitOption (arg : String) : String × Option String :=
  let cs := arg.toList
  (String.ofList (cs.takeWhile (· ≠ '=')),
    if cs.contains '=' then some (String.ofList ((cs.dropWhile (· ≠ '=')).drop 1)) else none)

/-- The options and the positional arguments. `takesValue?` knows the options and which of them take
a value; unless `mixed`, the first positional argument ends the options. -/
def scan? (takesValue? : String → Option Bool) (mixed : Bool) :
    List String → Option (List Given × List String)
  | [] => some ([], [])
  | arg :: rest =>
    if arg = "--" then some ([], rest)
    else if isOption arg then
      let (name, joined) := splitOption arg
      match takesValue? name, joined with
      | none, _ => none
      | some false, some _ => none
      | some false, none => (scan? takesValue? mixed rest).map fun r => ((name, none) :: r.1, r.2)
      | some true, some v =>
        (scan? takesValue? mixed rest).map fun r => ((name, some v) :: r.1, r.2)
      | some true, none =>
        match rest with
        | [] => none
        | v :: rest => (scan? takesValue? mixed rest).map fun r => ((name, some v) :: r.1, r.2)
    else if mixed then (scan? takesValue? mixed rest).map fun r => (r.1, arg :: r.2)
    else some ([], arg :: rest)

/-- The value of an option, the last one when it was given more than once. -/
def valueOf (given : List Given) (name : String) : Option String :=
  (given.reverse.find? fun g => g.1 == name).bind (·.2)

/-- Knows the options with a value and those without. -/
def known (valued plain : List String) (name : String) : Option Bool :=
  if valued.contains name then some true else if plain.contains name then some false else none

/-! ## The program's own options -/

/-- The names of the commands. -/
inductive Name where
  | compile
  | check
  | sync
deriving DecidableEq, Repr

/-- The command of a name. -/
def Name.ofText? (s : String) : Option Name :=
  if s = "compile" then some .compile
  else if s = "check" then some .check
  else if s = "sync" then some .sync
  else none

/-- What the program is asked to do. -/
inductive Invocation where
  | version
  | help
  | command (logLevel : Option Level) (name : Name) (args : List String)

/-- The level that an option value names; none when there is no value. -/
def levelOption? : Option String → Option (Option Level)
  | none => some none
  | some s => (Level.ofSetting? s).map some

/-- The program's own options at the start of arguments, and the arguments behind them. -/
def scanOwn? (args : List String) : Option (List Given × List String) :=
  scan? (known ["--log-level"] ["--version", "--help"]) false args

/-- What the first option without a value asks for. -/
def Invocation.ofOption? (given : List Given) : Option Invocation :=
  (given.find? fun g => g.2.isNone).map fun g => if g.1 = "--version" then .version else .help

/-- Reads the arguments up to the name of a command. Where a name should stand, an option without a
value still counts: two hyphens do not hide it. -/
def Invocation.read? (args : List String) : Option Invocation :=
  (scanOwn? args).bind fun (given, rest) =>
    match Invocation.ofOption? given with
    | some asked => some asked
    | none =>
      (levelOption? (valueOf given "--log-level")).bind fun level =>
        match rest with
        | [] => none
        | name :: more =>
          match Name.ofText? name with
          | some name => some (.command level name more)
          | none => (scanOwn? rest).bind fun (given, _) => Invocation.ofOption? given

/-! ## Commands -/

/-- A command with its arguments. -/
inductive Task where
  | help
  | compile (collection query : String) (sort fields : Option String) (limit skip : Option Int)
  | check
  | sync (collection file : String)

/-- An integer option value; none when there is no value. -/
def integerOption? : Option String → Option (Option Int)
  | none => some none
  | some s =>
    match Text.Numeral.readInt s.toList with
    | .ok n => some (some n)
    | .error _ => none

/-- The query of a command that gives none. -/
def anyQuery : String := "\x7b\x7d"

/-- Reads the collection and the query of `compile`. -/
def compilePlaces? : List String → Option (String × String)
  | [collection] => some (collection, anyQuery)
  | [collection, query] => some (collection, query)
  | _ => none

/-- The options with a value that a command has. -/
def valuedOptions : Name → List String
  | .compile => ["--sort", "--fields", "--limit", "--skip"]
  | .check => []
  | .sync => []

/-- Reads the positional arguments of a command. -/
def taskOf? (name : Name) (given : List Given) (places : List String) : Option Task :=
  match name with
  | .compile =>
    (compilePlaces? places).bind fun (collection, query) =>
      (integerOption? (valueOf given "--limit")).bind fun limit =>
        (integerOption? (valueOf given "--skip")).map fun skip =>
          .compile collection query (valueOf given "--sort") (valueOf given "--fields") limit skip
  | .check => if places.isEmpty then some .check else none
  | .sync =>
    match places with
    | [collection, file] => some (.sync collection file)
    | _ => none

/-- Reads the arguments behind the name of a command. -/
def Task.read? (name : Name) (args : List String) : Option Task :=
  (scan? (known (valuedOptions name) ["--help"]) true args).bind fun (given, places) =>
    if given.any fun g => g.2.isNone then some .help else taskOf? name given places

end DocumentStore.Command
