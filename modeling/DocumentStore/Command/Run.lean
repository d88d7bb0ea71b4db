import DocumentStore.Command.Arguments
import DocumentStore.Command.Console
import DocumentStore.Json.Reader
import DocumentStore.Json.Writer
import DocumentStore.Page
import DocumentStore.Session.Store
import DocumentStore.Settings.Reading

/-!
# Running commands

`compile` prints the SELECT of a query with its parameters, `check` connects to the database and
closes the connection again, and `sync` reconciles a collection's table with a schema file. A run
ends well, with a misuse, with an error that is reported, or with a fault that is not. What it
prints or reports is handed to a console.
-/

set_option autoImplicit false

namespace DocumentStore.Command

/-- How a run ends. -/
inductive Ending where
  | success
  | misuse (reason : Option String)
  | reported (message : String)
  | fault (f : Fault)

/-- A run that ends with an error in these words. -/
def Ending.error (message : String) : Ending := .reported ("Error: " ++ message ++ "\n")

/-- What a run hands to the console and how it ends. -/
structure Outcome where
  output : String
  ending : Ending

namespace Outcome

/-- A run that ends well. -/
def print (output : String) : Outcome := ⟨output, .success⟩

/-- A run that ends without output. -/
def silent (ending : Ending) : Outcome := ⟨"", ending⟩

/-- A run that ends with a reported error. -/
def report (message : String) : Outcome := silent (.error message)

/-- What shows of the output of a run. -/
def shown (console : Console) (o : Outcome) : String := console.shown o.output

/-- The exit status. -/
def status (o : Outcome) : Nat :=
  match o.ending with
  | .success => 0
  | .misuse _ => 2
  | .reported _ => 1
  | .fault _ => 1

end Outcome

/-! ## Texts -/

/-- The version. -/
def versionText : String := "pgdocstore, version 0.1.0\n"

/-- How the program is used. -/
def helpText : String :=
  "Usage: pgdocstore [--log-level LEVEL] COMMAND\n\n" ++
  "  check                     connect to the database and close the connection\n" ++
  "  sync COLLECTION FILE      reconcile a collection's table with a schema file\n" ++
  "  compile COLLECTION QUERY  print the SELECT of a query\n"

/-- A JSON argument: the value, or the misuse. -/
def loadJson (what text : String) : Except Ending Value :=
  match Json.read? text.toList with
  | some v => .ok v
  | none => .error (.misuse (some (what ++ " is not valid JSON")))

/-- A JSON option: null when it is absent or empty. -/
def loadOption (what : String) : Option String → Except Ending Value
  | none => .ok .null
  | some text => if text = "" then .ok .null else loadJson what text

/-- An integer option as a value. -/
def ofInteger : Option Int → Value
  | some n => .int n
  | none => .null

/-! ## Compiling -/

/-- A fault while compiling: a refusal is reported. -/
def ofCompileFault (f : Fault) : Ending :=
  if f.isRefusal then .error f.message else .fault f

/-- The statement of a query. -/
def statementOf (collection query : String) (sort fields : Option String)
    (limit skip : Option Int) :
    Except Ending Statement := do
  let sort ← loadOption "--sort" sort
  let fields ← loadOption "--fields" fields
  let filter ← loadJson "query" query
  let options : Entries := [(.text "sort", sort), (.text "fields", fields),
    (.text "limit", ofInteger limit), (.text "skip", ofInteger skip)]
  match compileFind .empty (.text collection) filter (.value (.map options)) with
  | .ok statement => .ok statement
  | .error f => .error (ofCompileFault f)

/-- Prints a statement that can be encoded, and its parameters. -/
def printStatement (statement : Statement) : Outcome :=
  match statement.sql.firstTorn?, Json.text (.list statement.params) with
  | some t, _ => .silent (.fault (.unencodable t))
  | none, .ok params => .print (statement.text ++ "\n" ++ params ++ "\n")
  | none, .error f => { Outcome.print (statement.text ++ "\n") with ending := .fault f }

/-- Runs `compile`. -/
def runCompile (collection query : String) (sort fields : Option String) (limit skip : Option Int) :
    Outcome :=
  match statementOf collection query sort fields limit skip with
  | .ok statement => printStatement statement
  | .error ending => .silent ending

/-! ## Connecting -/

/-- A session of the program: nobody observes it and nothing is inserted in it. -/
def sessionOf {σ : Type} (urls : UrlLibrary) (settings : Settings) (driver : Driver σ) :
    Session σ Empty Unit where
  settings := settings
  urls := urls
  tableSchema := settings.tableSchema none
  driver := driver
  react := fun o => nomatch o
  identifier := fun n => ⟨BitVec.ofNat 128 n⟩
  metadata := Page.provider (.ok settings.pageSize)

/-- The place of the database. -/
def placeOf (s : Settings) : Except Fault String := do
  let port ← (Value.int s.port).shown
  return s.host ++ ":" ++ port

/-- A run that ends with words about the place of the database. -/
def Outcome.at (s : Settings) (words : String → Outcome) : Outcome :=
  match placeOf s with
  | .ok place => words place
  | .error f => .silent (.fault f)

section

variable {σ : Type} (urls : UrlLibrary)

/-- Connects and closes the connection. -/
def checking (s : Session σ Empty Unit) : Step σ Empty Unit Unit :=
  Step.andFinally (Session.connect s []) (Session.close s)

/-- Runs `check`. -/
def runCheck (settings : Settings) (driver : Driver σ) (w : World σ Empty Unit) :
    Outcome × World σ Empty Unit :=
  let (result, w) := Step.run (checking (sessionOf urls settings driver)) w
  (match result with
    | .ok () => .at settings fun place =>
        .print ("Connected to " ++ settings.database ++ " at " ++ place ++ "\n")
    | .error f => .at settings fun place =>
        .report ("could not connect to " ++ place ++ ": " ++ f.message), w)

/-- Connects, reconciles the table of a collection and closes the connection. -/
def syncing (s : Session σ Empty Unit) (collection : String) (schema : FieldSchema) :
    Step σ Empty Unit (List Value) := do
  Session.connect s []
  Step.andFinally (Session.reconcile s (.text collection) (.built schema)) (Session.close s)

/-- What `sync` prints for the columns that were made. -/
def syncText (collection : String) (added : List Value) : String :=
  if added.isEmpty then collection ++ " is up to date\n"
  else "Added columns to " ++ collection ++ ": " ++
    String.intercalate ", " (added.map Value.display) ++ "\n"

/-- Runs `sync` with a schema. -/
def runSyncWith (settings : Settings) (driver : Driver σ) (collection : String)
    (schema : FieldSchema) (w : World σ Empty Unit) : Outcome × World σ Empty Unit :=
  let (result, w) := Step.run (syncing (sessionOf urls settings driver) collection schema) w
  (match result with
    | .ok added => .print (syncText collection added)
    | .error f => .report f.message, w)

/-- Runs `sync` with the text of a schema file. -/
def runSync (settings : Settings) (driver : Driver σ) (collection text : String)
    (w : World σ Empty Unit) : Outcome × World σ Empty Unit :=
  match loadJson "schema file" text with
  | .error ending => (.silent ending, w)
  | .ok v =>
    match FieldSchema.of (.value v) with
    | .error f => (.silent (.fault f), w)
    | .ok schema => runSyncWith urls settings driver collection schema w

/-! ## Running -/

/-- The texts of files by name. -/
abbrev Files := List (String × String)

/-- Runs a command. -/
def runTask (settings : Settings) (driver : Driver σ) (files : Files) (task : Task)
    (w : World σ Empty Unit) : Outcome × World σ Empty Unit :=
  match task with
  | .help => (.print helpText, w)
  | .compile collection query sort fields limit skip =>
    (runCompile collection query sort fields limit skip, w)
  | .check => runCheck urls settings driver w
  | .sync collection file =>
    match files.find? fun f => f.1 == file with
    | some (_, text) => runSync urls settings driver collection text w
    | none =>
      (.silent (if file.toList.contains '\x00' then .fault (.value .nulInPath) else .misuse none),
        w)

/-- Runs the program. The settings are read before the arguments of the command. -/
def run (env : Variables) (driver : Driver σ) (files : Files) (args : List String)
    (w : World σ Empty Unit) : Outcome × World σ Empty Unit :=
  match Invocation.read? args with
  | none => (.silent (.misuse none), w)
  | some .version => (.print versionText, w)
  | some .help => (.print helpText, w)
  | some (.command _ name rest) =>
    match Settings.read env [] with
    | .error f => (.silent (.fault f), w)
    | .ok settings =>
      match Task.read? name rest with
      | none => (.silent (.misuse none), w)
      | some task => runTask urls settings driver files task w

end

end DocumentStore.Command
