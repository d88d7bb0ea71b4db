import DocumentStore.Log.Entry
import DocumentStore.Number.Double

/-!
# Settings

Where the database is, which schema its tables are in, how large a page is when nobody says so, and
what is logged in which form. A page has at least one place.
-/

set_option autoImplicit false

namespace DocumentStore

/-- Where a program runs. -/
inductive Environment where
  | development
  | production
  | testing
deriving DecidableEq, Repr

namespace Environment

/-- The name of an environment. -/
def name : Environment → String
  | .development => "development"
  | .production => "production"
  | .testing => "testing"

/-- All environments. -/
def all : List Environment := [.development, .production, .testing]

/-- The environment of a name. -/
def ofName? (s : String) : Option Environment := all.find? fun e => e.name == s

end Environment

/-- The forms of the log. -/
inductive LogFormat where
  | json
  | console
deriving DecidableEq, Repr

namespace LogFormat

/-- The name of a form. -/
def name : LogFormat → String
  | .json => "json"
  | .console => "console"

/-- All forms. -/
def all : List LogFormat := [.json, .console]

/-- The form of a name. -/
def ofName? (s : String) : Option LogFormat := all.find? fun f => f.name == s

end LogFormat

/-- The name of a level in settings. -/
def Level.setting : Level → String
  | .debug => "DEBUG"
  | .info => "INFO"
  | .warning => "WARNING"
  | .error => "ERROR"
  | .critical => "CRITICAL"

/-- The level of a name in settings. -/
def Level.ofSetting? (s : String) : Option Level := Level.all.find? fun l => l.setting == s

/-- Settings. -/
structure Settings where
  echo : Bool
  host : String
  database : String
  password : Option String
  port : Int
  schema : String
  user : String
  pageSize : Int
  environment : Environment
  logFormat : LogFormat
  logLevel : Level
  pageSize_pos : 1 ≤ pageSize

namespace Settings

/-- The settings where none are given. -/
def standard : Settings where
  echo := false
  host := "localhost"
  database := "content"
  password := none
  port := 5432
  schema := "public"
  user := "postgres"
  pageSize := 50
  environment := .development
  logFormat := .json
  logLevel := .info
  pageSize_pos := by decide

/-- Settings by name, in the order of the names. -/
def toEntries (s : Settings) : Entries :=
  [(.text "db_echo", .bool s.echo), (.text "db_host", .text s.host),
    (.text "db_name", .text s.database),
   (.text "db_password", (s.password.map Value.text).getD .null), (.text "db_port", .int s.port),
   (.text "db_schema", .text s.schema), (.text "db_user", .text s.user),
   (.text "default_page_size", .int s.pageSize), (.text "environment", .text s.environment.name),
   (.text "log_format", .text s.logFormat.name), (.text "log_level", .text s.logLevel.setting)]

end Settings

end DocumentStore
