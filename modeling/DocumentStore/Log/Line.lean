import DocumentStore.Conversion
import DocumentStore.Json.Writer
import DocumentStore.Settings.Basic
import DocumentStore.Text.Utf8

/-!
# Log lines

Outside development a log in JSON form has one line per entry: its fields and those of the context,
then the level, the logger, the time and the message. A field that has one of these names keeps its
place and gets the new value. Entries below the level of the settings are passed over.
-/

set_option autoImplicit false

namespace DocumentStore

/-- The logger of entries that name none. -/
def defaultLogger : String := "pgdocstore"

/-- Fields with the name of the logger. -/
def nameLogger (logger : Option Value) (fields : Entries) : Entries :=
  Entries.insertText fields "logger" (logger.getD (.text defaultLogger))

/-- Fields with what happened as the message. -/
def renameEvent (fields : Entries) : Entries :=
  match Entries.getText? fields LogContext.eventField with
  | some v => Entries.insertText (Entries.erase fields (.text LogContext.eventField)) "message" v
  | none => fields

namespace LogEntry

/-- Byte fields as texts. -/
def decodeBytes : Value → Value
  | .bytes b => .text (Text.Utf8.decodeLossy b)
  | v => v

/-- The fields that ask for a stack or a failure to be written out; there is none to write. -/
def requestFields : List Value := [.text "stack_info", .text "exc_info"]

/-- The entries of a line. -/
def lineEntries (e : LogEntry) (time : String) : Entries :=
  let fields := Entries.insertText e.fields "level" (.text e.level.name)
  let fields := Entries.insertText (nameLogger none fields) "timestamp" (.text time)
  let fields := fields.map fun f => (f.1, decodeBytes f.2)
  let fields := Entries.insertText fields "message" (.text e.event)
  fields.filter fun f => !requestFields.any fun r => r.same f.1

/-- The line of an entry. -/
def line (e : LogEntry) (time : String) : Except Fault String :=
  (Json.writeWith (fun v => v.written (String.ofList v.literal)) (.map (e.lineEntries time))).map
    String.ofList

end LogEntry

/-! ## Writing lines -/

namespace Settings

/-- Whether the log is written as lines of JSON. -/
def writesLines (s : Settings) : Bool := s.environment != .development && s.logFormat == .json

/-- Whether entries of a level are written. -/
def shows (s : Settings) (l : Level) : Bool := s.logLevel.rank ≤ l.rank

end Settings

/-- A log that is written line by line: its settings, its context, and the contexts that are open,
the innermost first. -/
structure LineLog where
  settings : Settings
  context : LogContext
  within : List LogContext

namespace LineLog

/-- A log without a context. -/
def start (s : Settings) : LineLog := ⟨s, [], []⟩

/-- The name that no field can have. -/
def takenName : String := "self"

/-- The name that no field of a written entry can have. -/
def levelName : String := "method_name"

/-- Enters a context. -/
def enter (l : LineLog) (fields : LogContext) : Except Fault LineLog := do
  Entries.ensureNamed [takenName] fields
  return { l with context := l.context.enter fields, within := fields :: l.within }

/-- Leaves the innermost context. -/
def leave (l : LineLog) : LineLog :=
  match l.within with
  | [] => l
  | fields :: outer => { l with context := l.context.leave fields, within := outer }

/-- The names that no field of an entry can have. -/
def takenNames (l : LineLog) (level : Level) : List String :=
  if l.settings.shows level then [takenName, LogContext.eventField, levelName]
  else [takenName, LogContext.eventField]

/-- The line of an entry, when it is written. -/
def write (l : LineLog) (level : Level) (event : String) (fields : Entries) (time : String) :
    Except Fault (Option String) := do
  Entries.ensureNamed (l.takenNames level) fields
  if l.settings.writesLines && l.settings.shows level then
    (LogEntry.line ⟨level, event, l.context.complete fields⟩ time).map some
  else .ok none

end LineLog

end DocumentStore
