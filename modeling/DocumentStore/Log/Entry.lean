import DocumentStore.Value.Basic

/-!
# Log entries

A log entry has a level, the name of what happened and fields in order. A context adds further
fields to every entry made inside it, except those that the entry has already. Leaving a context
takes its fields away, also those that an outer context had under the same names.
-/

set_option autoImplicit false

namespace DocumentStore

/-- The levels of log entries. -/
inductive Level where
  | debug
  | info
  | warning
  | error
  | critical
deriving DecidableEq, Repr

namespace Level

/-- The name of a level. -/
def name : Level → String
  | .debug => "debug"
  | .info => "info"
  | .warning => "warning"
  | .error => "error"
  | .critical => "critical"

/-- How weighty a level is. -/
def rank : Level → Nat
  | .debug => 0
  | .info => 1
  | .warning => 2
  | .error => 3
  | .critical => 4

/-- All levels. -/
def all : List Level := [.debug, .info, .warning, .error, .critical]

/-- The level of a name. -/
def ofName? (s : String) : Option Level := all.find? fun l => l.name == s

/-- Reading a name gives its level. -/
theorem ofName?_name (l : Level) : ofName? l.name = some l := by cases l <;> decide

end Level

/-- One entry of a log. -/
structure LogEntry where
  level : Level
  event : String
  fields : Entries

/-! ## Contexts -/

/-- The fields that are added to every entry. -/
abbrev LogContext := Entries

namespace LogContext

/-- The context inside a further one. -/
def enter (context fields : LogContext) : LogContext :=
  fields.foldl (fun c e => Entries.insert c e.1 e.2) context

/-- The context behind an inner one. -/
def leave (context fields : LogContext) : LogContext :=
  fields.foldl (fun c e => Entries.erase c e.1) context

/-- The field under which an entry holds what happened. -/
def eventField : String := "event"

/-- Fields with those of the context that the entry lacks. -/
def complete (context : LogContext) (fields : Entries) : Entries :=
  fields ++ context.filter fun e => !Entries.contains fields e.1 && !e.1.same (.text eventField)

end LogContext

/-! ## Journals -/

/-- The log of a session with its context, and how many identifiers were drawn. -/
structure Journal where
  context : LogContext
  entries : List LogEntry
  drawn : Nat

namespace Journal

/-- A journal without entries. -/
def empty : Journal := ⟨[], [], 0⟩

/-- Adds an entry. -/
def log (j : Journal) (level : Level) (event : String) (fields : Entries) : Journal :=
  { j with entries := j.entries ++ [⟨level, event, j.context.complete fields⟩] }

/-- Draws the next identifier. -/
def draw (identifier : Nat → Uuid) (j : Journal) : Uuid × Journal :=
  (identifier (j.drawn + 1), { j with drawn := j.drawn + 1 })

/-- Enters a context. -/
def enter (j : Journal) (fields : LogContext) : Journal :=
  { j with context := j.context.enter fields }

/-- Leaves a context. -/
def leave (j : Journal) (fields : LogContext) : Journal :=
  { j with context := j.context.leave fields }

@[simp] theorem log_context (j : Journal) (level : Level) (event : String) (fields : Entries) :
    (j.log level event fields).context = j.context := rfl

end Journal

end DocumentStore
