import DocumentStore.DatabaseUrl
import DocumentStore.Event.Emission
import DocumentStore.Query.Options
import DocumentStore.Sql

/-!
# Sessions

A session is what one connector works with: settings, a library for addresses, a database driver,
observers, a source of identifiers and a provider of page metadata. Driver and observers are
arbitrary functions with a state of their own. A `World` is where a session stands: the connector,
the driver with every request that was made of it, and the hub of the observers. An `Step` runs in a
world and gives a result or a fault; what it did to the world before a fault stays done.
-/

set_option autoImplicit false

namespace DocumentStore

/-! ## The driver -/

/-- What is asked of the driver. Engines and connections are numbered in the order in which they
were opened. -/
inductive Request where
  | createEngine (url : DatabaseUrl) (echo : Bool)
  | openConnection (engine : Nat)
  | setAutocommit (connection : Nat)
  | execute (connection : Nat) (statement : Statement)
  | closeConnection (connection : Nat)
  | disposeEngine (engine : Nat)

/-- What the driver replies: rows, when a statement returns rows, and a count otherwise. -/
structure Reply where
  rows : Option (List Entries)
  count : Int

/-- A database driver with a state. -/
abbrev Driver (σ : Type) := Request → σ → Except String Reply × σ

/-! ## Sessions and worlds -/

/-- The fixed parts of a session. -/
structure Session (σ ω τ : Type) where
  settings : Settings
  urls : UrlLibrary
  tableSchema : String
  driver : Driver σ
  react : Observers ω τ
  identifier : Nat → Uuid
  metadata : QueryOptions → Value → Except Fault Value

/-- The schema that a session's tables are in: one of its own, or that of the settings. -/
def Settings.tableSchema (s : Settings) : Option String → String
  | some name => if name = "" then s.schema else name
  | none => s.schema

/-- A connector: its state, and the engine and the connection that it holds. -/
structure Connector where
  state : ConnectionState
  engine : Option Nat
  connection : Option Nat
deriving DecidableEq, Repr

namespace Connector

/-- A connector that holds nothing. -/
def idle : Connector := ⟨.disconnected, none, none⟩

/-- Whether a connector is connected. -/
def isConnected (c : Connector) : Bool := c.state == .connected

/-- The connection that statements run on. -/
def live? (c : Connector) : Option Nat := if c.isConnected then c.connection else none

end Connector

/-- The driver's side: its state, the requests made of it in order, and how many engines and
connections were opened. -/
structure Link (σ : Type) where
  driver : σ
  requests : List Request
  engines : Nat
  connections : Nat

/-- Where a session stands. -/
structure World (σ ω τ : Type) where
  connector : Connector
  link : Link σ
  hub : Hub ω τ

namespace World

variable {σ ω τ : Type}

/-- The world of a new session. -/
def start (driver : σ) (memory : τ) : World σ ω τ := ⟨.idle, ⟨driver, [], 0, 0⟩, .start memory⟩

/-- The world with a log entry. -/
def log (w : World σ ω τ) (level : Level) (event : String) (fields : Entries) : World σ ω τ :=
  { w with hub := w.hub.log level event fields }

/-- The world with another journal. -/
def withJournal (w : World σ ω τ) (j : Journal) : World σ ω τ := { w with hub.journal := j }

end World

/-! ## Steps -/

/-- A step of a session. -/
abbrev Step (σ ω τ α : Type) := ExceptT Fault (StateM (World σ ω τ)) α

namespace Step

variable {σ ω τ α β : Type}

/-- The result of a step and the world behind it. -/
def run (a : Step σ ω τ α) (w : World σ ω τ) : Except Fault α × World σ ω τ := a w

/-- A step that is given by its run. -/
def ofRun (f : World σ ω τ → Except Fault α × World σ ω τ) : Step σ ω τ α := f

/-- The result of a computation outside the world. -/
def demand (r : Except Fault α) : Step σ ω τ α := ofRun fun w => (r, w)

/-- Changes the world. -/
def change (f : World σ ω τ → World σ ω τ) : Step σ ω τ Unit := ofRun fun w => (.ok (), f w)

/-- Looks at the world. -/
def look (f : World σ ω τ → α) : Step σ ω τ α := ofRun fun w => (.ok (f w), w)

/-- The outcome of a step, a fault being an outcome too. -/
def attempt (a : Step σ ω τ α) : Step σ ω τ (Except Fault α) :=
  ofRun fun w => (.ok (a w).1, (a w).2)

/-- Performs a further step whatever the outcome of the first. A fault of the further step wins. -/
def andFinally (a : Step σ ω τ α) (further : Step σ ω τ Unit) : Step σ ω τ α := do
  let outcome ← attempt a
  further
  demand outcome

/-- Adds a log entry. -/
def log (level : Level) (event : String) (fields : Entries) : Step σ ω τ Unit :=
  change fun w => w.log level event fields

/-- Performs a step inside a log context. -/
def inContext (fields : LogContext) (a : Step σ ω τ α) : Step σ ω τ α :=
  ofRun fun w =>
    let (outcome, w) := a (w.withJournal (w.hub.journal.enter fields))
    (outcome, w.withJournal (w.hub.journal.leave fields))

/-- Performs what only needs the journal. -/
def ofJournal (f : Journal → Except Fault α × Journal) : Step σ ω τ α :=
  ofRun fun w =>
    let (outcome, j) := f w.hub.journal
    (outcome, w.withJournal j)

/-- Makes a request of the driver. -/
def request (s : Session σ ω τ) (r : Request) : Step σ ω τ Reply :=
  ofRun fun w =>
    let (outcome, driver) := s.driver r w.link.driver
    let w : World σ ω τ :=
      { w with link.driver := driver, link.requests := w.link.requests ++ [r] }
    (match outcome with
      | .ok reply => .ok reply
      | .error message => .error (.driver message), w)

/-- Emits an event. -/
def emit (s : Session σ ω τ) (event : ConnectionEvent) (payload : Payload) :
    Step σ ω τ (List String) :=
  ofRun fun w =>
    let (reports, hub) := w.hub.emit s.identifier s.react event payload
    (.ok reports, { w with hub := hub })

/-- Changes the connector. -/
def changeConnector (f : Connector → Connector) : Step σ ω τ Unit :=
  change fun w => { w with connector := f w.connector }

/-! ### What steps do -/

@[simp] theorem run_pure (a : α) (w : World σ ω τ) : run (pure a) w = (.ok a, w) := rfl

@[simp] theorem run_throw (fault : Fault) (w : World σ ω τ) :
    run (throw fault : Step σ ω τ α) w = (.error fault, w) := rfl

theorem run_bind (a : Step σ ω τ α) (next : α → Step σ ω τ β) (w : World σ ω τ) :
    run (a >>= next) w =
      match run a w with
      | (.ok x, w) => run (next x) w
      | (.error fault, w) => (.error fault, w) := by
  change (ExceptT.bindCont next (a w).1) (a w).2 = _
  rcases h : a w with ⟨_ | x, w'⟩ <;> simp only [run, h] <;> rfl

@[simp] theorem run_ofRun (f : World σ ω τ → Except Fault α × World σ ω τ) (w : World σ ω τ) :
    run (ofRun f) w = f w := rfl

@[simp] theorem run_demand (r : Except Fault α) (w : World σ ω τ) : run (demand r) w = (r, w) := rfl

@[simp] theorem run_change (f : World σ ω τ → World σ ω τ) (w : World σ ω τ) :
    run (change f) w = (.ok (), f w) := rfl

@[simp] theorem run_look (f : World σ ω τ → α) (w : World σ ω τ) :
    run (look f) w = (.ok (f w), w) := rfl

@[simp] theorem run_attempt (a : Step σ ω τ α) (w : World σ ω τ) :
    run (attempt a) w = (.ok (run a w).1, (run a w).2) := rfl

end Step

end DocumentStore
