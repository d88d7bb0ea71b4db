import DocumentStore.Session.World

/-!
# The life of a connection

`connect` opens an engine and a connection and tells the observers; when the driver refuses, the
engine is disposed of, the connector is disconnected again, and the observers get the fault. `close`
gives both back. Statements run on the connection while the connector is connected, and nowhere
else.
-/

set_option autoImplicit false

namespace DocumentStore.Session

variable {σ ω τ : Type}

open Step

/-! ## Opening -/

/-- Opens an engine, which the connector then holds. -/
def openEngine (s : Session σ ω τ) (url : DatabaseUrl) : Step σ ω τ Nat := do
  let _ ← request s (.createEngine url s.settings.echo)
  change fun w => { w with
    link.engines := w.link.engines + 1
    connector.engine := some (w.link.engines + 1) }
  look fun w => w.link.engines

/-- Opens a connection of an engine, which the connector does not hold yet. -/
def openConnection (s : Session σ ω τ) (engine : Nat) : Step σ ω τ Nat := do
  let _ ← request s (.openConnection engine)
  change fun w => { w with link.connections := w.link.connections + 1 }
  look fun w => w.link.connections

/-- Opens engine and connection and has every statement committed at once. -/
def openAll (s : Session σ ω τ) (url : DatabaseUrl) : Step σ ω τ Unit := do
  let engine ← openEngine s url
  let connection ← openConnection s engine
  let _ ← request s (.setAutocommit connection)
  changeConnector fun c => { c with connection := some connection }

/-- Disposes of the engine that the connector holds, if it holds one. -/
def disposeEngine (s : Session σ ω τ) : Step σ ω τ Unit := do
  match ← look fun w => w.connector.engine with
  | some engine => let _ ← request s (.disposeEngine engine)
  | none => pure ()

/-- Closes the connection that the connector holds, if it holds one. -/
def closeConnection (s : Session σ ω τ) : Step σ ω τ Unit := do
  match ← look fun w => w.connector.connection with
  | some connection => let _ ← request s (.closeConnection connection)
  | none => pure ()

/-- Gives up an attempt to connect. -/
def abandon (s : Session σ ω τ) (fault : Fault) : Step σ ω τ Unit := do
  changeConnector fun c => { c with state := .disconnected }
  disposeEngine s
  changeConnector fun c => { c with engine := none, connection := none }
  log .error "Database connection failed" [(.text "error", .text fault.message)]
  let _ ← emit s .error (.fault fault)
  throw fault

/-- Tells that the connector has connected. -/
def announce (s : Session σ ω τ) (url : DatabaseUrl) : Step σ ω τ Unit := do
  changeConnector fun c => { c with state := .connected }
  log .info "Database connected"
    [(.text "database", .text url.database), (.text "host", .text url.host)]
  let _ ← emit s .connected (.connector .connected)

/-- The address of a connection, and its text with the password hidden. -/
def address (s : Session σ ω τ) (overrides : Entries) : Except Fault (DatabaseUrl × String) := do
  let url ← DatabaseUrl.build s.urls s.settings overrides
  let shown ← s.urls.text url
  return (url, shown)

/-- Connects a connector that is not connected. -/
def connectAnew (s : Session σ ω τ) (overrides : Entries) : Step σ ω τ Unit := do
  changeConnector fun c => { c with state := .connecting }
  let (url, shown) ← demand (address s overrides)
  log .debug "Connecting" [(.text "database_url", .text shown)]
  match ← attempt (openAll s url) with
  | .error fault => abandon s fault
  | .ok () => announce s url

/-- Connects, unless the connector is connected already. -/
def connect (s : Session σ ω τ) (overrides : Entries) : Step σ ω τ Unit := do
  demand (DatabaseUrl.ensureOverrides overrides)
  if ← look fun w => w.connector.isConnected then pure () else connectAnew s overrides

/-! ## Closing -/

/-- Tells that the connector has disconnected. -/
def announceClosed (s : Session σ ω τ) : Step σ ω τ Unit := do
  log .info "Database connection closed" []
  let _ ← emit s .disconnected (.connector .disconnected)

/-- Closes the connection and disposes of the engine. -/
def close (s : Session σ ω τ) : Step σ ω τ Unit := do
  closeConnection s
  disposeEngine s
  let wasConnected ← look fun w => w.connector.isConnected
  changeConnector fun _ => .idle
  if wasConnected then announceClosed s else pure ()

/-- Puts the connector into the state of a number. -/
def forceState (number : Int) : Step σ ω τ Unit := do
  let state ← demand (ConnectionState.ofNumber number)
  changeConnector fun c => { c with state := state }

/-! ## Statements -/

/-- The connection that statements run on. -/
def liveConnection : Step σ ω τ Nat :=
  ofRun fun w =>
    (match w.connector.live? with
      | some connection => .ok connection
      | none => .error .notConnected, w)

/-- Refuses unless there is a live connection. -/
def requireConnected : Step σ ω τ Unit := do
  let _ ← liveConnection

/-- The outcome of a statement. -/
structure QueryResult where
  rows : List Entries
  count : Int

/-- The outcome that a reply tells of. -/
def QueryResult.ofReply (reply : Reply) : QueryResult :=
  match reply.rows with
  | some rows => ⟨rows, rows.length⟩
  | none => ⟨[], reply.count⟩

/-- Runs a statement. -/
def execute (s : Session σ ω τ) (statement : Statement) : Step σ ω τ QueryResult := do
  let connection ← liveConnection
  log .debug "Executing statement"
    [(.text "sql", .text statement.text), (.text "param_count", .int statement.params.length)]
  let reply ← request s (.execute connection statement)
  return .ofReply reply

end DocumentStore.Session
