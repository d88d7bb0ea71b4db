import DocumentStore.Fault

/-!
# Connection events

A connector is disconnected, connected or in between, and it tells its observers when it has
connected, when connecting failed, and when it has disconnected. With an event goes the connector or
the fault.
-/

set_option autoImplicit false

namespace DocumentStore

/-- The states of a connector. -/
inductive ConnectionState where
  | disconnected
  | connected
  | connecting
deriving DecidableEq, Repr

namespace ConnectionState

/-- The number of a state. -/
def number : ConnectionState → Nat
  | .disconnected => 0
  | .connected => 1
  | .connecting => 2

/-- The state of a number. -/
def ofNumber (n : Int) : Except Fault ConnectionState :=
  if n = 0 then .ok .disconnected
  else if n = 1 then .ok .connected
  else if n = 2 then .ok .connecting
  else .error (.naming [.int n] (.value (.unknownState n)))

end ConnectionState

/-- The events of a connector. -/
inductive ConnectionEvent where
  | connected
  | error
  | disconnected
deriving DecidableEq, Repr

namespace ConnectionEvent

/-- The name of an event. -/
def name : ConnectionEvent → String
  | .connected => "DB_CONNECTED"
  | .error => "DB_ERROR"
  | .disconnected => "DB_DISCONNECTED"

/-- All events. -/
def all : List ConnectionEvent := [.connected, .error, .disconnected]

/-- The event of a name. -/
def ofName (s : String) : Except Fault ConnectionEvent :=
  match all.find? fun e => e.name == s with
  | some e => .ok e
  | none => .error (.value (.unknownEvent s))

/-- Reading a name gives its event. -/
theorem ofName_name (e : ConnectionEvent) : ofName e.name = .ok e := by cases e <;> rfl

end ConnectionEvent

/-- What goes with an event. -/
inductive Payload where
  | value (v : Value)
  | connector (state : ConnectionState)
  | fault (f : Fault)

end DocumentStore
