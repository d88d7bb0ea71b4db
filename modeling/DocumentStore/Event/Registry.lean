import DocumentStore.Event.Basic

/-!
# The registry of observers

The registry keeps subscriptions per event, in the order in which they were made, and an index of
all of them by identifier. Every subscription gets the next number. An event without subscriptions
has no entry.
-/

set_option autoImplicit false

namespace DocumentStore

/-- An observer's subscription to an event. -/
structure Subscription (ω : Type) where
  id : String
  event : ConnectionEvent
  observer : ω
  order : Nat

/-- The live subscriptions, by event and by identifier, and how many were ever made. -/
structure Registry (ω : Type) where
  byEvent : List (ConnectionEvent × List (Subscription ω))
  byId : List (String × Subscription ω)
  count : Nat

namespace Registry

variable {ω : Type}

/-- No subscriptions. -/
def empty : Registry ω := ⟨[], [], 0⟩

/-- The subscriptions to an event. -/
def subscribers (r : Registry ω) (event : ConnectionEvent) : List (Subscription ω) :=
  match r.byEvent.find? fun e => e.1 == event with
  | some e => e.2
  | none => []

/-- The subscription of an identifier. -/
def get? (r : Registry ω) (id : String) : Option (Subscription ω) :=
  (r.byId.find? fun e => e.1 == id).map (·.2)

/-! ## Subscribing -/

/-- Adds a subscription behind those of its event. -/
def appendTo (s : Subscription ω) :
    List (ConnectionEvent × List (Subscription ω)) → List (ConnectionEvent × List (Subscription ω))
  | [] => [(s.event, [s])]
  | (event, ss) :: rest =>
    if event = s.event then (event, ss ++ [s]) :: rest else (event, ss) :: appendTo s rest

/-- Enters a subscription under its identifier. -/
def index (s : Subscription ω) :
    List (String × Subscription ω) → List (String × Subscription ω)
  | [] => [(s.id, s)]
  | (id, s') :: rest => if id = s.id then (id, s) :: rest else (id, s') :: index s rest

/-- Subscribes an observer to an event. -/
def add (r : Registry ω) (id : String) (event : ConnectionEvent) (observer : ω) : Registry ω :=
  let s : Subscription ω := ⟨id, event, observer, r.count + 1⟩
  ⟨appendTo s r.byEvent, index s r.byId, r.count + 1⟩

/-! ## Unsubscribing -/

/-- Takes an identifier out of the subscriptions to an event, and the event out when none is
left. -/
def removeFrom (event : ConnectionEvent) (id : String) :
    List (ConnectionEvent × List (Subscription ω)) → List (ConnectionEvent × List (Subscription ω))
  | [] => []
  | (event', ss) :: rest =>
    if event' = event then
      let remaining := ss.filter fun s => s.id != id
      if remaining.isEmpty then rest else (event', remaining) :: rest
    else (event', ss) :: removeFrom event id rest

/-- Ends the subscription of an identifier, when it has one. -/
def remove? (r : Registry ω) (id : String) : Option (Registry ω) :=
  (r.get? id).map fun s =>
    ⟨removeFrom s.event id r.byEvent, r.byId.filter fun e => e.1 != id, r.count⟩

end Registry

end DocumentStore
