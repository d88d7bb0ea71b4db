import DocumentStore.Event.Registry
import DocumentStore.Log.Entry

/-!
# Emitting events

To emit an event is to call its observers, in the order of their subscriptions and as they are when
the emission starts. An observer answers with a `Reaction`: it may subscribe and unsubscribe, and it
finishes or fails. A failure is logged and reported, and the next observer is called. The hub keeps
every emission and every call.
-/

set_option autoImplicit false

namespace DocumentStore

/-- What an observer does when it is called. It sees what its requests give, and it leaves behind
what the observers remember. -/
inductive Reaction (ω τ : Type) where
  | finish (memory : τ)
  | fail (message : String) (memory : τ)
  | subscribe (event : ConnectionEvent) (observer : ω) (next : String → Reaction ω τ)
  | unsubscribe (id : String) (next : Bool → Reaction ω τ)

/-- How observers react to an event, its payload and what they remember. -/
abbrev Observers (ω τ : Type) := ω → ConnectionEvent → Payload → τ → Reaction ω τ

/-- An event that was emitted. -/
structure Emission where
  event : ConnectionEvent
  payload : Payload

/-- A call of an observer. -/
structure Notice (ω : Type) where
  subscription : Subscription ω
  event : ConnectionEvent
  payload : Payload

/-- The registry with what is around it: the memory of the observers, the journal, and what was
emitted and to whom. -/
structure Hub (ω τ : Type) where
  registry : Registry ω
  memory : τ
  journal : Journal
  emitted : List Emission
  notices : List (Notice ω)

/-- The identifier of a subscription. -/
def subscriptionId (u : Uuid) : String := String.ofList ("sub_".toList ++ u.hex.take 12)

namespace Hub

variable {ω τ : Type}

/-- A hub without subscriptions. -/
def start (memory : τ) : Hub ω τ := ⟨.empty, memory, .empty, [], []⟩

/-- Adds a log entry. -/
def log (h : Hub ω τ) (level : Level) (event : String) (fields : Entries) : Hub ω τ :=
  { h with journal := h.journal.log level event fields }

/-- Subscribes an observer under a new identifier. -/
def subscribe (identifier : Nat → Uuid) (event : ConnectionEvent) (observer : ω) (h : Hub ω τ) :
    String × Hub ω τ :=
  let (u, journal) := h.journal.draw identifier
  let id := subscriptionId u
  (id, { h with
    registry := h.registry.add id event observer
    journal := journal.log .debug "Observer subscribed"
      [(.text "subscription_id", .text id), (.text "db_event", .text event.name)] })

/-- Unsubscribes an identifier: whether it had a subscription. -/
def unsubscribe (id : String) (h : Hub ω τ) : Bool × Hub ω τ :=
  match h.registry.remove? id with
  | some registry => (true, { h with registry := registry })
  | none => (false, h.log .warning "Subscription not found" [(.text "subscription_id", .text id)])

/-- Performs a reaction: the message of its failure, if it fails. -/
def perform (identifier : Nat → Uuid) : Reaction ω τ → Hub ω τ → Option String × Hub ω τ
  | .finish memory, h => (none, { h with memory := memory })
  | .fail message memory, h => (some message, { h with memory := memory })
  | .subscribe event observer next, h =>
    let (id, h) := h.subscribe identifier event observer
    perform identifier (next id) h
  | .unsubscribe id next, h =>
    let (found, h) := h.unsubscribe id
    perform identifier (next found) h

/-- Calls an observer: the report of its failure, if it fails. -/
def notify (identifier : Nat → Uuid) (react : Observers ω τ) (event : ConnectionEvent)
    (payload : Payload) (s : Subscription ω) (h : Hub ω τ) : Option String × Hub ω τ :=
  let h : Hub ω τ := { h with notices := h.notices ++ [⟨s, event, payload⟩] }
  match h.perform identifier (react s.observer event payload h.memory) with
  | (none, h) => (none, h)
  | (some message, h) =>
    (some (s.id ++ ": " ++ message), h.log .error "Observer failed"
      [(.text "subscription_id", .text s.id), (.text "db_event", .text event.name),
       (.text "error", .text message)])

/-- Calls observers one after the other: the reports of their failures. -/
def notifyAll (identifier : Nat → Uuid) (react : Observers ω τ) (event : ConnectionEvent)
    (payload : Payload) : List (Subscription ω) → Hub ω τ → List String × Hub ω τ
  | [], h => ([], h)
  | s :: rest, h =>
    let (report, h) := h.notify identifier react event payload s
    let (reports, h) := notifyAll identifier react event payload rest h
    (report.toList ++ reports, h)

/-- Emits an event: the reports of the observers that failed. -/
def emit (identifier : Nat → Uuid) (react : Observers ω τ) (event : ConnectionEvent)
    (payload : Payload) (h : Hub ω τ) : List String × Hub ω τ :=
  notifyAll identifier react event payload (h.registry.subscribers event)
    { h with emitted := h.emitted ++ [⟨event, payload⟩] }

end Hub

end DocumentStore
