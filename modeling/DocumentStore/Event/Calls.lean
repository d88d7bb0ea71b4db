import DocumentStore.Event.Emission

/-!
# Calls on the registry

Observers are subscribed, looked up and notified under the name of an event, and unsubscribed by the
identifier of their subscription. A name that no event has is refused before anything is done.
-/

set_option autoImplicit false

namespace DocumentStore

/-- A call on the registry of observers with its arguments. -/
inductive RegistryCall (ω : Type) where
  | subscribe (name : String) (observer : ω)
  | unsubscribe (id : String)
  | subscribers (name : String)
  | emit (name : String) (payload : Payload)

/-- What a call gives when it is not refused. -/
inductive RegistryAnswer (ω : Type) where
  | subscribed (id : String)
  | unsubscribed (found : Bool)
  | subscribers (ss : List (Subscription ω))
  | emitted (reports : List String)

/-- The name of the event that a call is about. -/
def RegistryCall.name? {ω : Type} : RegistryCall ω → Option String
  | .subscribe name _ => some name
  | .unsubscribe _ => none
  | .subscribers name => some name
  | .emit name _ => some name

namespace Hub

variable {ω τ : Type}

/-- Does what an event's name asks for; another name is refused. -/
def onEvent {α : Type} (name : String) (f : ConnectionEvent → Hub ω τ → α × Hub ω τ) (h : Hub ω τ) :
    Except Fault α × Hub ω τ :=
  match ConnectionEvent.ofName name with
  | .ok event =>
    let (a, h) := f event h
    (.ok a, h)
  | .error fault => (.error fault, h)

/-- Answers a call. -/
def answer (identifier : Nat → Uuid) (react : Observers ω τ) :
    RegistryCall ω → Hub ω τ → Except Fault (RegistryAnswer ω) × Hub ω τ
  | .subscribe name observer, h => h.onEvent name fun event h =>
    let (id, h) := h.subscribe identifier event observer
    (.subscribed id, h)
  | .unsubscribe id, h =>
    let (found, h) := h.unsubscribe id
    (.ok (.unsubscribed found), h)
  | .subscribers name, h =>
    h.onEvent name fun event h => (.subscribers (h.registry.subscribers event), h)
  | .emit name payload, h => h.onEvent name fun event h =>
    let (reports, h) := h.emit identifier react event payload
    (.emitted reports, h)

end Hub

end DocumentStore
