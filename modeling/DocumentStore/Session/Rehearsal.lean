import DocumentStore.PercentEncoding
import DocumentStore.Session.Connection

/-!
# Rehearsals

A session can be rehearsed without a database. The driver then follows a script: it may fail at one
point of connecting, and it gives its responses to statements in turn and an empty one when none is
left. Observers have labels and do one of a few things when they are called; what they remember is
which identifier each label stands for. Identifiers are drawn from a plain count.
-/

set_option autoImplicit false

namespace DocumentStore

/-! ## Scripted drivers -/

/-- The points of connecting at which a script can let the driver fail. -/
inductive FailurePoint where
  | engine
  | connect
  | options
deriving DecidableEq, Repr

/-- The point of a name. -/
def FailurePoint.ofName? (s : String) : Option FailurePoint :=
  if s = "engine" then some .engine
  else if s = "connect" then some .connect
  else if s = "options" then some .options
  else none

/-- What a driver does next: the failure while connecting, if there is to be one, and the responses
to statements. -/
structure Script where
  failure : Option (FailurePoint × String)
  responses : List (Except String Reply)

namespace Script

/-- Nothing fails and nothing is returned. -/
def empty : Script := ⟨none, []⟩

/-- A reply without rows. -/
def noRows (count : Int) : Reply := ⟨none, count⟩

/-- The reply at a point of connecting. -/
def atPoint (p : FailurePoint) (script : Script) : Except String Reply × Script :=
  match script.failure with
  | some (q, message) => (if p = q then .error message else .ok (noRows 0), script)
  | none => (.ok (noRows 0), script)

/-- The driver that follows a script. -/
def driver : Driver Script
  | .createEngine .., script => script.atPoint .engine
  | .openConnection _, script => script.atPoint .connect
  | .setAutocommit _, script => script.atPoint .options
  | .execute .., script =>
    match script.responses with
    | [] => (.ok (noRows 0), script)
    | response :: rest => (response, { script with responses := rest })
  | .closeConnection _, script => (.ok (noRows 0), script)
  | .disposeEngine _, script => (.ok (noRows 0), script)

end Script

/-- The n-th identifier of a rehearsal: its number in the upper and in the lower half. -/
def numberedUuid (n : Nat) : Uuid := ⟨BitVec.ofNat 128 (n * Nat.pow 2 80 + n)⟩

/-! ## Labelled observers -/

/-- Which identifier each label stands for. -/
abbrev Labels := List (String × String)

namespace Labels

/-- The identifier of a label, or the label itself when it stands for none. -/
def resolve (labels : Labels) (label : String) : String :=
  match labels.find? fun l => l.1 == label with
  | some l => l.2
  | none => label

/-- Lets a label stand for an identifier. -/
def bind (labels : Labels) (label id : String) : Labels := (label, id) :: labels

end Labels

/-- What an observer does when it is called. -/
inductive Behaviour where
  | listen
  | fail (message : String)
  | unsubscribe (label : String)
  | subscribe (label : String)

/-- An observer with a label. -/
structure LabelledObserver where
  label : String
  behaviour : Behaviour

/-- How labelled observers react. -/
def LabelledObserver.react : Observers LabelledObserver Labels
  | o, event, _, labels =>
    match o.behaviour with
    | .listen => .finish labels
    | .fail message => .fail message labels
    | .unsubscribe label => .unsubscribe (labels.resolve label) fun _ => .finish labels
    | .subscribe label =>
      .subscribe event ⟨label, .listen⟩ fun id => .finish (Labels.bind labels label id)

namespace Hub

/-- Subscribes a labelled observer and lets its label stand for the subscription. -/
def subscribeLabelled (identifier : Nat → Uuid) (event : ConnectionEvent) (o : LabelledObserver)
    (h : Hub LabelledObserver Labels) : String × Hub LabelledObserver Labels :=
  let (id, h) := h.subscribe identifier event o
  (id, { h with memory := Labels.bind h.memory o.label id })

end Hub

/-! ## Rehearsed sessions -/

/-- A provider of page metadata that gives back what it was asked. -/
def echoMetadata (o : QueryOptions) (count : Value) : Except Fault Value :=
  .ok (.map [(.text "options", .map o.toEntries), (.text "count", count)])

/-- The world of a rehearsal. -/
abbrev Rehearsal := World Script LabelledObserver Labels

/-- A rehearsed session. -/
def rehearse (settings : Settings) (tableSchema : Option String)
    (metadata : QueryOptions → Value → Except Fault Value) :
    Session Script LabelledObserver Labels :=
  ⟨settings, .percentEncoding, settings.tableSchema tableSchema, Script.driver,
    LabelledObserver.react, numberedUuid, metadata⟩

namespace Rehearsal

/-- The world before any step. -/
def start : Rehearsal := World.start .empty []

/-- The world with another script. -/
def follow (script : Script) (w : Rehearsal) : Rehearsal := { w with link.driver := script }

end Rehearsal

end DocumentStore
