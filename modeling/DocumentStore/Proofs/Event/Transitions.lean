import DocumentStore.Event.Calls
import DocumentStore.Proofs.Session.Notifying

/-!
# Transitions of a registry

A registry changes only by observers being subscribed and unsubscribed, by a call or by an observer
that is being called. `Hub.transitionsOf` and `Hub.transitionsOfAll` list what is done, in order,
each with the registries before and behind it. The list is complete: every transition starts from
the registry that the one before it left, and behind the last one stands the registry in which the
calls end (`Hub.linked_transitionsOfAll`).
-/

set_option autoImplicit false

namespace DocumentStore

variable {ω τ : Type}

/-- What is done to a registry, and what came of it. -/
inductive Deed (ω : Type) where
  | subscribed (id : String) (event : ConnectionEvent) (observer : ω)
  | unsubscribed (id : String) (found : Bool)

/-- The identifier that a deed makes. -/
def Deed.made? : Deed ω → Option String
  | .subscribed id _ _ => some id
  | .unsubscribed _ _ => none

/-- A deed with the registries before and behind it. -/
structure Transition (ω : Type) where
  deed : Deed ω
  before : Registry ω
  after : Registry ω

namespace Transition

/-- The registry behind a transition is what the deed makes of the one before it. -/
def Follows (t : Transition ω) : Prop :=
  match t.deed with
  | .subscribed id event observer => t.after = t.before.add id event observer
  | .unsubscribed id true => t.before.remove? id = some t.after
  | .unsubscribed id false => t.before.remove? id = none ∧ t.after = t.before

/-- Transitions that lead from one registry to another. -/
def Linked : Registry ω → List (Transition ω) → Registry ω → Prop
  | r, [], r' => r' = r
  | r, t :: ts, r' => t.before = r ∧ t.Follows ∧ Linked t.after ts r'

theorem linked_append {r r' : Registry ω} {ts ts' : List (Transition ω)} :
    Linked r (ts ++ ts') r' ↔ ∃ m, Linked r ts m ∧ Linked m ts' r' := by
  induction ts generalizing r with
  | nil =>
    constructor
    · intro h
      exact ⟨r, rfl, h⟩
    · rintro ⟨m, rfl, h⟩
      exact h
  | cons t ts ih =>
    rw [List.cons_append, Linked, ih]
    constructor
    · rintro ⟨hbefore, hfollows, m, hleft, hright⟩
      exact ⟨m, ⟨hbefore, hfollows, hleft⟩, hright⟩
    · rintro ⟨m, ⟨hbefore, hfollows, hleft⟩, hright⟩
      exact ⟨hbefore, hfollows, m, hleft, hright⟩

theorem Linked.append {r m r' : Registry ω} {ts ts' : List (Transition ω)} (h : Linked r ts m)
    (h' : Linked m ts' r') : Linked r (ts ++ ts') r' :=
  linked_append.2 ⟨m, h, h'⟩

end Transition

namespace Hub

open Transition

variable (identifier : Nat → Uuid) (react : Observers ω τ)

/-! ## The transitions of what runs -/

/-- An observer is subscribed. -/
def subscribeTransition (event : ConnectionEvent) (observer : ω) (h : Hub ω τ) : Transition ω :=
  ⟨.subscribed (h.subscribe identifier event observer).1 event observer, h.registry,
    (h.subscribe identifier event observer).2.registry⟩

/-- An identifier is unsubscribed. -/
def unsubscribeTransition (id : String) (h : Hub ω τ) : Transition ω :=
  ⟨.unsubscribed id (h.unsubscribe id).1, h.registry, (h.unsubscribe id).2.registry⟩

/-- The transitions of a reaction. -/
def transitionsOfReaction : Reaction ω τ → Hub ω τ → List (Transition ω)
  | .finish _, _ => []
  | .fail _ _, _ => []
  | .subscribe event observer next, h =>
    h.subscribeTransition identifier event observer ::
      transitionsOfReaction (next (h.subscribe identifier event observer).1)
        (h.subscribe identifier event observer).2
  | .unsubscribe id next, h =>
    h.unsubscribeTransition id :: transitionsOfReaction (next (h.unsubscribe id).1)
      (h.unsubscribe id).2

/-- The transitions of observers that are called one after the other. -/
def transitionsOfNotices (event : ConnectionEvent) (payload : Payload) :
    List (Subscription ω) → Hub ω τ → List (Transition ω)
  | [], _ => []
  | s :: rest, h =>
    transitionsOfReaction identifier (react s.observer event payload h.memory)
      (h.called event payload s) ++
      transitionsOfNotices event payload rest (h.notify identifier react event payload s).2

/-- The transitions of an emission. -/
def transitionsOfEmission (event : ConnectionEvent) (payload : Payload) (h : Hub ω τ) :
    List (Transition ω) :=
  transitionsOfNotices identifier react event payload (h.registry.subscribers event)
    { h with emitted := h.emitted ++ [⟨event, payload⟩] }

/-- The transitions of a call. -/
def transitionsOf : RegistryCall ω → Hub ω τ → List (Transition ω)
  | .subscribe name observer, h =>
    match ConnectionEvent.ofName name with
    | .ok event => [h.subscribeTransition identifier event observer]
    | .error _ => []
  | .unsubscribe id, h => [h.unsubscribeTransition id]
  | .subscribers _, _ => []
  | .emit name payload, h =>
    match ConnectionEvent.ofName name with
    | .ok event => h.transitionsOfEmission identifier react event payload
    | .error _ => []

/-- The hub behind calls that are answered one after the other. -/
def answerAll : List (RegistryCall ω) → Hub ω τ → Hub ω τ
  | [], h => h
  | call :: rest, h => answerAll rest (h.answer identifier react call).2

/-- The transitions of calls that are answered one after the other. -/
def transitionsOfAll : List (RegistryCall ω) → Hub ω τ → List (Transition ω)
  | [], _ => []
  | call :: rest, h =>
    h.transitionsOf identifier react call ++ transitionsOfAll rest
      (h.answer identifier react call).2

/-! ## They are all there are -/

theorem follows_subscribeTransition (event : ConnectionEvent) (observer : ω) (h : Hub ω τ) :
    (h.subscribeTransition identifier event observer).Follows := rfl

theorem follows_unsubscribeTransition (id : String) (h : Hub ω τ) :
    (h.unsubscribeTransition id).Follows := by
  unfold Follows unsubscribeTransition Hub.unsubscribe
  cases hremoved : h.registry.remove? id with
  | none => exact ⟨hremoved, rfl⟩
  | some r => exact hremoved

theorem linked_transitionsOfReaction (reaction : Reaction ω τ) (h : Hub ω τ) :
    Linked h.registry (transitionsOfReaction identifier reaction h)
      (h.perform identifier reaction).2.registry := by
  induction reaction generalizing h with
  | finish memory => exact rfl
  | fail message memory => exact rfl
  | subscribe event observer next ih =>
    exact ⟨rfl, follows_subscribeTransition identifier event observer h, ih _ _⟩
  | unsubscribe id next ih => exact ⟨rfl, follows_unsubscribeTransition id h, ih _ _⟩

theorem linked_transitionsOfNotices (event : ConnectionEvent) (payload : Payload)
    (ss : List (Subscription ω)) (h : Hub ω τ) :
    Linked h.registry (transitionsOfNotices identifier react event payload ss h)
      (notifyAll identifier react event payload ss h).2.registry := by
  induction ss generalizing h with
  | nil => exact rfl
  | cons s ss ih =>
    -- a report in the log leaves the registry of the reaction
    obtain ⟨journal, hnotify, -⟩ := notify_cases identifier react event payload h s
    have hreaction := linked_transitionsOfReaction identifier
      (react s.observer event payload h.memory) (h.called event payload s)
    have hregistry : (h.notify identifier react event payload s).2.registry =
        ((h.called event payload s).perform identifier
          (react s.observer event payload h.memory)).2.registry := by
      rw [hnotify]
    exact hreaction.append (hregistry ▸ ih (h.notify identifier react event payload s).2)

theorem linked_transitionsOf (call : RegistryCall ω) (h : Hub ω τ) :
    Linked h.registry (h.transitionsOf identifier react call)
      (h.answer identifier react call).2.registry := by
  cases call with
  | subscribe name observer =>
    rw [transitionsOf, answer, onEvent]
    cases ConnectionEvent.ofName name with
    | ok event => exact ⟨rfl, follows_subscribeTransition identifier event observer h, rfl⟩
    | error fault => exact rfl
  | unsubscribe id => exact ⟨rfl, follows_unsubscribeTransition id h, rfl⟩
  | subscribers name =>
    rw [transitionsOf, answer, onEvent]
    cases ConnectionEvent.ofName name with
    | ok event => exact rfl
    | error fault => exact rfl
  | emit name payload =>
    rw [transitionsOf, answer, onEvent]
    cases ConnectionEvent.ofName name with
    | ok event =>
      exact linked_transitionsOfNotices identifier react event payload
        (h.registry.subscribers event)
        { h with emitted := h.emitted ++ [⟨event, payload⟩] }
    | error fault => exact rfl

/-- The transitions of calls lead from the registry in which they start to the one in which they
end. -/
theorem linked_transitionsOfAll (calls : List (RegistryCall ω)) (h : Hub ω τ) :
    Linked h.registry (transitionsOfAll identifier react calls h)
      (answerAll identifier react calls h).registry := by
  induction calls generalizing h with
  | nil => exact rfl
  | cons call calls ih => exact (linked_transitionsOf identifier react call h).append (ih _)

end Hub

end DocumentStore
