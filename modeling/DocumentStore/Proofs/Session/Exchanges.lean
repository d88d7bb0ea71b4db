import DocumentStore.Proofs.Session.Notifying
import DocumentStore.Proofs.Session.Routine

/-!
# What was exchanged with the driver

A driver answers out of a state of its own, so all its replies follow from the state in which it
started and from the requests in their order: `Driver.ledger` lists the requests with the replies.
What a ledger says of a connection is whether it was opened, whether closing it was completed, and
whether the driver refused to set it up.

`World.Moves` says all that an operation may do to a world: the connector that it leaves, what it
exchanged with the driver, and what it told the observers.
-/

set_option autoImplicit false

namespace DocumentStore

variable {σ ω τ : Type}

/-! ## Ledgers -/

/-- A request of the driver with the reply to it. -/
structure Exchange where
  request : Request
  reply : Except String Reply

namespace Driver

/-- Requests that are made one after the other, each with the reply of the driver, which starts in a
state. -/
def ledger (d : Driver σ) : σ → List Request → List Exchange
  | _, [] => []
  | x, r :: rs => ⟨r, (d r x).1⟩ :: ledger d (d r x).2 rs

/-- The state of the driver behind requests. -/
def stateAfter (d : Driver σ) : σ → List Request → σ
  | x, [] => x
  | x, r :: rs => stateAfter d (d r x).2 rs

theorem ledger_append (d : Driver σ) (x : σ) (rs rs' : List Request) :
    d.ledger x (rs ++ rs') = d.ledger x rs ++ d.ledger (d.stateAfter x rs) rs' := by
  induction rs generalizing x with
  | nil => rfl
  | cons r rs ih => rw [List.cons_append, ledger, ih, ledger, stateAfter, List.cons_append]

theorem stateAfter_append (d : Driver σ) (x : σ) (rs rs' : List Request) :
    d.stateAfter x (rs ++ rs') = d.stateAfter (d.stateAfter x rs) rs' := by
  induction rs generalizing x with
  | nil => rfl
  | cons r rs ih => rw [List.cons_append, stateAfter, ih, stateAfter]

/-- An exchange of a ledger is a reply of the driver out of some state. -/
theorem reply_of_mem_ledger {d : Driver σ} {x : σ} {rs : List Request} {e : Exchange}
    (h : e ∈ d.ledger x rs) : ∃ y, (d e.request y).1 = e.reply := by
  induction rs generalizing x with
  | nil => exact absurd h List.not_mem_nil
  | cons r rs ih =>
    rcases List.mem_cons.1 h with rfl | h
    · exact ⟨x, rfl⟩
    · exact ih h

end Driver

/-! ### Connections in a ledger -/

/-- Whether a connection was opened by an exchange. -/
def Exchange.opens (e : Exchange) : Bool :=
  match e.request, e.reply with
  | .openConnection _, .ok _ => true
  | _, _ => false

/-- The connection of a number was opened: connections are numbered as they are opened. -/
def Opened (es : List Exchange) (n : Nat) : Prop := 1 ≤ n ∧ n ≤ es.countP Exchange.opens

/-- Closing a connection was completed. -/
def Closed (es : List Exchange) (n : Nat) : Prop :=
  ∃ reply, ⟨.closeConnection n, .ok reply⟩ ∈ es

/-- The driver refused to set a connection up. -/
def SetupRefused (es : List Exchange) (n : Nat) : Prop :=
  ∃ message, ⟨.setAutocommit n, .error message⟩ ∈ es

/-- Right behind a completed closing of a connection the driver refused to dispose of an engine. -/
def DisposalRefused (es : List Exchange) (n : Nat) : Prop :=
  ∃ front reply engine message back, es = front ++ ⟨.closeConnection n, .ok reply⟩ ::
    ⟨.disposeEngine engine, .error message⟩ :: back

theorem Opened.append {es : List Exchange} {n : Nat} (h : Opened es n) (es' : List Exchange) :
    Opened (es ++ es') n := by
  refine ⟨h.1, Nat.le_trans h.2 ?_⟩
  rw [List.countP_append]
  exact Nat.le_add_right _ _

theorem Closed.append {es : List Exchange} {n : Nat} (h : Closed es n) (es' : List Exchange) :
    Closed (es ++ es') n := by
  obtain ⟨reply, h⟩ := h
  exact ⟨reply, List.mem_append_left _ h⟩

theorem SetupRefused.append {es : List Exchange} {n : Nat} (h : SetupRefused es n)
    (es' : List Exchange) : SetupRefused (es ++ es') n := by
  obtain ⟨message, h⟩ := h
  exact ⟨message, List.mem_append_left _ h⟩

theorem DisposalRefused.append {es : List Exchange} {n : Nat} (h : DisposalRefused es n)
    (es' : List Exchange) : DisposalRefused (es ++ es') n := by
  obtain ⟨front, reply, engine, message, back, rfl⟩ := h
  exact ⟨front, reply, engine, message, back ++ es', by simp⟩

/-! ## Exchanges from one world to another -/

/-- Exchanges lead from one place of the driver's side to another. Every connection that they open
is counted. -/
structure Link.Trades (d : Driver σ) (l l' : Link σ) (es : List Exchange) : Prop where
  requests : l'.requests = l.requests ++ es.map (·.request)
  ledger : d.ledger l.driver (es.map (·.request)) = es
  driver : l'.driver = d.stateAfter l.driver (es.map (·.request))
  connections : l'.connections = l.connections + es.countP Exchange.opens

namespace Link.Trades

variable {d : Driver σ} {l l' l'' : Link σ} {es es' : List Exchange}

/-- Nothing is exchanged. -/
theorem refl (d : Driver σ) (l : Link σ) : l.Trades d l [] :=
  ⟨(List.append_nil _).symm, rfl, rfl, rfl⟩

theorem trans (h : l.Trades d l' es) (h' : l'.Trades d l'' es') : l.Trades d l'' (es ++ es') where
  requests := by rw [h'.requests, h.requests, List.map_append, List.append_assoc]
  ledger := by rw [List.map_append, Driver.ledger_append, h.ledger, ← h.driver, h'.ledger]
  driver := by rw [h'.driver, h.driver, List.map_append, Driver.stateAfter_append]
  connections := by
    rw [h'.connections, h.connections, List.countP_append]
    omega

end Link.Trades

/-- What an operation does to a world: the connector that it leaves, its exchanges with the driver
and what it emits. Every observer of an emitted event is called once, in the order of the
subscriptions. -/
structure World.Moves (d : Driver σ) (w w' : World σ ω τ) (connector : Connector)
    (es : List Exchange) (news : List Emission) : Prop where
  connector : w'.connector = connector
  trades : w.link.Trades d w'.link es
  emitted : w'.hub.emitted = w.hub.emitted ++ news
  notices : w'.hub.notices = w.hub.notices ++ news.flatMap fun n =>
    (w.hub.registry.subscribers n.event).map fun s => ⟨s, n.event, n.payload⟩

namespace World.Moves

variable {d : Driver σ} {v w w' : World σ ω τ} {k k' : Connector} {es es' : List Exchange}

/-- Nothing is emitted, and nothing of the hub changes but its journal. -/
theorem of_logs (htrades : w.link.Trades d w'.link es) (hhub : w.hub.Logs w'.hub) :
    w.Moves d w' w'.connector es [] := by
  obtain ⟨journal, hhub⟩ := hhub
  refine ⟨rfl, htrades, ?_, ?_⟩
  · rw [hhub, List.append_nil]
  · rw [hhub, List.flatMap_nil, List.append_nil]

/-- An event is emitted at the end, up to which nothing of the hub changes but its journal. -/
theorem of_emit (s : Session σ ω τ) (event : ConnectionEvent) (payload : Payload)
    (htrades : w.link.Trades s.driver v.link es) (hhub : w.hub.Logs v.hub) :
    w.Moves s.driver (Step.run (Step.emit s event payload) v).2 v.connector es
      [⟨event, payload⟩] := by
  obtain ⟨journal, hhub⟩ := hhub
  have hemitted := Hub.emitted_emit s.identifier s.react event payload v.hub
  have hnotices := Hub.notices_emit s.identifier s.react event payload v.hub
  rw [hhub] at hemitted hnotices
  refine ⟨rfl, htrades, ?_, ?_⟩
  · rw [← hemitted, ← hhub]
    rfl
  · rw [List.flatMap_singleton, ← hnotices, ← hhub]
    rfl

/-- Nothing is emitted before the last part of an operation, and the observers stay subscribed. -/
theorem trans {news : List Emission} (h : w.Moves d v k es []) (h' : v.Moves d w' k' es' news)
    (hregistry : v.hub.registry = w.hub.registry) : w.Moves d w' k' (es ++ es') news where
  connector := h'.connector
  trades := h.trades.trans h'.trades
  emitted := by rw [h'.emitted, h.emitted, List.append_nil]
  notices := by rw [h'.notices, h.notices, List.flatMap_nil, List.append_nil, hregistry]

end World.Moves

namespace Session

open Step

/-! ## Requests -/

variable {s : Session σ ω τ} {w w' : World σ ω τ}

theorem run_changeConnector_bind {α : Type} (f : Connector → Connector)
    (next : Unit → Step σ ω τ α) (w : World σ ω τ) :
    run (changeConnector f >>= next) w = run (next ()) { w with connector := f w.connector } := by
  rw [run_bind]
  rfl

/-- A request is one exchange: what follows it goes on with the reply, or the driver refuses. -/
theorem request_bind_cases {α : Type} {request : Request} {next : Reply → Step σ ω τ α}
    {r : Except Fault α} (h : run (Step.request s request >>= next) w = (r, w')) :
    (∃ reply, (s.driver request w.link.driver).1 = .ok reply ∧
        run (next reply) (w.asked s.driver request) = (r, w')) ∨
      ∃ message, (s.driver request w.link.driver).1 = .error message ∧
        r = .error (.driver message) ∧ w' = w.asked s.driver request := by
  rw [run_bind, Step.request, run_ofRun] at h
  cases hanswer : (s.driver request w.link.driver).1 with
  | ok reply =>
    simp only [hanswer] at h
    exact .inl ⟨reply, rfl, h⟩
  | error message =>
    simp only [hanswer] at h
    cases h
    exact .inr ⟨message, rfl, rfl, rfl⟩

/-- A request that opens no connection is one exchange and nothing else. -/
theorem trades_asked (d : Driver σ) (w : World σ ω τ) {request : Request}
    {reply : Except String Reply} (hreply : (d request w.link.driver).1 = reply)
    (hopens : Exchange.opens ⟨request, reply⟩ = false) :
    w.link.Trades d (w.asked d request).link [⟨request, reply⟩] where
  requests := rfl
  ledger := by rw [← hreply]; rfl
  driver := rfl
  connections := by
    rw [List.countP_singleton, hopens]
    rfl

end Session

end DocumentStore
