import DocumentStore.Proofs.Session.Lifecycle
import DocumentStore.Session.Rehearsal

/-!
# Which connections are open

The driver's ledger tells which connections were opened and which were closed; a connector knows the
one that it holds. `Accounted` says how the two agree in every run: the connection that is held was
opened and is not closed, and all others were closed. There are two gaps, and no others: a
connection that the driver refuses to set up is dropped without being closed, and a connector goes
on holding its connection when the driver refuses to dispose of the engine behind the closing
(`connections_accounted_for`).
-/

set_option autoImplicit false

namespace DocumentStore

variable {σ ω τ : Type} {es es' : List Exchange} {k k' : Connector} {n m : Nat}

open Session Step

/-! ## More exchanges -/

theorem opened_append_of_none (hopens : es'.countP Exchange.opens = 0) :
    Opened (es ++ es') n ↔ Opened es n := by
  unfold Opened
  rw [List.countP_append, hopens]
  omega

theorem opened_append_of_one (hopens : es'.countP Exchange.opens = 1) :
    Opened (es ++ es') n ↔ Opened es n ∨ n = es.countP Exchange.opens + 1 := by
  unfold Opened
  rw [List.countP_append, hopens]
  omega

/-- The connection that an exchange closed. -/
def Exchange.closes? (e : Exchange) : Option Nat :=
  match e.request, e.reply with
  | .closeConnection n, .ok _ => some n
  | _, _ => none

theorem closed_iff : Closed es n ↔ n ∈ es.filterMap Exchange.closes? := by
  rw [List.mem_filterMap]
  constructor
  · rintro ⟨reply, h⟩
    exact ⟨_, h, rfl⟩
  · rintro ⟨⟨request, reply⟩, h, hcloses⟩
    unfold Exchange.closes? at hcloses
    split at hcloses
    · next m reply hrequest hreply =>
      cases hcloses
      dsimp only at hrequest hreply
      rw [hrequest, hreply] at h
      exact ⟨reply, h⟩
    · cases hcloses

theorem closed_append_iff {closed : List Nat} (hcloses : es'.filterMap Exchange.closes? = closed) :
    Closed (es ++ es') n ↔ Closed es n ∨ n ∈ closed := by
  rw [closed_iff, closed_iff, List.filterMap_append, List.mem_append, hcloses]

theorem SetupRefused.prepend (h : SetupRefused es' n) (es : List Exchange) :
    SetupRefused (es ++ es') n := by
  obtain ⟨message, h⟩ := h
  exact ⟨message, List.mem_append_right es h⟩

theorem DisposalRefused.prepend (h : DisposalRefused es' n) (es : List Exchange) :
    DisposalRefused (es ++ es') n := by
  obtain ⟨front, reply, engine, message, back, rfl⟩ := h
  exact ⟨es ++ front, reply, engine, message, back, (List.append_assoc ..).symm⟩

/-! ## Ledgers and connectors -/

/-- A connector agrees with a ledger about which connections are open, but for what the driver
refused. -/
structure Accounted (es : List Exchange) (k : Connector) : Prop where
  connected : k.isConnected = k.connection.isSome
  held : ∀ n, k.connection = some n → Opened es n ∧ (Closed es n → DisposalRefused es n)
  dropped : ∀ n, Opened es n → k.connection ≠ some n → Closed es n ∨ SetupRefused es n
  closed : ∀ n, Closed es n → Opened es n

namespace Accounted

/-- A connector that is not connected holds no connection. -/
theorem connection_eq_none (h : Accounted es k) (hnot : k.isConnected = false) :
    k.connection = none := by
  rw [h.connected] at hnot
  exact Option.not_isSome_iff_eq_none.1 (Bool.eq_false_iff.1 hnot)

/-- No connection is opened and none is closed. -/
theorem of_quiet (h : Accounted es k) (hstate : k'.isConnected = k.isConnected)
    (hconnection : k'.connection = k.connection) (hopens : es'.countP Exchange.opens = 0)
    (hcloses : es'.filterMap Exchange.closes? = []) : Accounted (es ++ es') k' := by
  have hopened (n : Nat) : Opened (es ++ es') n ↔ Opened es n := opened_append_of_none hopens
  have hclosed (n : Nat) : Closed (es ++ es') n ↔ Closed es n := by
    rw [closed_append_iff hcloses, or_iff_left List.not_mem_nil]
  refine ⟨by rw [hstate, hconnection, h.connected], ?_, ?_, ?_⟩
  · intro n hheld
    rw [hopened, hclosed]
    obtain ⟨hopen, hrefused⟩ := h.held n (hconnection ▸ hheld)
    exact ⟨hopen, fun hclose => (hrefused hclose).append es'⟩
  · intro n hopen hother
    rw [hclosed]
    exact (h.dropped n ((hopened n).1 hopen) (hconnection ▸ hother)).imp_right (·.append es')
  · intro n hclose
    exact (hopened n).2 (h.closed n ((hclosed n).1 hclose))

/-- One connection is opened, by a connector that holds none: the connector then holds it, or the
driver has refused to set it up. -/
theorem of_opens (h : Accounted es k) (hnone : k.connection = none)
    (hopens : es'.countP Exchange.opens = 1) (hcloses : es'.filterMap Exchange.closes? = [])
    (hconnected : k'.isConnected = k'.connection.isSome)
    (hnew : k'.connection = some (es.countP Exchange.opens + 1) ∨
      k'.connection = none ∧ SetupRefused es' (es.countP Exchange.opens + 1)) :
    Accounted (es ++ es') k' := by
  have hopened (n : Nat) : Opened (es ++ es') n ↔ Opened es n ∨ n = es.countP Exchange.opens + 1 :=
    opened_append_of_one hopens
  have hclosed (n : Nat) : Closed (es ++ es') n ↔ Closed es n := by
    rw [closed_append_iff hcloses, or_iff_left List.not_mem_nil]
  have hold (n : Nat) (hopen : Opened es n) :
      Closed (es ++ es') n ∨ SetupRefused (es ++ es') n := by
    have hother : k.connection ≠ some n := by rw [hnone]; exact nofun
    exact (h.dropped n hopen hother).imp (·.append es') (·.append es')
  refine ⟨hconnected, ?_, ?_, fun n hclose => (h.closed n ((hclosed n).1 hclose)).append es'⟩
  · intro n hheld
    rcases hnew with hnew | ⟨hnew, -⟩
    · obtain rfl := Option.some.inj (hnew.symm.trans hheld)
      refine ⟨(hopened _).2 (.inr rfl), fun hclose => ?_⟩
      -- what was closed before was opened before, and so has a smaller number
      have hle := (h.closed _ ((hclosed _).1 hclose)).2
      omega
    · rw [hnew] at hheld
      cases hheld
  · intro n hopen hother
    rcases (hopened n).1 hopen with hopen | rfl
    · exact hold n hopen
    · rcases hnew with hnew | ⟨-, hrefused⟩
      · exact absurd hnew hother
      · exact .inr (hrefused.prepend es)

/-- The connection that is held is closed: the connector then holds none, or the driver has refused
to dispose of the engine. -/
theorem of_closes (h : Accounted es k) (hheld : k.connection = some n)
    (hopens : es'.countP Exchange.opens = 0) (hcloses : es'.filterMap Exchange.closes? = [n])
    (hkept : k' = .idle ∨ k' = k ∧ DisposalRefused es' n) : Accounted (es ++ es') k' := by
  have hopened (m : Nat) : Opened (es ++ es') m ↔ Opened es m := opened_append_of_none hopens
  have hclosed (m : Nat) : Closed (es ++ es') m ↔ Closed es m ∨ m = n := by
    rw [closed_append_iff hcloses, List.mem_singleton]
  refine ⟨?_, ?_, ?_, ?_⟩
  · rcases hkept with rfl | ⟨rfl, -⟩
    · rfl
    · exact h.connected
  · intro m hm
    rcases hkept with rfl | ⟨rfl, hrefused⟩
    · cases hm
    · obtain rfl := Option.some.inj (hheld.symm.trans hm)
      exact ⟨(hopened _).2 (h.held _ hheld).1, fun _ => hrefused.prepend es⟩
  · intro m hopen hother
    by_cases hm : m = n
    · exact .inl ((hclosed m).2 (.inr hm))
    · have hbefore : k.connection ≠ some m := fun hsome =>
        hm (Option.some.inj (hsome.symm.trans hheld))
      exact (h.dropped m ((hopened m).1 hopen) hbefore).imp (·.append es') (·.append es')
  · intro m hclose
    rw [hopened]
    rcases (hclosed m).1 hclose with hclose | rfl
    · exact h.closed m hclose
    · exact (h.held _ hheld).1

end Accounted

/-! ## What operations do to the ledger -/

theorem Opening.closes_nothing {url : DatabaseUrl} {echo : Bool} {engine connection : Nat}
    {r : Except Fault Unit} (h : Opening (.createEngine url echo) engine connection k r k' es) :
    es.filterMap Exchange.closes? = [] := by
  cases h <;> rfl

/-- An opening that fails opens nothing that it does not fail to set up, and the connector does not
hold it. -/
theorem Opening.opens_of_error {url : DatabaseUrl} {echo : Bool} {engine connection : Nat}
    {fault : Fault}
    (h : Opening (.createEngine url echo) engine connection k (.error fault) k' es) :
    k'.connection = k.connection ∧
      (es.countP Exchange.opens = 0 ∨
        es.countP Exchange.opens = 1 ∧ SetupRefused es connection) := by
  cases h with
  | noEngine message => exact ⟨rfl, .inl rfl⟩
  | noConnection created message => exact ⟨rfl, .inl rfl⟩
  | noSetup created opened message =>
    refine ⟨rfl, .inr ⟨rfl, message, ?_⟩⟩
    exact List.mem_cons_of_mem _ (List.mem_cons_of_mem _ List.mem_cons_self)

/-- An attempt to connect that fails leaves nothing open but what the driver refused to set up. -/
theorem Accounted.of_failure {url : DatabaseUrl} {echo : Bool} {engine : Nat} {fault : Fault}
    {tail : List Exchange} {k₀ k₁ : Connector} (h : Accounted es k₀) (hnot : k₀.isConnected = false)
    (hopening : Opening (.createEngine url echo) engine (es.countP Exchange.opens + 1)
      { k₀ with state := .connecting } (.error fault) k es')
    (hopens : tail.countP Exchange.opens = 0) (hcloses : tail.filterMap Exchange.closes? = [])
    (hnot' : k₁.isConnected = false) (hnone : k₁.connection = none) :
    Accounted (es ++ (es' ++ tail)) k₁ := by
  have hnone₀ := h.connection_eq_none hnot
  have hcloses' : (es' ++ tail).filterMap Exchange.closes? = [] := by
    rw [List.filterMap_append, hopening.closes_nothing, hcloses, List.append_nil]
  rcases hopening.opens_of_error.2 with hquiet | ⟨hopened, message, hrefused⟩
  · refine h.of_quiet (hnot'.trans hnot.symm) (hnone.trans hnone₀.symm) ?_ hcloses'
    rw [List.countP_append, hquiet, hopens]
  · refine h.of_opens hnone₀ ?_ hcloses' (by rw [hnot', hnone]; rfl)
      (.inr ⟨hnone, message, List.mem_append_left tail hrefused⟩)
    rw [List.countP_append, hopened, hopens]

/-- Giving an engine back opens and closes no connection. -/
theorem quiet_disposal (held : Option Nat) (reply : Reply) :
    (released .disposeEngine held reply).countP Exchange.opens = 0 ∧
      (released .disposeEngine held reply).filterMap Exchange.closes? = [] := by
  cases held <;> exact ⟨rfl, rfl⟩

/-- Connecting keeps connector and ledger in agreement. -/
theorem Connects.accounted {s : Session σ ω τ} {overrides : Entries} {w : World σ ω τ}
    {r : Except Fault Unit} {news : List Emission} (h : Connects s overrides w r k es' news)
    (hw : Accounted es w.connector) (hcount : w.link.connections = es.countP Exchange.opens) :
    Accounted (es ++ es') k := by
  cases h with
  | refused _ => exact hw.of_quiet rfl rfl rfl rfl
  | already _ => exact hw.of_quiet rfl rfl rfl rfl
  | unaddressed hnot _ => exact hw.of_quiet hnot.symm rfl rfl rfl
  | undisposed hnot hopening _ =>
    rw [hcount] at hopening
    exact hw.of_failure hnot hopening rfl rfl rfl
      (hopening.opens_of_error.1.trans (hw.connection_eq_none hnot))
  | @abandoned _ _ k _ reply hnot hopening =>
    rw [hcount] at hopening
    obtain ⟨hopens, hcloses⟩ := quiet_disposal k.engine reply
    exact hw.of_failure hnot hopening hopens hcloses rfl rfl
  | connected hnot hopening =>
    rw [hcount] at hopening
    cases hopening with
    | opened created opened set =>
      exact hw.of_opens (hw.connection_eq_none hnot) rfl rfl rfl (.inl rfl)

/-- Closing keeps connector and ledger in agreement. -/
theorem Closes.accounted {w : World σ ω τ} {r : Except Fault Unit} {news : List Emission}
    (h : Closes w r k es' news) (hw : Accounted es w.connector) : Accounted (es ++ es') k := by
  cases h with
  | unclosed _ => exact hw.of_quiet rfl rfl rfl rfl
  | @undisposed engine reply message _ =>
    cases hheld : w.connector.connection with
    | none => exact hw.of_quiet rfl rfl rfl rfl
    | some n =>
      exact hw.of_closes hheld rfl rfl (.inr ⟨rfl, [], reply, engine, message, [], rfl⟩)
  | closed reply reply' =>
    obtain ⟨hopens, hcloses⟩ := quiet_disposal w.connector.engine reply'
    cases hheld : w.connector.connection with
    | none =>
      have hnot : w.connector.isConnected = false := by rw [hw.connected, hheld]; rfl
      exact hw.of_quiet hnot.symm hheld.symm hopens hcloses
    | some n =>
      refine hw.of_closes hheld ?_ ?_ (.inl rfl)
      · rw [List.countP_append, hopens]
        rfl
      · rw [List.filterMap_append, hcloses]
        rfl

/-- Statements open and close nothing. -/
theorem quiet_of_statements (h : ∀ e ∈ es, e.request.isStatement = true) :
    es.countP Exchange.opens = 0 ∧ es.filterMap Exchange.closes? = [] := by
  have hquiet : ∀ e ∈ es, e.opens = false ∧ e.closes? = none := by
    intro e he
    have hstatement := h e he
    obtain ⟨request, reply⟩ := e
    cases request with
    | execute connection statement => exact ⟨rfl, rfl⟩
    | _ => cases hstatement
  constructor
  · exact List.countP_eq_zero.2 fun e he => Bool.eq_false_iff.1 (hquiet e he).1
  · exact List.filterMap_eq_nil_iff.2 fun e he => (hquiet e he).2

/-- Every operation keeps connector and ledger in agreement. -/
theorem Operation.Does.accounted {s : Session σ ω τ} {w : World σ ω τ} {o : Operation ω}
    {r : Except Fault Outcome} {news : List Emission} (h : o.Does s w r k es' news)
    (hw : Accounted es w.connector) (hcount : w.link.connections = es.countP Exchange.opens) :
    Accounted (es ++ es') k := by
  cases h with
  | connect h => exact h.accounted hw hcount
  | close h => exact h.accounted hw
  | store o r hes =>
    have hstatements : ∀ e ∈ es', e.request.isStatement = true := by
      intro e he
      obtain ⟨connection, statement, hrequest, -⟩ := hes e he
      rw [hrequest]
      rfl
    obtain ⟨hopens, hcloses⟩ := quiet_of_statements hstatements
    exact hw.of_quiet rfl rfl hopens hcloses
  | subscribe _ _ _ => exact hw.of_quiet rfl rfl rfl rfl
  | unsubscribe _ _ => exact hw.of_quiet rfl rfl rfl rfl

/-! ## Whole runs -/

/-- How the ledger and the connector stand behind operations from the start on. -/
def AccountedFrom (s : Session σ ω τ) (x : σ) (w : World σ ω τ) : Prop :=
  ∃ es, (⟨x, [], 0, 0⟩ : Link σ).Trades s.driver w.link es ∧ Accounted es w.connector

theorem AccountedFrom.performed {s : Session σ ω τ} {x : σ} {w : World σ ω τ}
    (h : AccountedFrom s x w) (o : Operation ω) : AccountedFrom s x (s.performed w o).after := by
  obtain ⟨es, htrades, haccounted⟩ := h
  obtain ⟨k, es', news, hdoes, hmoves⟩ := performed_does s w o
  have hcount := htrades.connections
  rw [Nat.zero_add] at hcount
  refine ⟨es ++ es', htrades.trans hmoves.trades, ?_⟩
  rw [hmoves.connector]
  exact hdoes.accounted haccounted hcount

/-- Which connections are open in any run of a session, whatever the driver refuses. When a live
connection is required and there is one, the connector holds a connection that was opened, and that
was closed only if right behind the closing the driver refused to dispose of the engine. Every other
connection that was opened was closed, unless the driver refused to set it up. -/
theorem connections_accounted_for (s : Session σ ω τ) (x : σ) (memory : τ)
    (ops : List (Operation ω)) {earlier later : List (Performed σ ω τ)} {a : Performed σ ω τ}
    (h : s.history (World.start x memory) ops = earlier ++ a :: later) :
    ((run requireConnected a.after).1 = .ok () →
      ∃ connection, a.after.connector.connection = some connection ∧
        Opened (s.driver.ledger x a.after.link.requests) connection ∧
        (Closed (s.driver.ledger x a.after.link.requests) connection →
          DisposalRefused (s.driver.ledger x a.after.link.requests) connection)) ∧
    ∀ connection, Opened (s.driver.ledger x a.after.link.requests) connection →
      a.after.connector.connection ≠ some connection →
      Closed (s.driver.ledger x a.after.link.requests) connection ∨
        SetupRefused (s.driver.ledger x a.after.link.requests) connection := by
  have hstart : AccountedFrom s x (World.start x memory : World σ ω τ) := by
    refine ⟨[], .refl s.driver _, rfl, nofun, ?_, ?_⟩
    · rintro n ⟨hpos, hle⟩
      exact absurd (Nat.le_trans hpos hle) (Nat.not_succ_le_zero 0)
    · rintro n ⟨reply, hclose⟩
      exact absurd hclose List.not_mem_nil
  obtain ⟨hbefore, ha⟩ := history_invariant (P := fun _ w => AccountedFrom s x w)
    (fun _ _ o hw => hw.performed o) [] hstart h
  have hafter := hbefore.performed a.operation
  rw [← ha] at hafter
  obtain ⟨es, htrades, haccounted⟩ := hafter
  have hledger : s.driver.ledger x a.after.link.requests = es := by
    rw [htrades.requests]
    exact htrades.ledger
  rw [hledger]
  refine ⟨fun hrequired => ?_, haccounted.dropped⟩
  cases hlive : a.after.connector.live? with
  | none =>
    rw [run_requireConnected_of_none hlive] at hrequired
    cases hrequired
  | some connection =>
    have hheld := (Connector.live?_eq_some.1 hlive).2
    exact ⟨connection, hheld, haccounted.held connection hheld⟩

theorem accounted_for_of_interruptedOperations :
    ∃ earlier a later, unwellSession.history (World.start interruptedReplies ())
        (interruptedOperations.take 4) = earlier ++ a :: later ∧
      (run requireConnected a.after).1 = .ok () ∧ a.after.connector.connection = some 2 ∧
      DisposalRefused (repliesInTurn.ledger interruptedReplies a.after.link.requests) 2 ∧
      Opened (repliesInTurn.ledger interruptedReplies a.after.link.requests) 1 ∧
      (Closed (repliesInTurn.ledger interruptedReplies a.after.link.requests) 1 ∨
        SetupRefused (repliesInTurn.ledger interruptedReplies a.after.link.requests) 1) := by
  obtain ⟨earlier, a, later, hsplit, hrequired, hheld, hclosed, hopened⟩ : ∃ earlier a later,
      unwellSession.history (World.start interruptedReplies ()) (interruptedOperations.take 4) =
        earlier ++ a :: later ∧
      (run requireConnected a.after).1 = .ok () ∧ a.after.connector.connection = some 2 ∧
      (repliesInTurn.ledger interruptedReplies a.after.link.requests).filterMap
        Exchange.closes? = [2] ∧
      Opened (repliesInTurn.ledger interruptedReplies a.after.link.requests) 1 :=
    ⟨[_, _, _], _, [], rfl, rfl, rfl, rfl, by decide, by decide⟩
  obtain ⟨hlive, hdropped⟩ := connections_accounted_for unwellSession interruptedReplies () _ hsplit
  obtain ⟨connection, hconnection, -, hrefused⟩ := hlive hrequired
  obtain rfl := Option.some.inj (hheld.symm.trans hconnection)
  refine ⟨earlier, a, later, hsplit, hrequired, hheld, hrefused ?_, hopened,
    hdropped 1 hopened (by rw [hheld]; decide)⟩
  exact closed_iff.2 (hclosed ▸ List.mem_singleton.2 rfl)

/-- A rehearsal in which the driver refuses to set connections up. -/
def refusedSetup : Script := ⟨some (.options, "no autocommit"), []⟩

/-- A connection that the driver refuses to set up is not closed, and a connector may be connected
and hold a connection that was closed. -/
theorem leak_of_refusedSetup :
    (∃ a, (rehearse .standard none echoMetadata).history (World.start refusedSetup [])
        [.connect []] = [a] ∧
      Opened (Script.driver.ledger refusedSetup a.after.link.requests) 1 ∧
      a.after.connector.connection = none ∧
      ¬ Closed (Script.driver.ledger refusedSetup a.after.link.requests) 1) ∧
    ∃ earlier a, unwellSession.history (World.start interruptedReplies ())
        (interruptedOperations.take 4) = earlier ++ [a] ∧
      (run requireConnected a.after).1 = .ok () ∧ a.after.connector.connection = some 2 ∧
      Closed (repliesInTurn.ledger interruptedReplies a.after.link.requests) 2 := by
  constructor
  · refine ⟨_, rfl, ⟨by decide, by decide⟩, rfl, fun hclosed => ?_⟩
    exact absurd (closed_iff.1 hclosed) List.not_mem_nil
  · exact ⟨[_, _, _], _, rfl, rfl, rfl, closed_iff.2 (List.mem_singleton.2 rfl)⟩

end DocumentStore
