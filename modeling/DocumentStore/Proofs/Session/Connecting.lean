import DocumentStore.Proofs.Fallible
import DocumentStore.Proofs.Session.Exchanges
import DocumentStore.Proofs.TextKeys
import DocumentStore.Session.Rehearsal

/-!
# How connecting and closing go

Connecting makes several requests one after the other, and so does closing; the driver may refuse
each of them, and an address may be refused before the first. `Connects` and `Closes` list all ways
in which this can go, with what each gives, which connector it leaves, what it exchanged with the
driver and what it told the observers. Every call goes in one of these ways (`connect_cases`,
`close_cases`).
-/

set_option autoImplicit false

namespace DocumentStore

variable {σ ω τ : Type}

/-! ## The ways -/

/-- How opening engine and connection goes for a connector, with the request that creates the engine
and the numbers that engine and connection are to have: the driver refuses one of three requests, or
none. -/
inductive Opening (create : Request) (engine connection : Nat) (k : Connector) :
    Except Fault Unit → Connector → List Exchange → Prop
  | noEngine (message : String) :
    Opening create engine connection k (.error (.driver message)) k [⟨create, .error message⟩]
  | noConnection (created : Reply) (message : String) :
    Opening create engine connection k (.error (.driver message)) { k with engine := some engine }
      [⟨create, .ok created⟩, ⟨.openConnection engine, .error message⟩]
  | noSetup (created opened : Reply) (message : String) :
    Opening create engine connection k (.error (.driver message)) { k with engine := some engine }
      [⟨create, .ok created⟩, ⟨.openConnection engine, .ok opened⟩,
        ⟨.setAutocommit connection, .error message⟩]
  | opened (created opened set : Reply) :
    Opening create engine connection k (.ok ())
      { k with engine := some engine, connection := some connection }
      [⟨create, .ok created⟩, ⟨.openConnection engine, .ok opened⟩,
        ⟨.setAutocommit connection, .ok set⟩]

/-- What is exchanged when something that may be held is given back without being refused. -/
def released (request : Nat → Request) (held : Option Nat) (reply : Reply) : List Exchange :=
  held.toList.map fun n => ⟨request n, .ok reply⟩

/-- The ways of a call of `connect` in a world: what it gives, the connector that it leaves, its
exchanges with the driver and its emissions. -/
inductive Connects (s : Session σ ω τ) (overrides : Entries) (w : World σ ω τ) :
    Except Fault Unit → Connector → List Exchange → List Emission → Prop
  | refused {fault : Fault} (hrefused : DatabaseUrl.ensureOverrides overrides = .error fault) :
    Connects s overrides w (.error fault) w.connector [] []
  | already (hconnected : w.connector.isConnected = true) :
    Connects s overrides w (.ok ()) w.connector [] []
  | unaddressed {fault : Fault} (hnot : w.connector.isConnected = false)
    (hurl : Session.address s overrides = .error fault) :
    Connects s overrides w (.error fault) { w.connector with state := .connecting } [] []
  | undisposed {url : DatabaseUrl} {fault : Fault} {k : Connector} {es : List Exchange}
    {engine : Nat}
    {message : String} (hnot : w.connector.isConnected = false)
    (hopening : Opening (.createEngine url s.settings.echo) (w.link.engines + 1)
      (w.link.connections + 1) { w.connector with state := .connecting } (.error fault) k es)
    (hengine : k.engine = some engine) :
    Connects s overrides w (.error (.driver message)) { k with state := .disconnected }
      (es ++ [⟨.disposeEngine engine, .error message⟩]) []
  | abandoned {url : DatabaseUrl} {fault : Fault} {k : Connector} {es : List Exchange}
    {reply : Reply}
    (hnot : w.connector.isConnected = false)
    (hopening : Opening (.createEngine url s.settings.echo) (w.link.engines + 1)
      (w.link.connections + 1) { w.connector with state := .connecting } (.error fault) k es) :
    Connects s overrides w (.error fault) .idle (es ++ released .disposeEngine k.engine reply)
      [⟨.error, .fault fault⟩]
  | connected {url : DatabaseUrl} {k : Connector} {es : List Exchange}
    (hnot : w.connector.isConnected = false)
    (hopening : Opening (.createEngine url s.settings.echo) (w.link.engines + 1)
      (w.link.connections + 1) { w.connector with state := .connecting } (.ok ()) k es) :
    Connects s overrides w (.ok ()) { k with state := .connected } es
      [⟨.connected, .connector .connected⟩]

/-- The ways of a call of `close` in a world, told as those of `connect`. -/
inductive Closes (w : World σ ω τ) :
    Except Fault Unit → Connector → List Exchange → List Emission → Prop
  | unclosed {connection : Nat} {message : String}
    (hconnection : w.connector.connection = some connection) :
    Closes w (.error (.driver message)) w.connector
      [⟨.closeConnection connection, .error message⟩] []
  | undisposed {engine : Nat} {reply : Reply} {message : String}
    (hengine : w.connector.engine = some engine) :
    Closes w (.error (.driver message)) w.connector
      (released .closeConnection w.connector.connection reply ++
        [⟨.disposeEngine engine, .error message⟩]) []
  | closed (reply reply' : Reply) :
    Closes w (.ok ()) .idle
      (released .closeConnection w.connector.connection reply ++
        released .disposeEngine w.connector.engine reply')
      (if w.connector.isConnected then [⟨.disconnected, .connector .disconnected⟩] else [])

namespace Session

open Step Fallible

variable {s : Session σ ω τ} {w w' : World σ ω τ}

/-! ## Opening -/

/-- An engine that is created gets the next number, and the connector holds it. -/
theorem openEngine_cases {url : DatabaseUrl} {r : Except Fault Nat}
    (h : run (openEngine s url) w = (r, w')) :
    w'.hub = w.hub ∧ w'.link.connections = w.link.connections ∧
      ((∃ created, r = .ok (w.link.engines + 1) ∧
          w'.connector = { w.connector with engine := some (w.link.engines + 1) } ∧
          w.link.Trades s.driver w'.link [⟨.createEngine url s.settings.echo, .ok created⟩]) ∨
        ∃ message, r = .error (.driver message) ∧ w'.connector = w.connector ∧
          w.link.Trades s.driver w'.link
            [⟨.createEngine url s.settings.echo, .error message⟩]) := by
  rcases request_bind_cases h with ⟨created, hreply, h⟩ | ⟨message, hreply, rfl, rfl⟩
  · cases h
    have hasked := trades_asked s.driver w hreply rfl
    exact ⟨rfl, rfl, .inl ⟨created, rfl, rfl,
      ⟨hasked.requests, hasked.ledger, hasked.driver, hasked.connections⟩⟩⟩
  · exact ⟨rfl, rfl, .inr ⟨message, rfl, rfl, trades_asked s.driver w hreply rfl⟩⟩

/-- A connection that is opened gets the next number. -/
theorem openConnection_cases {engine : Nat} {r : Except Fault Nat}
    (h : run (openConnection s engine) w = (r, w')) :
    w'.hub = w.hub ∧ w'.connector = w.connector ∧
      ((∃ opened, r = .ok (w.link.connections + 1) ∧
          w.link.Trades s.driver w'.link [⟨.openConnection engine, .ok opened⟩]) ∨
        ∃ message, r = .error (.driver message) ∧
          w.link.Trades s.driver w'.link [⟨.openConnection engine, .error message⟩]) := by
  rcases request_bind_cases h with ⟨opened, hreply, h⟩ | ⟨message, hreply, rfl, rfl⟩
  · cases h
    -- the connection is counted behind the request that opened it
    exact ⟨rfl, rfl, .inl ⟨opened, rfl, ⟨rfl, by rw [← hreply]; rfl, rfl, rfl⟩⟩⟩
  · exact ⟨rfl, rfl, .inr ⟨message, rfl, trades_asked s.driver w hreply rfl⟩⟩

/-- Engine and connection are opened in one of the ways of `Opening`. -/
theorem openAll_cases {url : DatabaseUrl} {r : Except Fault Unit}
    (h : run (openAll s url) w = (r, w')) :
    ∃ es, Opening (.createEngine url s.settings.echo) (w.link.engines + 1)
        (w.link.connections + 1) w.connector r w'.connector es ∧
      w'.hub = w.hub ∧ w.link.Trades s.driver w'.link es := by
  rcases bind_cases h with ⟨engine, v, hengine, h⟩ | ⟨fault, hengine, rfl⟩
  · obtain ⟨hhub, hcount, ⟨created, hr, hconnector, htrades⟩ | ⟨_, hr, -⟩⟩ :=
      openEngine_cases hengine
    · cases hr
      rcases bind_cases h with ⟨connection, v', hconnection, h⟩ | ⟨fault, hconnection, rfl⟩
      · obtain ⟨hhub', hconnector', ⟨opened, hr, htrades'⟩ | ⟨_, hr, -⟩⟩ :=
          openConnection_cases hconnection
        · cases hr
          rw [hcount] at h
          have hboth := htrades.trans htrades'
          rcases request_bind_cases h with ⟨set, hreply, h⟩ | ⟨message, hreply, rfl, rfl⟩
          · cases h
            refine ⟨_, ?_, hhub'.trans hhub, hboth.trans (trades_asked s.driver v' hreply rfl)⟩
            show Opening _ _ _ _ _ { v'.connector with connection := _ } _
            rw [hconnector', hconnector]
            exact .opened created opened set
          · refine ⟨_, ?_, hhub'.trans hhub, hboth.trans (trades_asked s.driver v' hreply rfl)⟩
            show Opening _ _ _ _ _ v'.connector _
            rw [hconnector', hconnector]
            exact .noSetup created opened message
        · cases hr
      · obtain ⟨hhub', hconnector', ⟨_, hr, -⟩ | ⟨message, hr, htrades'⟩⟩ :=
          openConnection_cases hconnection
        · cases hr
        · cases hr
          refine ⟨_, ?_, hhub'.trans hhub, htrades.trans htrades'⟩
          rw [hconnector', hconnector]
          exact .noConnection created message
    · cases hr
  · obtain ⟨hhub, -, ⟨_, hr, -⟩ | ⟨message, hr, hconnector, htrades⟩⟩ := openEngine_cases hengine
    · cases hr
    · cases hr
      refine ⟨_, ?_, hhub, htrades⟩
      rw [hconnector]
      exact .noEngine message

/-! ## Giving back -/

/-- Gives back what may be held, by a request for it. -/
def release (s : Session σ ω τ) (request : Nat → Request) (held : Option Nat) : Step σ ω τ Unit :=
  match held with
  | some n => do let _ ← Step.request s (request n)
  | none => pure ()

theorem run_disposeEngine (s : Session σ ω τ) (w : World σ ω τ) :
    run (disposeEngine s) w = run (release s .disposeEngine w.connector.engine) w := by
  rw [disposeEngine, run_bind, run_look]
  rfl

theorem run_closeConnection (s : Session σ ω τ) (w : World σ ω τ) :
    run (closeConnection s) w = run (release s .closeConnection w.connector.connection) w := by
  rw [closeConnection, run_bind, run_look]
  rfl

/-- A step that gives back what may be held comes first: it is given back and the next step goes on,
or the driver refuses to take it. -/
theorem release_bind_cases {α : Type} {request : Nat → Request} {held : Option Nat}
    {a : Step σ ω τ Unit} {next : Unit → Step σ ω τ α} {r : Except Fault α}
    (ha : run a w = run (release s request held) w)
    (hopens : ∀ n reply, Exchange.opens ⟨request n, reply⟩ = false)
    (h : run (a >>= next) w = (r, w')) :
    (∃ reply v, v.connector = w.connector ∧ v.hub = w.hub ∧
        w.link.Trades s.driver v.link (released request held reply) ∧
        run (next ()) v = (r, w')) ∨
      ∃ n message, held = some n ∧ r = .error (.driver message) ∧ w'.connector = w.connector ∧
        w'.hub = w.hub ∧ w.link.Trades s.driver w'.link [⟨request n, .error message⟩] := by
  rcases bind_cases h with ⟨_, v, hrun, h⟩ | ⟨fault, hrun, rfl⟩
  · rw [ha] at hrun
    cases held with
    | none =>
      cases hrun
      exact .inl ⟨⟨none, 0⟩, w, rfl, rfl, .refl s.driver w.link, h⟩
    | some n =>
      rcases request_bind_cases hrun with ⟨reply, hreply, hpure⟩ | ⟨_, _, hr, _⟩
      · cases hpure
        exact .inl ⟨reply, w.asked s.driver (request n), rfl, rfl,
          trades_asked s.driver w hreply (hopens n _), h⟩
      · cases hr
  · rw [ha] at hrun
    cases held with
    | none => cases hrun
    | some n =>
      rcases request_bind_cases hrun with ⟨_, _, hpure⟩ | ⟨message, hreply, hr, rfl⟩
      · cases hpure
      · cases hr
        exact .inr ⟨n, message, rfl, rfl, rfl, rfl, trades_asked s.driver w hreply (hopens n _)⟩

/-! ## Connecting -/

/-- Giving up an attempt to connect disposes of the engine and tells the observers, unless the
driver refuses to dispose of it. -/
theorem abandon_cases {fault : Fault} {r : Except Fault Unit}
    (h : run (abandon s fault) w = (r, w')) :
    (∃ reply, r = .error fault ∧
        w.Moves s.driver w' .idle (released .disposeEngine w.connector.engine reply)
          [⟨.error, .fault fault⟩]) ∨
      ∃ engine message, w.connector.engine = some engine ∧ r = .error (.driver message) ∧
        w.Moves s.driver w' { w.connector with state := .disconnected }
          [⟨.disposeEngine engine, .error message⟩] [] := by
  rw [abandon, run_changeConnector_bind] at h
  rcases release_bind_cases (run_disposeEngine s _) (fun _ _ => rfl) h with
    ⟨reply, v, hconnector, hhub, htrades, h⟩ |
    ⟨engine, message, hengine, rfl, hconnector, hhub, htrades⟩
  · cases h
    refine .inl ⟨reply, rfl, ?_⟩
    have hidle : { v.connector with engine := none, connection := none } = Connector.idle := by
      rw [hconnector]
      rfl
    rw [← hidle]
    exact .of_emit s .error (.fault fault) htrades (Hub.Logs.trans (.of_eq hhub) ⟨_, rfl⟩)
  · refine .inr ⟨engine, message, hengine, rfl, ?_⟩
    have hmoves := World.Moves.of_logs (w := w) htrades (.of_eq hhub)
    rwa [hconnector] at hmoves

/-- A connector that has got its engine and connection is connected, and the observers are told. -/
theorem announce_moves (s : Session σ ω τ) (url : DatabaseUrl) (w : World σ ω τ) :
    ∃ w', run (announce s url) w = (.ok (), w') ∧
      w.Moves s.driver w' { w.connector with state := .connected } []
        [⟨.connected, .connector .connected⟩] := by
  rw [announce, run_changeConnector_bind, run_log_bind, run_bind]
  exact ⟨_, rfl, .of_emit s .connected (.connector .connected) (.refl s.driver w.link) ⟨_, rfl⟩⟩

/-- A call of `connect` goes in one of its ways. -/
theorem connect_cases {overrides : Entries} {r : Except Fault Unit}
    (h : run (connect s overrides) w = (r, w')) :
    ∃ k es news, Connects s overrides w r k es news ∧ w.Moves s.driver w' k es news := by
  have hrefl (k : Connector) : w.Moves s.driver { w with connector := k } k [] [] :=
    .of_logs (.refl s.driver w.link) (.of_eq rfl)
  rcases (demand_bind_cases h).symm with ⟨fault, hrefused, rfl, rfl⟩ | ⟨_, -, h⟩
  · exact ⟨_, _, _, .refused hrefused, hrefl w'.connector⟩
  rw [run_bind, run_look] at h
  dsimp only at h
  split at h
  · next hconnected =>
    cases h
    exact ⟨_, _, _, .already hconnected, hrefl w.connector⟩
  next hconnected =>
  have hnot : w.connector.isConnected = false := Bool.eq_false_iff.2 hconnected
  rw [connectAnew, run_changeConnector_bind] at h
  rcases (demand_bind_cases h).symm with ⟨fault, hurl, rfl, rfl⟩ | ⟨⟨url, shown⟩, -, h⟩
  · exact ⟨_, _, _, .unaddressed hnot hurl, hrefl _⟩
  rw [run_log_bind, run_bind, run_attempt] at h
  dsimp only at h
  generalize hopen : run (openAll s url) _ = opened at h
  obtain ⟨outcome, v⟩ := opened
  obtain ⟨es, hopening, hhub, htrades⟩ := openAll_cases hopen
  have hopened : w.Moves s.driver v v.connector es [] :=
    .of_logs htrades (Hub.Logs.trans ⟨_, rfl⟩ (.of_eq hhub))
  have hregistry : v.hub.registry = w.hub.registry := by rw [hhub]; rfl
  cases outcome with
  | error fault =>
    rcases abandon_cases h with ⟨reply, rfl, hmoves⟩ | ⟨engine, message, hengine, rfl, hmoves⟩
    · exact ⟨_, _, _, .abandoned hnot hopening, hopened.trans hmoves hregistry⟩
    · exact ⟨_, _, _, .undisposed hnot hopening hengine, hopened.trans hmoves hregistry⟩
  | ok _ =>
    obtain ⟨w₁, hannounce, hmoves⟩ := announce_moves s url v
    rw [hannounce] at h
    cases h
    have hmoves := hopened.trans hmoves hregistry
    rw [List.append_nil] at hmoves
    exact ⟨_, _, _, .connected hnot hopening, hmoves⟩

/-! ## Closing -/

/-- A connector that has disconnected tells the observers. -/
theorem announceClosed_moves (s : Session σ ω τ) (w : World σ ω τ) :
    ∃ w', run (announceClosed s) w = (.ok (), w') ∧
      w.Moves s.driver w' w.connector [] [⟨.disconnected, .connector .disconnected⟩] := by
  rw [announceClosed, run_log_bind, run_bind]
  exact ⟨_, rfl, .of_emit s .disconnected (.connector .disconnected)
    (.refl s.driver w.link) ⟨_, rfl⟩⟩

/-- A call of `close` goes in one of its ways. -/
theorem close_cases {r : Except Fault Unit} (h : run (close s) w = (r, w')) :
    ∃ k es news, Closes w r k es news ∧ w.Moves s.driver w' k es news := by
  rcases release_bind_cases (run_closeConnection s w) (fun _ _ => rfl) h with
    ⟨reply, v, hconnector, hhub, htrades, h⟩ |
    ⟨connection, message, hconnection, rfl, hconnector, hhub, htrades⟩
  · rcases release_bind_cases (run_disposeEngine s v) (fun _ _ => rfl) h with
      ⟨reply', v', hconnector', hhub', htrades', h⟩ |
      ⟨engine, message, hengine, rfl, hconnector', hhub', htrades'⟩
    · rw [hconnector] at htrades'
      have hboth : w.Moves s.driver { v' with connector := .idle } .idle
          (released .closeConnection w.connector.connection reply ++
            released .disposeEngine w.connector.engine reply') [] :=
        .of_logs (htrades.trans htrades') (.of_eq (hhub'.trans hhub))
      rw [run_bind, run_look] at h
      dsimp only at h
      rw [run_changeConnector_bind, hconnector', hconnector] at h
      have hclosed := Closes.closed (w := w) reply reply'
      split at h
      · next hconnected =>
        rw [if_pos hconnected] at hclosed
        obtain ⟨w₁, hannounce, hmoves⟩ := announceClosed_moves s { v' with connector := .idle }
        rw [hannounce] at h
        cases h
        have hmoves := hboth.trans hmoves (by rw [hhub', hhub])
        rw [List.append_nil] at hmoves
        exact ⟨_, _, _, hclosed, hmoves⟩
      · next hconnected =>
        rw [if_neg hconnected] at hclosed
        cases h
        exact ⟨_, _, _, hclosed, hboth⟩
    · rw [hconnector] at hengine
      have hmoves := World.Moves.of_logs (htrades.trans htrades') (.of_eq (hhub'.trans hhub))
      rw [hconnector', hconnector] at hmoves
      exact ⟨_, _, _, .undisposed hengine, hmoves⟩
  · have hmoves := World.Moves.of_logs htrades (.of_eq hhub)
    rw [hconnector] at hmoves
    exact ⟨_, _, _, .unclosed hconnection, hmoves⟩

/-! ## Failing to connect -/

/-- A driver that always disposes of engines leaves no exchange in which it refuses to. -/
theorem not_refused_disposal {d : Driver σ}
    (hdispose : ∀ engine x, ∃ reply, (d (.disposeEngine engine) x).1 = .ok reply) {l l' : Link σ}
    {es : List Exchange} (h : l.Trades d l' es) (engine : Nat) (message : String) :
    (⟨.disposeEngine engine, .error message⟩ : Exchange) ∉ es := by
  intro he
  rw [← h.ledger] at he
  obtain ⟨x, hrefused⟩ := Driver.reply_of_mem_ledger he
  obtain ⟨reply, hreply⟩ := hdispose engine x
  rw [hreply] at hrefused
  cases hrefused

/-- A refused address is noticed when the connector is connecting already: it stays so, and nobody
is told. -/
theorem run_connect_of_refused (s : Session σ ω τ) {overrides : Entries} {fault : Fault}
    (hnamed : DatabaseUrl.ensureOverrides overrides = .ok ())
    (hnot : w.connector.isConnected = false) (hurl : address s overrides = .error fault) :
    run (connect s overrides) w =
      (.error fault, { w with connector := { w.connector with state := .connecting } }) := by
  rw [connect, run_bind, run_demand, hnamed]
  dsimp only
  rw [run_bind, run_look, hnot]
  dsimp only
  rw [if_neg Bool.false_ne_true, connectAnew, run_changeConnector_bind, run_bind, run_demand, hurl]

/-- An address with a port that is no integer is refused. -/
theorem address_of_refused_port (s : Session σ ω τ) {overrides : Entries} {v : Value}
    {fault : Fault} (hnamed : DatabaseUrl.ensureOverrides overrides = .ok ())
    (hport : DatabaseUrl.override? overrides "port" = some v) (hv : v.integer = .error fault) :
    ∃ refusal, address s overrides = .error refusal := by
  have hchanged : ¬(DatabaseUrl.changesOf overrides).isNothing = true := by
    simp [UrlChanges.isNothing, DatabaseUrl.changesOf, hport]
  obtain ⟨refusal, hset⟩ :=
    s.urls.set_port (.ofSettings s.settings) (DatabaseUrl.changesOf overrides) v fault hport hv
  refine ⟨refusal, ?_⟩
  rw [address, DatabaseUrl.build, hnamed]
  show (if (DatabaseUrl.changesOf overrides).isNothing = true then _ else _) >>= _ = _
  rw [if_neg hchanged, hset]
  rfl

theorem address_of_build {s : Session σ ω τ} {overrides : Entries} {url : DatabaseUrl}
    (hurl : DatabaseUrl.build s.urls s.settings overrides = .ok url) :
    address s overrides = (s.urls.text url).map (url, ·) := by
  rw [address, hurl]
  rfl

/-- An accepted address is shown when its port can be written. -/
theorem exists_address (s : Session σ ω τ) {overrides : Entries} {url : DatabaseUrl}
    (hurl : DatabaseUrl.build s.urls s.settings overrides = .ok url)
    (hport : url.port.writable = true) :
    ∃ shown, address s overrides = .ok (url, shown) := by
  obtain ⟨shown, hshown⟩ := s.urls.text_ok url hport
  rw [address_of_build hurl, hshown]
  exact ⟨shown, rfl⟩

/-- When the address of a connection is accepted and its port can be written, a call of `connect`
that fails leaves the connector disconnected, holding nothing, and every observer of failures is
told of this very fault once; the driver is assumed to dispose of engines without refusing. -/
theorem disconnected_of_failed_connect (s : Session σ ω τ) {overrides : Entries} {url : DatabaseUrl}
    {fault : Fault}
    (hdispose : ∀ engine x, ∃ reply, (s.driver (.disposeEngine engine) x).1 = .ok reply)
    (hurl : DatabaseUrl.build s.urls s.settings overrides = .ok url)
    (hport : url.port.writable = true) (h : run (connect s overrides) w = (.error fault, w')) :
    w'.connector = .idle ∧ w'.hub.emitted = w.hub.emitted ++ [⟨.error, .fault fault⟩] ∧
      w'.hub.notices = w.hub.notices ++ (w.hub.registry.subscribers .error).map fun subscription =>
        ⟨subscription, .error, .fault fault⟩ := by
  obtain ⟨k, es, news, hconnects, hmoves⟩ := connect_cases h
  cases hconnects with
  | refused hrefused =>
    rw [DatabaseUrl.build, hrefused] at hurl
    cases hurl
  | unaddressed _ hrefused =>
    obtain ⟨shown, haddress⟩ := exists_address s hurl hport
    rw [hrefused] at haddress
    cases haddress
  | undisposed _ _ _ =>
    exact absurd (List.mem_append_right _ (List.mem_singleton.2 rfl))
      (not_refused_disposal hdispose hmoves.trades _ _)
  | abandoned _ _ =>
    refine ⟨hmoves.connector, hmoves.emitted, ?_⟩
    rw [hmoves.notices, List.flatMap_singleton]

end Session

/-- A rehearsal with an observer of failures, the driver following a script. -/
def observedRehearsal (script : Script) : Rehearsal :=
  { Rehearsal.follow script .start with
    hub := (Hub.subscribeLabelled numberedUuid .error ⟨"watch", .listen⟩ (.start [])).2 }

theorem disconnected_of_refusedConnection :
    ∃ fault w', (∀ engine x, ∃ reply, (Script.driver (.disposeEngine engine) x).1 = .ok reply) ∧
      DatabaseUrl.build .percentEncoding .standard [] = .ok (.ofSettings .standard) ∧
      (DatabaseUrl.ofSettings .standard).port.writable = true ∧
      Step.run (Session.connect (rehearse .standard none echoMetadata) [])
        (observedRehearsal ⟨some (.connect, "refused"), []⟩) = (.error fault, w') ∧
      w'.connector = .idle ∧ w'.hub.notices.length = 1 := by
  have hdispose : ∀ engine x, ∃ reply, (Script.driver (.disposeEngine engine) x).1 = .ok reply :=
    fun _ _ => ⟨_, rfl⟩
  obtain ⟨fault, w', hrun⟩ : ∃ fault w',
      Step.run (Session.connect (rehearse .standard none echoMetadata) [])
        (observedRehearsal ⟨some (.connect, "refused"), []⟩) = (.error fault, w') := ⟨_, _, rfl⟩
  have hurl : DatabaseUrl.build .percentEncoding .standard [] = .ok (.ofSettings .standard) := rfl
  have hport : (DatabaseUrl.ofSettings .standard).port.writable = true := by decide
  obtain ⟨hidle, -, hnotices⟩ := Session.disconnected_of_failed_connect
    (rehearse .standard none echoMetadata) hdispose hurl hport hrun
  exact ⟨fault, w', hdispose, hurl, hport, hrun, hidle, by rw [hnotices]; rfl⟩

/-- A port that is no number leaves the connector connecting, and no observer is told. -/
theorem connecting_of_refusedPort :
    ∃ fault w', Step.run (Session.connect (rehearse .standard none echoMetadata)
        [(.text "port", .text "x")]) (observedRehearsal .empty) = (.error fault, w') ∧
      (observedRehearsal .empty).connector.state = .disconnected ∧
      w'.connector.state = .connecting ∧ w'.hub.emitted = [] ∧ w'.hub.notices = [] := by
  have hnamed : DatabaseUrl.ensureOverrides [(.text "port", .text "x")] = .ok () := rfl
  have hport : DatabaseUrl.override? [(.text "port", .text "x")] "port" = some (.text "x") := by
    simp [DatabaseUrl.override?, Entries.getText?, Entries.get?, Value.same_text, Value.isNull]
  obtain ⟨fault, hx⟩ : ∃ fault, (Value.text "x").integer = .error fault := ⟨_, rfl⟩
  obtain ⟨refusal, hurl⟩ :=
    Session.address_of_refused_port (rehearse .standard none echoMetadata) hnamed hport hx
  have hrun := Session.run_connect_of_refused (rehearse .standard none echoMetadata)
    (w := observedRehearsal .empty) hnamed rfl hurl
  exact ⟨refusal, _, hrun, rfl, rfl, rfl, rfl⟩

end DocumentStore
