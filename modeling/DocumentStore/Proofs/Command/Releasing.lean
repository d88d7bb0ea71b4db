import DocumentStore.Command.Run
import DocumentStore.Proofs.Schema.Valid
import DocumentStore.Proofs.Session.Connecting
import DocumentStore.Proofs.Session.Storing
import DocumentStore.Proofs.Settings.Reading

/-!
# Commands that connect

`check` connects and closes, and `sync` reconciles a table in between. Whatever the driver refuses,
a run ends well when each of these has returned, and else reports an error and prints nothing
(`Command.Ends`); a connector that has connected is asked to close its connection once, at the end,
and one that has not is never asked (`Command.Releases`). The columns that `sync` prints are those
that the reconciliation has returned.
-/

set_option autoImplicit false

namespace DocumentStore

open Session Step

/-! ## Closing -/

/-- The connection that a request asks to close. -/
def Request.closing? : Request → Option Nat
  | .closeConnection connection => some connection
  | _ => none

/-- The connections that requests ask to close. -/
def closings (rs : List Request) : List Nat := rs.filterMap Request.closing?

theorem closings_append (rs rs' : List Request) :
    closings (rs ++ rs') = closings rs ++ closings rs' :=
  List.filterMap_append

theorem closings_eq_nil {rs : List Request} (h : ∀ r ∈ rs, r.closing? = none) : closings rs = [] :=
  List.filterMap_eq_nil_iff.2 h

/-- That a connector has connected. -/
def connectedEmission : Emission := ⟨.connected, .connector .connected⟩

namespace Session

variable {σ ω τ : Type} {s : Session σ ω τ} {w w' : World σ ω τ}

/-- Opening closes nothing. -/
theorem closing_of_opening {url : DatabaseUrl} {echo : Bool} {engine connection : Nat}
    {k k' : Connector} {r : Except Fault Unit} {es : List Exchange}
    (h : Opening (.createEngine url echo) engine connection k r k' es) :
    ∀ e ∈ es, e.request.closing? = none := by
  cases h <;> simp [Request.closing?]

/-- Closing asks to close the connection that is held, and to dispose of an engine, and nothing
else; nobody is told that the connector has connected. -/
theorem close_requests {r : Except Fault Unit} (h : run (close s) w = (r, w')) :
    ∃ disposals, (∀ q ∈ disposals, ∃ engine, q = Request.disposeEngine engine) ∧
      w'.link.requests =
        w.link.requests ++ w.connector.connection.toList.map .closeConnection ++ disposals ∧
      (connectedEmission ∈ w'.hub.emitted ↔ connectedEmission ∈ w.hub.emitted) := by
  obtain ⟨k, es, news, hcloses, hmoves⟩ := close_cases h
  rw [hmoves.trades.requests, hmoves.emitted]
  cases hcloses with
  | @unclosed connection message hconnection =>
    refine ⟨[], fun q hq => absurd hq List.not_mem_nil, ?_, by simp⟩
    rw [hconnection]
    simp
  | @undisposed engine reply message hengine =>
    refine ⟨[.disposeEngine engine], fun q hq => ⟨engine, List.mem_singleton.1 hq⟩, ?_, by simp⟩
    simp [released, Function.comp_def]
  | closed reply reply' =>
    refine ⟨w.connector.engine.toList.map .disposeEngine, fun q hq => ?_, ?_, ?_⟩
    · obtain ⟨engine, -, rfl⟩ := List.mem_map.1 hq
      exact ⟨engine, rfl⟩
    · simp [released, Function.comp_def]
    · split <;> simp [connectedEmission]

/-- What a call of `connect` leaves that was made by a connector that held nothing. One that returns
holds a connection, and has told that it has connected; one that fails holds none, and has not.
Neither has closed anything. -/
structure Started (held : Option Nat) (r : Except Fault Unit) (v : World σ ω τ) : Prop where
  connection : v.connector.connection = held
  connected : v.connector.isConnected = held.isSome
  told : connectedEmission ∈ v.hub.emitted ↔ held.isSome = true
  returned : r = .ok () ↔ held.isSome = true
  closings : closings v.link.requests = []

/-- Without overrides an address is that of the settings, and is shown when their port can be
written. -/
theorem exists_address_of_settings (hport : (Value.int s.settings.port).writable = true) :
    ∃ shown, address s [] = .ok (.ofSettings s.settings, shown) := by
  have hbuild : DatabaseUrl.build s.urls s.settings [] = .ok (.ofSettings s.settings) := rfl
  exact exists_address s hbuild hport

/-- The first call of `connect` without overrides. -/
theorem connect_from_start (hport : (Value.int s.settings.port).writable = true)
    {x : σ} {memory : τ} {r : Except Fault Unit}
    (h : run (connect s []) (World.start x memory) = (r, w')) :
    ∃ held, Started held r w' := by
  obtain ⟨k, es, news, hconnects, hmoves⟩ := connect_cases h
  have hemitted : w'.hub.emitted = news := by
    rw [hmoves.emitted]
    rfl
  have hrequests : w'.link.requests = es.map (·.request) := by
    rw [hmoves.trades.requests]
    rfl
  have hclosings (h : ∀ e ∈ es, e.request.closing? = none) :
      DocumentStore.closings w'.link.requests = [] := by
    rw [hrequests]
    exact closings_eq_nil (List.forall_mem_map.2 h)
  -- the connector holds nothing yet, and without overrides an address is not refused
  cases hconnects with
  | refused hrefused => cases hrefused
  | already hconnected => cases hconnected
  | unaddressed _ hurl =>
    obtain ⟨shown, haddress⟩ := exists_address_of_settings hport
    rw [haddress] at hurl
    cases hurl
  | @undisposed url fault k es engine message _ hopening _ =>
    -- an engine is still held, but a connection that could not be set up is not
    have hnone : k.connection = none := by
      cases hopening <;> rfl
    refine ⟨none, ⟨?_, ?_, ?_, by simp, hclosings fun e he => ?_⟩⟩
    · rw [hmoves.connector]
      exact hnone
    · rw [hmoves.connector]
      rfl
    · rw [hemitted]
      simp
    · rcases List.mem_append.1 he with he | he
      · exact closing_of_opening hopening e he
      · rw [List.mem_singleton.1 he]
        rfl
  | @abandoned url fault k es reply _ hopening =>
    refine ⟨none, ⟨?_, ?_, ?_, by simp, hclosings fun e he => ?_⟩⟩
    · rw [hmoves.connector]
      rfl
    · rw [hmoves.connector]
      rfl
    · rw [hemitted]
      simp [connectedEmission]
    · rcases List.mem_append.1 he with he | he
      · exact closing_of_opening hopening e he
      · obtain ⟨engine, -, rfl⟩ := List.mem_map.1 he
        rfl
  | @connected url k es _ hopening =>
    have hsome : k.connection = some 1 := by
      cases hopening
      rfl
    refine ⟨some 1, ⟨?_, ?_, ?_, by simp, hclosings fun e he => closing_of_opening hopening e he⟩⟩
    · rw [hmoves.connector]
      exact hsome
    · rw [hmoves.connector]
      rfl
    · rw [hemitted]
      simp [connectedEmission]

end Session

/-! ## What a reconciliation returns -/

/-- The columns that a reconciliation returns have texts for names. -/
theorem Session.texts_of_reconcile {σ ω τ : Type} {s : Session σ ω τ} {table : Value}
    {source : SchemaSource} {w w' : World σ ω τ} {added : List Value}
    (h : run (reconcile s table source) w = (.ok added, w')) :
    ∃ names : List String, added = names.map .text := by
  rcases reconcile_cases h with ⟨fault, hfault, -⟩ | ⟨connection, schema, -, -, hvalid, hbring⟩
  · cases hfault
  have hfields := valid_of_ensureValid hvalid
  have htexts (ds : List FieldDefinition) (hds : ∀ d ∈ ds, d ∈ schema.userFields) :
      ∃ names : List String, ds.map (·.name) = names.map .text := by
    induction ds with
    | nil => exact ⟨[], rfl⟩
    | cons d ds ih =>
      obtain ⟨hd, hds⟩ := List.forall_mem_cons.1 hds
      obtain ⟨n, hn, -⟩ := (FieldSchema.valid_of_mem_userFields hfields d hd).name
      obtain ⟨names, hnames⟩ := ih hds
      exact ⟨n :: names, by rw [List.map_cons, List.map_cons, hn, hnames]⟩
  rcases bind_cases hbring with ⟨present, v, -, hrest⟩ | ⟨fault, -, hfault⟩
  swap
  · cases hfault
  split at hrest
  · -- a table that is widened
    rcases bind_cases hrest with ⟨existing, v', -, hrest⟩ | ⟨fault, -, hfault⟩
    swap
    · cases hfault
    dsimp only at hrest
    split at hrest
    · cases hrest
      exact ⟨[], rfl⟩
    · rcases demand_bind_cases hrest with ⟨sqls, -, hrest⟩ | ⟨fault, -, hfault, -⟩
      swap
      · cases hfault
      rcases bind_cases hrest with ⟨_, v'', -, hrest⟩ | ⟨fault, -, hfault⟩
      swap
      · cases hfault
      rw [run_log_bind] at hrest
      cases hrest
      exact htexts _ fun d hd => List.mem_of_mem_filter hd
  · -- a table that is created
    rcases demand_bind_cases hrest with ⟨sql, -, hrest⟩ | ⟨fault, -, hfault, -⟩
    swap
    · cases hfault
    rcases bind_cases hrest with ⟨_, v', -, hrest⟩ | ⟨fault, -, hfault⟩
    swap
    · cases hfault
    rw [run_log_bind] at hrest
    cases hrest
    obtain ⟨names, hnames⟩ := htexts schema.userFields fun d hd => hd
    refine ⟨systemColumns.map (·.1) ++ names, ?_⟩
    rw [createdColumns, hnames, List.map_append, List.map_map]
    rfl

/-! ## How a run ends -/

namespace Command

/-- How a run ends that has come through when something has happened: well and with a line, which a
console shows as it is when it has no escape characters; or with a reported error and without
output. -/
structure Ends (o : Outcome) (through : Prop) (line : String) : Prop where
  exits : o.status = 0 ↔ through
  success : through → o.output = line
  shows : through → '\x1b' ∉ line.toList → ∀ console, o.shown console = line
  failure : ¬through → o.status = 1 ∧ o.output = "" ∧
    ∃ rest, o.ending = .reported ("Error: " ++ rest)

theorem ends_print {through : Prop} (h : through) (line : String) :
    Ends (.print line) through line :=
  ⟨⟨fun _ => h, fun _ => rfl⟩, fun _ => rfl,
    fun _ hplain console => console.shown_plain line hplain, fun hnot => absurd h hnot⟩

theorem ends_report {through : Prop} (h : ¬through) (message line : String) :
    Ends (.report message) through line := by
  refine ⟨⟨fun hstatus => ?_, fun hthrough => absurd hthrough h⟩, fun hthrough => absurd hthrough h,
    fun hthrough => absurd hthrough h, fun _ => ⟨rfl, rfl, message ++ "\n", ?_⟩⟩
  · cases hstatus
  · rw [Outcome.report, Outcome.silent, Ending.error, String.append_assoc]

/-- A run whose connector has told that it connected when connecting returned. Then it has asked
once to close the connection, behind its statements, and it has disposed of at most engines after
that; otherwise it has not asked. -/
structure Releases {σ : Type} (c : Except Fault Unit × World σ Empty Unit)
    (w : World σ Empty Unit) : Prop where
  told : connectedEmission ∈ w.hub.emitted ↔ c.1 = .ok ()
  once : c.1 = .ok () → ∃ (n : Nat) (sts : List Statement) (disposals : List Request),
    c.2.connector.live? = some n ∧
    w.link.requests = c.2.link.requests ++ sts.map (.execute n) ++ .closeConnection n :: disposals ∧
    (∀ r ∈ disposals, ∃ engine, r = .disposeEngine engine) ∧ closings w.link.requests = [n]
  never : c.1 ≠ .ok () → closings w.link.requests = []

section

variable {σ : Type} {s : Session σ Empty Unit} {x : σ} {v w : World σ Empty Unit}

/-- The call of `connect` that a run begins with. -/
def connecting (s : Session σ Empty Unit) (x : σ) : Except Fault Unit × World σ Empty Unit :=
  Step.run (connect s []) (.start x ())

/-- The reconciliation on the connection. -/
def reconciling (s : Session σ Empty Unit) (x : σ) (collection : String) (schema : FieldSchema) :
    Except Fault (List Value) × World σ Empty Unit :=
  Step.run (reconcile s (.text collection) (.built schema)) (connecting s x).2

theorem closings_disposals {rs : List Request}
    (h : ∀ r ∈ rs, ∃ engine, r = Request.disposeEngine engine) :
    closings rs = [] :=
  closings_eq_nil fun r hr => by
    obtain ⟨engine, rfl⟩ := h r hr
    rfl

theorem closings_statements (n : Nat) (sts : List Statement) :
    closings (sts.map (Request.execute n)) = [] :=
  closings_eq_nil fun r hr => by
    obtain ⟨st, -, rfl⟩ := List.mem_map.1 hr
    rfl

theorem started_connecting (hport : (Value.int s.settings.port).writable = true) (x : σ) :
    ∃ held, Started held (connecting s x).1 (connecting s x).2 := by
  rcases hconnect : connecting s x with ⟨r, v⟩
  exact connect_from_start hport hconnect

/-- A run that closes behind statements on the connection, if it has got one, releases it. -/
theorem releases_of_close {c : Except Fault Unit × World σ Empty Unit} {held : Option Nat}
    (hstarted : Started held c.1 c.2) {sts : List Statement}
    (hconnection : v.connector.connection = held)
    (hrequests : v.link.requests = c.2.link.requests ++ sts.map (.execute (held.getD 0)))
    (htold : v.hub.emitted = c.2.hub.emitted) {r : Except Fault Unit}
    (hclose : Step.run (close s) v = (r, w)) : Releases c w := by
  obtain ⟨disposals, hdisposals, hclosed, hemitted⟩ := close_requests hclose
  rw [hrequests, hconnection] at hclosed
  -- of all requests only the one of the connection that is held asks to close something
  have hclosings : closings w.link.requests = held.toList := by
    rw [hclosed, closings_append, closings_append, closings_append, hstarted.closings,
      closings_statements, closings_disposals hdisposals]
    cases held <;> rfl
  refine ⟨?_, fun hok => ?_, fun hnot => ?_⟩
  · rw [hemitted, htold, hstarted.told, hstarted.returned]
  · obtain ⟨n, rfl⟩ := Option.isSome_iff_exists.1 (hstarted.returned.1 hok)
    refine ⟨n, sts, disposals, ?_, ?_, hdisposals, hclosings⟩
    · rw [Connector.live?, hstarted.connected, if_pos (Option.isSome_some), hstarted.connection]
    · rw [hclosed]
      simp
  · cases held with
    | none => exact hclosings
    | some n => exact absurd (hstarted.returned.2 rfl) hnot

/-- A run that has failed to connect has nothing to release. -/
theorem releases_of_error {fault : Fault} {held : Option Nat}
    (hstarted : Started held (.error fault) v) :
    Releases (.error fault, v) v := by
  refine ⟨?_, fun hok => (nomatch hok), fun _ => hstarted.closings⟩
  rw [hstarted.told, hstarted.returned]

/-- Statements of the store are run on the live connection. -/
theorem exists_statements {d : Driver σ} {es : List Exchange} (h : v.Stored d w es) {n : Nat}
    (hlive : v.connector.live? = some n) :
    ∃ sts : List Statement, w.link.requests = v.link.requests ++ sts.map (.execute n) := by
  rw [h.trades.requests]
  have hes := h.statements
  clear h
  induction es with
  | nil => exact ⟨[], rfl⟩
  | cons e es ih =>
    obtain ⟨he, hes⟩ := List.forall_mem_cons.1 hes
    obtain ⟨connection, st, hst, hconnection⟩ := he
    obtain ⟨sts, hsts⟩ := ih hes
    cases hlive.symm.trans hconnection
    refine ⟨st :: sts, ?_⟩
    rw [List.map_cons, List.map_cons, hst]
    exact congrArg (v.link.requests ++ Request.execute n st :: ·) (List.append_cancel_left hsts)

/-- A step with a further one behind it fails where either does, and a fault of the further one
comes first. -/
theorem run_andFinally {α : Type} (a : Step σ Empty Unit α) (further : Step σ Empty Unit Unit)
    (w : World σ Empty Unit) :
    Step.run (andFinally a further) w =
      ((Step.run further (Step.run a w).2).1.bind fun _ => (Step.run a w).1,
        (Step.run further (Step.run a w).2).2) := by
  rw [andFinally, run_bind, run_attempt]
  dsimp only
  rw [run_bind]
  generalize Step.run further (Step.run a w).2 = p
  obtain ⟨r, v⟩ := p
  cases r <;> rfl

end

/-! ## Runs -/

section

variable {σ : Type} {urls : UrlLibrary} {settings : Settings} {driver : Driver σ}

/-- What holds of a run of `check` in a session. -/
structure Checks (s : Session σ Empty Unit) (x : σ) (p : Outcome × World σ Empty Unit) : Prop where
  ends : ∃ place, placeOf s.settings = .ok place ∧
    Ends p.1 ((connecting s x).1 = .ok () ∧ (Step.run (close s) (connecting s x).2).1 = .ok ())
      ("Connected to " ++ s.settings.database ++ " at " ++ place ++ "\n")
  releases : Releases (connecting s x) p.2

theorem exists_place (hport : (Value.int settings.port).writable = true) :
    ∃ place, placeOf settings = .ok place := by
  have hshown : (Value.int settings.port).shown = .ok (Value.int settings.port).display :=
    if_pos hport
  rw [placeOf, hshown]
  exact ⟨_, rfl⟩

theorem checks_runCheck (hport : (Value.int settings.port).writable = true) (x : σ) :
    Checks (sessionOf urls settings driver) x (runCheck urls settings driver (.start x ())) := by
  obtain ⟨place, hplace⟩ := exists_place hport
  have hstarted := started_connecting (s := sessionOf urls settings driver) hport x
  -- what a run says of the place is said, for the place has a text
  have hat (words : String → Outcome) : Outcome.at settings words = words place := by
    rw [Outcome.at, hplace]
  simp only [runCheck, hat]
  generalize hs : sessionOf urls settings driver = s at hstarted
  have hsettings : s.settings = settings := by
    rw [← hs]
    rfl
  obtain ⟨held, hstarted⟩ := hstarted
  rcases hclose : Step.run (close s) (connecting s x).2 with ⟨r, w⟩
  have hrun : Step.run (checking s) (.start x ()) = (r.bind fun _ => (connecting s x).1, w) := by
    rw [checking, run_andFinally, ← connecting, hclose]
  rw [hrun]
  refine ⟨⟨place, by rw [hsettings, hplace], ?_⟩, ?_⟩
  · rw [hclose, hsettings]
    cases r with
    | error fault => exact ends_report (fun h => nomatch h.2) _ _
    | ok _ =>
      cases hconnect : (connecting s x).1 with
      | error fault => exact ends_report (fun h => nomatch h.1) _ _
      | ok _ => exact ends_print ⟨rfl, rfl⟩ _
  · have hnone : (connecting s x).2.link.requests =
        (connecting s x).2.link.requests ++ ([] : List Statement).map (.execute (held.getD 0)) :=
      (List.append_nil _).symm
    exact releases_of_close hstarted hstarted.connection hnone rfl hclose

/-- The line that `sync` prints for columns of these names. -/
def syncLine (collection : String) (names : List String) : String :=
  if names = [] then collection ++ " is up to date\n"
  else "Added columns to " ++ collection ++ ": " ++ String.intercalate ", " names ++ "\n"

theorem syncText_map_text (collection : String) (names : List String) :
    syncText collection (names.map .text) = syncLine collection names := by
  have hdisplay : (names.map Value.text).map Value.display = names := by
    rw [List.map_map]
    exact List.map_id names
  rw [syncText, syncLine, hdisplay]
  cases names <;> rfl

/-- What holds of a run of `sync` in a session. -/
structure Syncs (s : Session σ Empty Unit) (x : σ) (collection : String) (schema : FieldSchema)
    (p : Outcome × World σ Empty Unit) : Prop where
  ends : ∃ names : List String,
    (∀ added, (reconciling s x collection schema).1 = .ok added → added = names.map .text) ∧
    Ends p.1 ((connecting s x).1 = .ok () ∧
        (∃ added, (reconciling s x collection schema).1 = .ok added) ∧
        (Step.run (close s) (reconciling s x collection schema).2).1 = .ok ())
      (syncLine collection names)
  releases : Releases (connecting s x) p.2

theorem syncs_runSyncWith (hport : (Value.int settings.port).writable = true) (x : σ)
    (collection : String) (schema : FieldSchema) :
    Syncs (sessionOf urls settings driver) x collection schema
      (runSyncWith urls settings driver collection schema (.start x ())) := by
  have hstarted := started_connecting (s := sessionOf urls settings driver) hport x
  rw [runSyncWith]
  generalize sessionOf urls settings driver = s at hstarted
  obtain ⟨held, hstarted⟩ := hstarted
  have htexts : ∃ names : List String, ∀ added, (reconciling s x collection schema).1 = .ok added →
      added = names.map .text := by
    rcases hreconcile : reconciling s x collection schema with ⟨r, u⟩
    cases r with
    | error fault => exact ⟨[], fun _ h => nomatch h⟩
    | ok added =>
      obtain ⟨names, hnames⟩ := texts_of_reconcile hreconcile
      exact ⟨names, fun _ h => by rw [← Except.ok.inj h, hnames]⟩
  obtain ⟨names, hnames⟩ := htexts
  rcases hconnect : connecting s x with ⟨r, v⟩
  rw [hconnect] at hstarted
  cases r with
  | error fault =>
    -- without a connection nothing is reconciled and nothing is closed
    have hrun : Step.run (syncing s collection schema) (.start x ()) = (.error fault, v) := by
      rw [syncing, run_bind, ← connecting, hconnect]
    rw [hrun]
    refine ⟨⟨names, hnames, ?_⟩, ?_⟩
    · rw [hconnect]
      exact ends_report (fun h => nomatch h.1) _ _
    · rw [hconnect]
      exact releases_of_error hstarted
  | ok _ =>
    rcases hreconcile : Step.run (reconcile s (.text collection) (.built schema)) v with ⟨r, u⟩
    rcases hclose : Step.run (close s) u with ⟨r', w⟩
    have hreconciling : reconciling s x collection schema = (r, u) := by
      rw [reconciling, hconnect, hreconcile]
    have hrun : Step.run (syncing s collection schema) (.start x ()) = (r'.bind fun _ => r, w) := by
      rw [syncing, run_bind, ← connecting, hconnect]
      dsimp only
      rw [run_andFinally, hreconcile, hclose]
    rw [hreconciling] at hnames
    rw [hrun]
    -- closing comes last, whatever the reconciliation gave, and its fault is the one that is
    -- reported
    refine ⟨⟨names, by rwa [hreconciling], ?_⟩, ?_⟩
    · rw [hreconciling, hclose, hconnect]
      cases r' with
      | error fault => exact ends_report (fun h => nomatch h.2.2) _ _
      | ok _ =>
        cases r with
        | error fault => exact ends_report (fun h => by obtain ⟨-, ⟨_, h⟩, -⟩ := h; cases h) _ _
        | ok added =>
          obtain rfl := hnames added rfl
          show Ends (.print (syncText collection (names.map .text))) _ _
          rw [syncText_map_text]
          exact ends_print ⟨rfl, ⟨_, rfl⟩, rfl⟩ _
    · rw [hconnect]
      obtain ⟨n, rfl⟩ := Option.isSome_iff_exists.1 (hstarted.returned.1 rfl)
      have hlive : v.connector.live? = some n := by
        rw [Connector.live?, hstarted.connected, if_pos (Option.isSome_some), hstarted.connection]
      -- a reconciliation runs statements on the connection, wherever it stops
      obtain ⟨es, hstored⟩ := (stores_reconcile s (.text collection) (.built schema)).stored v
      rw [hreconcile] at hstored
      obtain ⟨sts, hsts⟩ := exists_statements hstored hlive
      obtain ⟨journal, hhub⟩ := hstored.hub
      refine releases_of_close hstarted ?_ hsts ?_ hclose
      · rw [hstored.connector, hstarted.connection]
      · show u.hub.emitted = v.hub.emitted
        rw [hhub]

end

end Command

open Command in
/-- Runs of `check`, and of `sync` with a schema file that can be read, with any settings that can
be read and any driver, which may refuse any request. A run ends well, and prints its line, exactly
when connecting, reconciling and closing have returned; otherwise it reports an error and prints
nothing. The columns in the line of `sync` are those that the reconciliation has returned. Once the
connector has connected, closing its connection is asked for exactly once, at the end of the run. -/
theorem commands_release_and_report {σ : Type} (urls : UrlLibrary) {env : Variables}
    {driver : Driver σ} {files : Files} {args rest : List String} {level : Option Level}
    {name : Name} {settings : Settings} {task : Task} (x : σ)
    (hinvocation : Invocation.read? args = some (.command level name rest))
    (hsettings : Settings.read env [] = .ok settings) (htask : Task.read? name rest = some task) :
    (task = .check → Checks (sessionOf urls settings driver) x
      (Command.run urls env driver files args (.start x ()))) ∧
    ∀ collection file f v schema, task = .sync collection file →
      files.find? (fun f => f.1 == file) = some f → Json.read? f.2.toList = some v →
      FieldSchema.of (.value v) = .ok schema →
      Syncs (sessionOf urls settings driver) x collection schema
        (Command.run urls env driver files args (.start x ())) := by
  have hport := Settings.writable_port hsettings
  have hrun : Command.run urls env driver files args (.start x ()) =
      runTask urls settings driver files task (.start x ()) := by
    rw [Command.run, hinvocation]
    dsimp only
    rw [hsettings]
    dsimp only
    rw [htask]
  constructor
  · rintro rfl
    rw [hrun]
    exact checks_runCheck hport x
  · rintro collection file ⟨_, text⟩ v schema rfl hfile hread hschema
    have hsync : runTask urls settings driver files (.sync collection file) (.start x ()) =
        runSyncWith urls settings driver collection schema (.start x ()) := by
      rw [runTask, hfile]
      dsimp only
      rw [runSync, loadJson, hread]
      dsimp only
      rw [hschema]
    rw [hrun, hsync]
    exact syncs_runSyncWith hport x collection schema

/-- A schema file that declares one field, whose name begins with an escape character. -/
def boldFile : String := "\x7b\"\\u001b[1mx\": \x7b\"type\": \"String\"\x7d\x7d"

/-- A server with a table that has a column, and its reply to the statement that adds another
one. -/
def boldScript (reply : Except String Reply) : Script :=
  ⟨none, [.ok ⟨some [[(.text "table_exists", .bool true)]], 1⟩,
    .ok ⟨some [[(.text "column_name", .text "x")]], 1⟩, reply]⟩

/-- A run of `sync` on such a server. -/
def boldRun (reply : Except String Reply) : Command.Outcome × World Script Empty Unit :=
  Command.run .percentEncoding [] Script.driver [("s", boldFile)] ["sync", "books", "s"]
    (.start (boldScript reply) ())

/-- A run of `check` whose connection is refused while it is set up. -/
def refusedCheck : Command.Outcome × World Script Empty Unit :=
  Command.run .percentEncoding [] Script.driver [] ["check"]
    (.start ⟨some (.options, "gone"), []⟩ ())

open Command in
theorem refusedStatement_released :
    ∃ schema, (FieldSchema.names schema).map Value.display = ["\x1b[1mx"] ∧
      Syncs (sessionOf .percentEncoding .standard Script.driver) (boldScript (.error "gone"))
        "books" schema (boldRun (.error "gone")) ∧
      (boldRun (.error "gone")).1.status = 1 ∧
      closings (boldRun (.error "gone")).2.link.requests = [1] ∧
      Checks (sessionOf .percentEncoding .standard Script.driver) ⟨some (.options, "gone"), []⟩
        refusedCheck ∧
      refusedCheck.1.status = 1 ∧ closings refusedCheck.2.link.requests = [] := by
  have hsettings : Settings.read [] [] = .ok .standard := rfl
  have hinvocation : Invocation.read? ["sync", "books", "s"] =
      some (.command none .sync ["books", "s"]) := by
    with_unfolding_all rfl
  have htask : Task.read? .sync ["books", "s"] = some (.sync "books" "s") := by
    with_unfolding_all rfl
  have hcheck : Invocation.read? ["check"] = some (.command none .check []) := by
    with_unfolding_all rfl
  have hcheckTask : Task.read? .check [] = some .check := rfl
  have hfile : [("s", boldFile)].find? (fun f => f.1 == "s") = some ("s", boldFile) := rfl
  have hfields :
      ((Json.read? boldFile.toList).bind fun v => (FieldSchema.of (.value v)).toOption).map
      (fun schema => (FieldSchema.names schema).map Value.display) = some ["\x1b[1mx"] := by
    decide +kernel
  obtain ⟨schema, hfound, hnames⟩ := Option.map_eq_some_iff.1 hfields
  obtain ⟨v, hread, hschema⟩ := Option.bind_eq_some_iff.1 hfound
  have hschema : FieldSchema.of (.value v) = .ok schema := by
    cases h : FieldSchema.of (.value v) with
    | error fault =>
      rw [h] at hschema
      cases hschema
    | ok other =>
      rw [h] at hschema
      rw [Option.some.inj hschema]
  obtain ⟨-, hsync⟩ :=
    @commands_release_and_report Script .percentEncoding [] Script.driver [("s", boldFile)]
    _ _ _ _ _ _ (boldScript (.error "gone")) hinvocation hsettings htask
  obtain ⟨hchecked, -⟩ :=
    @commands_release_and_report Script .percentEncoding [] Script.driver [] _ _ _ _ _ _
    ⟨some (.options, "gone"), []⟩ hcheck hsettings hcheckTask
  exact ⟨schema, hnames, hsync "books" "s" ("s", boldFile) v schema rfl hfile hread hschema,
    by decide +kernel, by decide +kernel, hchecked rfl, by decide +kernel, by decide +kernel⟩

end DocumentStore
