import DocumentStore.Session.Catalog

/-!
# Routine steps

What a statement does to a session is its request of the driver, and a log entry. The steps that run
statements are routine: they take no notice of the log, and they leave the connector, the observers
and the drawn identifiers as they are (`Step.Routine`). Such steps are made of such steps, so
reconciling a table is one (`Session.routine_reconcile`): whatever was logged before, it makes the
same requests and gives the same result.
-/

set_option autoImplicit false

namespace DocumentStore

variable {σ ω τ α β : Type}

/-! ## Steps one after the other -/

/-- Two steps one after the other: the first fails, or the second goes on where the first has
ended. -/
theorem Step.bind_cases {a : Step σ ω τ α} {next : α → Step σ ω τ β} {w w' : World σ ω τ}
    {r : Except Fault β} (h : run (a >>= next) w = (r, w')) :
    (∃ x v, run a w = (.ok x, v) ∧ run (next x) v = (r, w')) ∨
      ∃ fault, run a w = (.error fault, w') ∧ r = .error fault := by
  rw [run_bind] at h
  generalize run a w = p at h ⊢
  obtain ⟨x, v⟩ := p
  cases x with
  | ok x => exact .inl ⟨x, v, rfl, h⟩
  | error fault =>
    cases h
    exact .inr ⟨fault, rfl, rfl⟩

/-- A computation outside the world comes first: it fails, or its result is gone on with. -/
theorem Step.demand_bind_cases {x : Except Fault α} {next : α → Step σ ω τ β} {w w' : World σ ω τ}
    {r : Except Fault β} (h : run (demand x >>= next) w = (r, w')) :
    (∃ a, x = .ok a ∧ run (next a) w = (r, w')) ∨
      ∃ fault, x = .error fault ∧ r = .error fault ∧ w' = w := by
  rw [run_bind, run_demand] at h
  cases x with
  | ok a => exact .inl ⟨a, rfl, h⟩
  | error fault =>
    cases h
    exact .inr ⟨fault, rfl, rfl, rfl⟩

theorem Step.run_log_bind (level : Level) (event : String) (fields : Entries)
    (next : Unit → Step σ ω τ β) (w : World σ ω τ) :
    run (log level event fields >>= next) w = run (next ()) (w.log level event fields) := by
  rw [run_bind]
  rfl

/-! ## Worlds without their log -/

namespace World

/-- The world without its log; the drawn identifiers stay counted. -/
def unlogged (w : World σ ω τ) : World σ ω τ := w.withJournal ⟨[], [], w.hub.journal.drawn⟩

/-- The world behind a request of a driver. -/
def asked (w : World σ ω τ) (driver : Driver σ) (r : Request) : World σ ω τ :=
  { w with
    link.driver := (driver r w.link.driver).2
    link.requests := w.link.requests ++ [r] }

theorem unlogged_asked (w : World σ ω τ) (driver : Driver σ) (r : Request) :
    (w.asked driver r).unlogged = w.unlogged.asked driver r := rfl

theorem connector_eq_of_unlogged {v w : World σ ω τ} (h : v.unlogged = w.unlogged) :
    v.connector = w.connector := by
  change v.unlogged.connector = w.unlogged.connector
  rw [h]

theorem link_eq_of_unlogged {v w : World σ ω τ} (h : v.unlogged = w.unlogged) :
    v.link = w.link := by
  change v.unlogged.link = w.unlogged.link
  rw [h]

theorem drawn_eq_of_unlogged {v w : World σ ω τ} (h : v.unlogged = w.unlogged) :
    v.hub.journal.drawn = w.hub.journal.drawn := by
  change v.unlogged.hub.journal.drawn = w.unlogged.hub.journal.drawn
  rw [h]

end World

/-! ## Routine steps -/

namespace Step

/-- A step that takes no notice of the log, and after which the world is the same but for the log
and the driver's side. -/
structure Routine (a : Step σ ω τ α) : Prop where
  result : ∀ {v w : World σ ω τ}, v.unlogged = w.unlogged → (run a v).1 = (run a w).1
  world : ∀ {v w : World σ ω τ}, v.unlogged = w.unlogged →
    (run a v).2.unlogged = (run a w).2.unlogged
  frame : ∀ w : World σ ω τ, (run a w).2.unlogged = { w.unlogged with link := (run a w).2.link }

namespace Routine

theorem connector {a : Step σ ω τ α} (h : Routine a) (w : World σ ω τ) :
    (run a w).2.connector = w.connector := by
  change (run a w).2.unlogged.connector = w.connector
  rw [h.frame w]
  rfl

theorem drawn {a : Step σ ω τ α} (h : Routine a) (w : World σ ω τ) :
    (run a w).2.hub.journal.drawn = w.hub.journal.drawn := by
  change (run a w).2.unlogged.hub.journal.drawn = w.hub.journal.drawn
  rw [h.frame w]
  rfl

theorem pure (x : α) : Routine (Pure.pure x : Step σ ω τ α) where
  result _ := rfl
  world h := h
  frame _ := rfl

theorem demand (r : Except Fault α) : Routine (Step.demand r : Step σ ω τ α) where
  result _ := rfl
  world h := h
  frame _ := rfl

theorem log (level : Level) (event : String) (fields : Entries) :
    Routine (Step.log level event fields : Step σ ω τ Unit) where
  result _ := rfl
  world h := h
  frame _ := rfl

theorem request (s : Session σ ω τ) (r : Request) : Routine (Step.request s r) where
  result {v w} h := by
    rw [Step.request, run_ofRun, run_ofRun]
    dsimp only
    rw [World.link_eq_of_unlogged h]
  world {v w} h := by
    show (v.asked s.driver r).unlogged = (w.asked s.driver r).unlogged
    rw [World.unlogged_asked, World.unlogged_asked, h]
  frame _ := rfl

/-- Steps one after the other are routine when each is. -/
theorem bind {a : Step σ ω τ α} {next : α → Step σ ω τ β} (ha : Routine a)
    (hnext : ∀ x, Routine (next x)) : Routine (a >>= next) where
  result {v w} h := by
    have hresult := ha.result h
    have hworld := ha.world h
    rw [run_bind, run_bind]
    generalize run a v = p at hresult hworld ⊢
    generalize run a w = q at hresult hworld ⊢
    obtain ⟨x, v'⟩ := p
    obtain ⟨y, w'⟩ := q
    dsimp only at hresult hworld
    subst hresult
    cases x with
    | error fault => rfl
    | ok x => exact (hnext x).result hworld
  world {v w} h := by
    have hresult := ha.result h
    have hworld := ha.world h
    rw [run_bind, run_bind]
    generalize run a v = p at hresult hworld ⊢
    generalize run a w = q at hresult hworld ⊢
    obtain ⟨x, v'⟩ := p
    obtain ⟨y, w'⟩ := q
    dsimp only at hresult hworld
    subst hresult
    cases x with
    | error fault => exact hworld
    | ok x => exact (hnext x).world hworld
  frame w := by
    have hframe := ha.frame w
    rw [run_bind]
    generalize run a w = p at hframe ⊢
    obtain ⟨x, w'⟩ := p
    cases x with
    | error fault => exact hframe
    | ok x =>
      -- the second step starts where the first has changed nothing but the driver's side
      have hrest := (hnext x).frame w'
      dsimp only at hframe ⊢
      rw [hframe] at hrest
      exact hrest

theorem ite {p : Prop} [Decidable p] {a b : Step σ ω τ α} (ha : Routine a) (hb : Routine b) :
    Routine (if p then a else b) := by
  split
  · exact ha
  · exact hb

end Routine

end Step

namespace Session

open Step

/-! ## Statements -/

theorem routine_liveConnection : Routine (liveConnection : Step σ ω τ Nat) where
  result {v w} h := by
    rw [liveConnection, run_ofRun, run_ofRun]
    dsimp only
    rw [World.connector_eq_of_unlogged h]
  world h := h
  frame _ := rfl

theorem routine_requireConnected : Routine (requireConnected : Step σ ω τ Unit) :=
  routine_liveConnection.bind fun _ => .pure ()

theorem routine_execute (s : Session σ ω τ) (st : Statement) : Routine (execute s st) :=
  routine_liveConnection.bind fun _ => (Routine.log _ _ _).bind fun _ =>
    (Routine.request s _).bind fun _ => .pure _

/-! ### What statements do -/

theorem run_liveConnection {w : World σ ω τ} {connection : Nat}
    (h : w.connector.live? = some connection) : run liveConnection w = (.ok connection, w) := by
  rw [liveConnection, run_ofRun, h]

theorem run_requireConnected {w : World σ ω τ} {connection : Nat}
    (h : w.connector.live? = some connection) : run requireConnected w = (.ok (), w) := by
  rw [requireConnected, run_bind, run_liveConnection h]
  rfl

theorem run_liveConnection_of_none {w : World σ ω τ} (h : w.connector.live? = none) :
    run liveConnection w = (.error .notConnected, w) := by
  rw [liveConnection, run_ofRun, h]

theorem run_requireConnected_of_none {w : World σ ω τ} (h : w.connector.live? = none) :
    run requireConnected w = (.error .notConnected, w) := by
  rw [requireConnected, run_bind, run_liveConnection_of_none h]

/-- A statement on a live connection is one request of the driver, and its outcome is the
driver's. -/
theorem run_execute (s : Session σ ω τ) {w : World σ ω τ} {connection : Nat}
    (h : w.connector.live? = some connection) (st : Statement) :
    (run (execute s st) w).1 =
        (match (s.driver (.execute connection st) w.link.driver).1 with
          | .ok reply => .ok (.ofReply reply)
          | .error message => .error (.driver message)) ∧
      (run (execute s st) w).2.unlogged =
        (w.asked s.driver (.execute connection st)).unlogged := by
  rw [execute, run_bind, run_liveConnection h]
  dsimp only
  rw [run_bind, Step.log, run_change]
  dsimp only
  rw [run_bind, Step.request, run_ofRun]
  -- the log entry comes before the request, and the driver's side does not see it
  have hlink : (w.log .debug "Executing statement"
      [(.text "sql", .text st.text), (.text "param_count", .int st.params.length)]).link =
        w.link := rfl
  rw [hlink]
  generalize hanswer : s.driver (.execute connection st) w.link.driver = answer
  obtain ⟨outcome, driver⟩ := answer
  cases outcome with
  | ok reply =>
    refine ⟨rfl, ?_⟩
    rw [World.asked, hanswer]
    rfl
  | error message =>
    refine ⟨rfl, ?_⟩
    rw [World.asked, hanswer]
    rfl

/-- A statement on a live connection leaves the connector alone and is the one request that is
made. -/
theorem execute_cases {s : Session σ ω τ} {w w' : World σ ω τ} {connection : Nat}
    (h : w.connector.live? = some connection) {st : Statement} {r : Except Fault QueryResult}
    (hrun : run (execute s st) w = (r, w')) :
    w'.connector = w.connector ∧ w'.link.requests = w.link.requests ++ [.execute connection st] ∧
      ((∃ reply, s.driver (.execute connection st) w.link.driver = (.ok reply, w'.link.driver) ∧
          r = .ok (.ofReply reply)) ∨
        ∃ message, s.driver (.execute connection st) w.link.driver =
          (.error message, w'.link.driver) ∧ r = .error (.driver message)) := by
  obtain ⟨hresult, hworld⟩ := run_execute s h st
  rw [hrun] at hresult hworld
  dsimp only at hresult hworld
  have hconnector := World.connector_eq_of_unlogged hworld
  have hlink := World.link_eq_of_unlogged hworld
  refine ⟨hconnector, by rw [hlink]; rfl, ?_⟩
  -- the driver's state is the one that it gave with its answer
  have hdriver : w'.link.driver = (s.driver (.execute connection st) w.link.driver).2 := by
    rw [hlink]
    rfl
  rw [hdriver]
  generalize s.driver (.execute connection st) w.link.driver = answer at hresult ⊢
  obtain ⟨outcome, driver⟩ := answer
  cases outcome with
  | ok reply => exact .inl ⟨reply, rfl, hresult⟩
  | error message => exact .inr ⟨message, rfl, hresult⟩

/-! ## Reconciling -/

theorem routine_tableExists (s : Session σ ω τ) (table : Value) :
    Routine (tableExists s table) := by
  refine (routine_execute s _).bind fun result => ?_
  split
  · exact .pure _
  · exact (Routine.demand _).bind fun _ => .pure _

theorem routine_existingColumns (s : Session σ ω τ) (table : Value) :
    Routine (existingColumns s table) :=
  (routine_execute s _).bind fun _ => .demand _

theorem routine_createMissingTable (s : Session σ ω τ) (table : Value) (schema : FieldSchema) :
    Routine (createMissingTable s table schema) :=
  (Routine.demand _).bind fun _ => (routine_execute s _).bind fun _ =>
    (Routine.log _ _ _).bind fun _ => .pure _

theorem routine_addAll (s : Session σ ω τ) (table : Value) (sqls : List Sql) :
    Routine (addAll s table sqls) := by
  induction sqls with
  | nil => exact .pure ()
  | cons sql sqls ih =>
    exact (routine_execute s _).bind fun _ => (Routine.log _ _ _).bind fun _ => ih

theorem routine_addFields (s : Session σ ω τ) (table : Value) (missing : List FieldDefinition) :
    Routine (addFields s table missing) :=
  (Routine.demand _).bind fun _ => (routine_addAll s table _).bind fun _ =>
    (Routine.log _ _ _).bind fun _ => .pure _

theorem routine_widenTable (s : Session σ ω τ) (table : Value) (schema : FieldSchema) :
    Routine (widenTable s table schema) :=
  (routine_existingColumns s table).bind fun _ => .ite (.pure _) (routine_addFields s table _)

/-- Reconciling a table is a routine step. -/
theorem routine_reconcile (s : Session σ ω τ) (table : Value) (source : SchemaSource) :
    Routine (reconcile s table source) :=
  routine_requireConnected.bind fun _ => (Routine.demand _).bind fun _ =>
    (Routine.demand _).bind fun _ => (Routine.demand _).bind fun _ =>
      (routine_tableExists s table).bind fun _ =>
        .ite (routine_widenTable s table _) (routine_createMissingTable s table _)

/-- The part of a reconciliation that makes requests. -/
def bringUp (s : Session σ ω τ) (table : Value) (schema : FieldSchema) :
    Step σ ω τ (List Value) := do
  if ← tableExists s table then widenTable s table schema else createMissingTable s table schema

/-- A valid schema is reconciled on a live connection. -/
theorem run_reconcile (s : Session σ ω τ) {table : Value} {source : SchemaSource}
    {schema : FieldSchema} {w : World σ ω τ} {connection : Nat}
    (hlive : w.connector.live? = some connection) (hschema : FieldSchema.of source = .ok schema)
    (hvalid : schema.ensureValid = .ok ()) (htable : table.ensureHashable = .ok ()) :
    run (reconcile s table source) w = run (bringUp s table schema) w := by
  rw [reconcile, run_bind, run_requireConnected hlive]
  dsimp only
  rw [run_bind, run_demand, hschema]
  dsimp only
  rw [run_bind, run_demand, hvalid]
  dsimp only
  rw [run_bind, run_demand, htable]
  rfl

/-- A reconciliation is refused before any request, or it is that of a valid schema on a live
connection. -/
theorem reconcile_cases {s : Session σ ω τ} {table : Value} {source : SchemaSource}
    {w w' : World σ ω τ} {r : Except Fault (List Value)}
    (h : run (reconcile s table source) w = (r, w')) :
    (∃ fault, r = .error fault ∧ w' = w) ∨
      ∃ connection schema, w.connector.live? = some connection ∧
        FieldSchema.of source = .ok schema ∧ schema.ensureValid = .ok () ∧
        run (bringUp s table schema) w = (r, w') := by
  cases hlive : w.connector.live? with
  | none =>
    rw [reconcile, run_bind, run_requireConnected_of_none hlive] at h
    cases h
    exact .inl ⟨_, rfl, rfl⟩
  | some connection =>
    rw [reconcile, run_bind, run_requireConnected hlive] at h
    dsimp only at h
    -- three checks come before the first request, and each may refuse
    rcases demand_bind_cases h with ⟨schema, hschema, h⟩ | ⟨fault, -, rfl, rfl⟩
    · rcases demand_bind_cases h with ⟨_, hvalid, h⟩ | ⟨fault, -, rfl, rfl⟩
      · rcases demand_bind_cases h with ⟨_, -, h⟩ | ⟨fault, -, rfl, rfl⟩
        · exact .inr ⟨connection, schema, rfl, hschema, hvalid, h⟩
        · exact .inl ⟨fault, rfl, rfl⟩
      · exact .inl ⟨fault, rfl, rfl⟩
    · exact .inl ⟨fault, rfl, rfl⟩

end Session

end DocumentStore
