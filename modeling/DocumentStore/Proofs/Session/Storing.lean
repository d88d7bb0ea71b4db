import DocumentStore.Proofs.Session.Alike
import DocumentStore.Proofs.Session.Inserting

/-!
# What the operations of the store are made of

The operations of the store make sure of the connection, compute, write to the log, draw identifiers
and run statements, and they do nothing else (`Step.Stores`). What such steps do follows from how
they are made: they leave the connector and the observers alone, and all that they ask of the driver
is to run statements on the live connection (`Step.Stores.stored`); and they take no notice of the
log (`Step.Stores.alike`).
-/

set_option autoImplicit false

namespace DocumentStore

variable {σ ω τ α β : Type}

/-! ## Steps that store -/

/-- Steps that are made of statements and of what makes no request. -/
inductive Step.Stores (s : Session σ ω τ) : {α : Type} → Step σ ω τ α → Prop
  | demand {α : Type} (r : Except Fault α) : Stores s (Step.demand r)
  | log (level : Level) (event : String) (fields : Entries) : Stores s (Step.log level event fields)
  | ofJournal {α : Type} {f : Journal → Except Fault α × Journal}
    (hf : ∀ i j : Journal, i.drawn = j.drawn →
      (f i).1 = (f j).1 ∧ (f i).2.drawn = (f j).2.drawn) : Stores s (Step.ofJournal f)
  | requireConnected : Stores s Session.requireConnected
  | execute (statement : Statement) : Stores s (Session.execute s statement)
  | bind {α β : Type} {a : Step σ ω τ α} {next : α → Step σ ω τ β} (ha : Stores s a)
    (hnext : ∀ x, Stores s (next x)) : Stores s (a >>= next)
  | attempt {α : Type} {a : Step σ ω τ α} (ha : Stores s a) : Stores s (Step.attempt a)
  | inContext {α : Type} (fields : LogContext) {a : Step σ ω τ α} (ha : Stores s a) :
    Stores s (Step.inContext fields a)

/-- A world behind statements on the live connection. -/
structure World.Stored (d : Driver σ) (w w' : World σ ω τ) (es : List Exchange) : Prop where
  connector : w'.connector = w.connector
  hub : w.hub.Logs w'.hub
  trades : w.link.Trades d w'.link es
  statements : ∀ e ∈ es, ∃ connection statement,
    e.request = .execute connection statement ∧ w.connector.live? = some connection

namespace World.Stored

variable {d : Driver σ} {v w w' : World σ ω τ} {es es' : List Exchange}

theorem refl (d : Driver σ) (w : World σ ω τ) : w.Stored d w [] :=
  ⟨rfl, ⟨w.hub.journal, rfl⟩, .refl d w.link, fun _ he => absurd he List.not_mem_nil⟩

/-- Nothing changes but the journal. -/
theorem of_journal (d : Driver σ) (w : World σ ω τ) (journal : Journal) :
    w.Stored d (w.withJournal journal) [] :=
  ⟨rfl, ⟨journal, rfl⟩, .refl d w.link, fun _ he => absurd he List.not_mem_nil⟩

theorem trans (h : w.Stored d v es) (h' : v.Stored d w' es') : w.Stored d w' (es ++ es') where
  connector := h'.connector.trans h.connector
  hub := h.hub.trans h'.hub
  trades := h.trades.trans h'.trades
  statements e he := by
    rcases List.mem_append.1 he with he | he
    · exact h.statements e he
    · rw [← h.connector]
      exact h'.statements e he

end World.Stored

namespace Step.Stores

variable {s : Session σ ω τ}

theorem pure (x : α) : Stores s (Pure.pure x : Step σ ω τ α) := demand (.ok x)

/-- Requiring a live connection changes nothing. -/
theorem world_requireConnected (w : World σ ω τ) : (run Session.requireConnected w).2 = w := by
  cases hlive : w.connector.live? with
  | none => rw [Session.run_requireConnected_of_none hlive]
  | some connection => rw [Session.run_requireConnected hlive]

/-- A statement on a live connection is one exchange, and its outcome is the reply. -/
theorem execute_exchange (s : Session σ ω τ) {statement : Statement} {w w' : World σ ω τ}
    {connection : Nat} (hlive : w.connector.live? = some connection)
    {r : Except Fault Session.QueryResult}
    (hrun : run (Session.execute s statement) w = (r, w')) :
    ∃ reply, w.Stored s.driver w' [⟨.execute connection statement, reply⟩] ∧
      ((∃ answer, reply = .ok answer ∧ r = .ok (.ofReply answer)) ∨
        ∃ message, reply = .error message ∧ r = .error (.driver message)) := by
  rw [Session.execute, run_bind, Session.run_liveConnection hlive] at hrun
  dsimp only at hrun
  rw [run_log_bind] at hrun
  -- the exchange is one of the live connection, whatever the reply
  have hasked (reply : Except String Reply) :
      ∀ e ∈ [Exchange.mk (.execute connection statement) reply],
        ∃ connection statement, e.request = .execute connection statement ∧
        w.connector.live? = some connection :=
    List.forall_mem_singleton.2 ⟨connection, statement, rfl, hlive⟩
  rcases Session.request_bind_cases hrun with ⟨reply, hreply, hpure⟩ | ⟨message, hreply, hr, rfl⟩
  · cases hpure
    exact ⟨_, ⟨rfl, ⟨_, rfl⟩, Session.trades_asked s.driver w hreply rfl, hasked _⟩,
      .inl ⟨reply, rfl, rfl⟩⟩
  · exact ⟨_, ⟨rfl, ⟨_, rfl⟩, Session.trades_asked s.driver w hreply rfl, hasked _⟩,
      .inr ⟨message, rfl, hr⟩⟩

/-- A statement is one exchange on the live connection, and without one nothing happens. -/
theorem stored_execute (s : Session σ ω τ) (statement : Statement) (w : World σ ω τ) :
    ∃ es, w.Stored s.driver (run (Session.execute s statement) w).2 es := by
  cases hlive : w.connector.live? with
  | none =>
    rw [Session.execute, run_bind, Session.run_liveConnection_of_none hlive]
    exact ⟨[], .refl s.driver w⟩
  | some connection =>
    generalize hrun : run (Session.execute s statement) w = answer
    obtain ⟨r, w'⟩ := answer
    obtain ⟨reply, hstored, -⟩ := execute_exchange s hlive hrun
    exact ⟨_, hstored⟩

/-- All that a step that stores asks of the driver is to run statements on the live connection. -/
theorem stored {a : Step σ ω τ α} (h : Stores s a) (w : World σ ω τ) :
    ∃ es, w.Stored s.driver (run a w).2 es := by
  induction h generalizing w with
  | demand r => exact ⟨[], .refl s.driver w⟩
  | log level event fields => exact ⟨[], .of_journal s.driver w _⟩
  | ofJournal hf => exact ⟨[], .of_journal s.driver w _⟩
  | requireConnected =>
    rw [world_requireConnected]
    exact ⟨[], .refl s.driver w⟩
  | execute statement => exact stored_execute s statement w
  | @bind _ _ a next _ _ iha ihnext =>
    obtain ⟨es, hfirst⟩ := iha w
    rw [run_bind]
    generalize run a w = p at hfirst ⊢
    obtain ⟨x, v⟩ := p
    cases x with
    | error fault => exact ⟨es, hfirst⟩
    | ok x =>
      obtain ⟨es', hrest⟩ := ihnext x v
      exact ⟨es ++ es', hfirst.trans hrest⟩
  | attempt _ ih => exact ih w
  | inContext fields _ ih =>
    obtain ⟨es, hinner⟩ := ih (w.withJournal (w.hub.journal.enter fields))
    have hentered := (World.Stored.of_journal s.driver w _).trans hinner
    exact ⟨_, hentered.trans (.of_journal s.driver _ _)⟩

end Step.Stores

namespace Session

open Step

/-! ## The operations -/

variable (s : Session σ ω τ)

theorem stores_tableExists (table : Value) : Stores s (tableExists s table) := by
  refine (Stores.execute _).bind fun result => ?_
  split
  · exact .pure _
  · exact (Stores.demand _).bind fun _ => .pure _

theorem stores_existingColumns (table : Value) : Stores s (existingColumns s table) :=
  (Stores.execute _).bind fun _ => .demand _

theorem stores_addAll (table : Value) (sqls : List Sql) : Stores s (addAll s table sqls) := by
  induction sqls with
  | nil => exact .pure ()
  | cons sql sqls ih =>
    exact (Stores.execute _).bind fun _ => (Stores.log _ _ _).bind fun _ => ih

theorem stores_reconcile (table : Value) (source : SchemaSource) :
    Stores s (reconcile s table source) := by
  have hcreate (schema : FieldSchema) : Stores s (createMissingTable s table schema) :=
    (Stores.demand _).bind fun _ => (Stores.execute _).bind fun _ =>
      (Stores.log _ _ _).bind fun _ => .pure _
  have hfields (missing : List FieldDefinition) : Stores s (addFields s table missing) :=
    (Stores.demand _).bind fun _ => (stores_addAll s table _).bind fun _ =>
      (Stores.log _ _ _).bind fun _ => .pure _
  have hwiden (schema : FieldSchema) : Stores s (widenTable s table schema) := by
    refine (stores_existingColumns s table).bind fun existing => ?_
    dsimp only
    split
    · exact .pure _
    · exact hfields _
  refine Stores.requireConnected.bind fun _ => (Stores.demand _).bind fun schema =>
    (Stores.demand _).bind fun _ => (Stores.demand _).bind fun _ =>
      (stores_tableExists s table).bind fun found => ?_
  split
  · exact hwiden schema
  · exact hcreate schema

theorem stores_insert (data collection : Value) (source : SchemaSource) :
    Stores s (insert s data collection source) := by
  have hdocument (m : Mapper) (document : Entries) :
      Stores s (insertDocument s m collection document) := by
    refine (Stores.ofJournal fun _ _ h => Mapper.rowOf_journal s.identifier m _ h).bind fun _ =>
      (Stores.demand _).bind fun _ => (Stores.execute _).bind fun result => ?_
    split
    · exact .demand _
    · exact .pure _
  have hone (m : Mapper) (index : Nat) (document : Entries) :
      Stores s (insertOne s m collection index document) := by
    refine (hdocument m document).attempt.bind fun outcome => ?_
    cases outcome with
    | ok row => exact .pure _
    | error fault => exact (Stores.log _ _ _).bind fun _ => .pure _
  have hall (m : Mapper) (index : Nat) (documents : List Entries) :
      Stores s (insertAll s m collection index documents) := by
    induction documents generalizing index with
    | nil => exact .pure _
    | cons document documents ih =>
      exact (hone m index document).bind fun _ => (ih (index + 1)).bind fun _ => .pure _
  refine Stores.requireConnected.bind fun _ => (Stores.demand _).bind fun documents =>
    (Stores.demand _).bind fun schema => .inContext _ ?_
  refine (Stores.log _ _ _).bind fun _ => (stores_reconcile s collection _).bind fun _ =>
    (Stores.demand _).bind fun m => (Stores.demand _).bind fun _ =>
      (hall m 0 _).bind fun outcomes => ?_
  split
  · exact (Stores.log _ _ _).bind fun _ => .pure _
  · exact .pure _

theorem stores_find (filter collection : Value) (options : OptionsSource) (source : SchemaSource) :
    Stores s (find s filter collection options source) :=
  Stores.requireConnected.bind fun _ => (Stores.demand _).bind fun _ =>
    (Stores.demand _).bind fun _ => (Stores.log _ _ _).bind fun _ =>
    (Stores.demand _).bind fun _ => (Stores.execute _).bind fun _ =>
    (Stores.demand _).bind fun _ => (Stores.execute _).bind fun _ =>
    (Stores.demand _).bind fun _ => (Stores.demand _).bind fun _ =>
      ((Stores.demand _).bind fun _ => .demand _).bind fun _ => .pure _

theorem stores_update (filter collection change : Value) (source : SchemaSource) :
    Stores s (update s filter collection change source) :=
  Stores.requireConnected.bind fun _ => (Stores.log _ _ _).bind fun _ =>
    (Stores.demand _).bind fun _ => (Stores.demand _).bind fun _ =>
    (Stores.execute _).bind fun _ => (Stores.demand _).bind fun _ => .pure _

theorem stores_delete (filter collection : Value) (source : SchemaSource) :
    Stores s (delete s filter collection source) :=
  Stores.requireConnected.bind fun _ => (Stores.log _ _ _).bind fun _ =>
    (Stores.demand _).bind fun _ => (Stores.demand _).bind fun _ =>
    (Stores.execute _).bind fun _ => .pure _

theorem stores_stats (collection : Value) : Stores s (stats s collection) :=
  Stores.requireConnected.bind fun _ => (Stores.demand _).bind fun _ =>
    (Stores.execute _).bind fun _ => (Stores.demand _).bind fun _ => .pure _

/-! ### Settings and observers -/

variable (settings : Settings) (react : Observers ω τ)

/-- Reconciling a table reads no settings and calls no observer. -/
theorem reconcile_setup (table : Value) (source : SchemaSource) :
    reconcile { s with settings := settings, react := react } table source =
      reconcile s table source := by
  have hadd (sqls : List Sql) :
      addAll { s with settings := settings, react := react } table sqls = addAll s table sqls := by
    induction sqls with
    | nil => rfl
    | cons sql sqls ih =>
      rw [addAll, ih]
      rfl
  have hfields (missing : List FieldDefinition) :
      addFields { s with settings := settings, react := react } table missing =
        addFields s table missing := by
    simp only [addFields, hadd]
  have hwiden (schema : FieldSchema) :
      widenTable { s with settings := settings, react := react } table schema =
        widenTable s table schema := by
    simp only [widenTable, hfields]
    rfl
  simp only [reconcile, hwiden]
  rfl

/-- Inserting documents reads no settings and calls no observer. -/
theorem insert_setup (data collection : Value) (source : SchemaSource) :
    insert { s with settings := settings, react := react } data collection source =
      insert s data collection source := by
  have hone (m : Mapper) (index : Nat) (document : Entries) :
      insertOne { s with settings := settings, react := react } m collection index document =
        insertOne s m collection index document := rfl
  have hall (m : Mapper) (index : Nat) (documents : List Entries) :
      insertAll { s with settings := settings, react := react } m collection index documents =
        insertAll s m collection index documents := by
    induction documents generalizing index with
    | nil => rfl
    | cons document documents ih => rw [insertAll, hone, ih, insertAll]
  simp only [insert, insertReconciled, reconcile_setup, hall]

end Session

end DocumentStore
