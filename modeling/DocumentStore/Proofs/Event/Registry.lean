import DocumentStore.Event.Registry
import Mathlib.Data.List.Nodup

/-!
# What the registry keeps

The registry keeps a plain list of live subscriptions twice over: under their identifiers, and
grouped by event (`Groups`). `Keeps` says how the two stand to the list; subscribing an observer
under a new identifier adds to the list (`Keeps.add`), and unsubscribing takes out the one
subscription of an identifier (`Keeps.remove`). Seen from outside, the registry is the list
(`Keeps.refines`).
-/

set_option autoImplicit false

namespace DocumentStore.Registry

variable {ω : Type}

/-! ## Subscriptions by event -/

section Table

variable (f : ConnectionEvent → List (Subscription ω)) {events : List ConnectionEvent}

/-- A subscription is added under its event, in place or as the first of a new one. -/
theorem appendTo_table (s : Subscription ω) (hevents : events.Nodup) :
    appendTo s (events.map fun event => (event, f event)) =
      if s.event ∈ events then
        events.map fun event => (event, if event = s.event then f event ++ [s] else f event)
      else events.map (fun event => (event, f event)) ++ [(s.event, [s])] := by
  induction events with
  | nil => rfl
  | cons event events ih =>
    obtain ⟨hfresh, hrest⟩ := List.nodup_cons.1 hevents
    rw [List.map_cons, appendTo]
    by_cases hevent : event = s.event
    · -- no later event is the same one
      have hothers : (events.map fun e => (e, f e)) =
          events.map fun e => (e, if e = s.event then f e ++ [s] else f e) := by
        refine List.map_congr_left fun e he => ?_
        have hne : e ≠ s.event := fun h => hfresh (hevent.trans h.symm ▸ he)
        rw [if_neg hne]
      rw [if_pos hevent, if_pos (List.mem_cons.2 (.inl hevent.symm)), List.map_cons, if_pos hevent,
        hothers]
    · rw [if_neg hevent, ih hrest]
      by_cases hmem : s.event ∈ events
      · rw [if_pos hmem, if_pos (List.mem_cons_of_mem _ hmem), List.map_cons, if_neg hevent]
      · have hnone : s.event ∉ event :: events := fun h =>
          (List.mem_cons.1 h).elim (fun h => hevent h.symm) hmem
        rw [if_neg hmem, if_neg hnone, List.cons_append]

/-- An identifier is taken out under an event, and the event with it when it was the last one
there. -/
theorem removeFrom_table (event : ConnectionEvent) (id : String) (hevents : events.Nodup) :
    removeFrom event id (events.map fun e => (e, f e)) =
      (events.filter fun e => e ≠ event ∨ ((f e).filter fun s => s.id != id) ≠ []).map fun e =>
        (e, if e = event then (f e).filter fun s => s.id != id else f e) := by
  induction events with
  | nil => rfl
  | cons e events ih =>
    obtain ⟨hfresh, hrest⟩ := List.nodup_cons.1 hevents
    rw [List.map_cons, removeFrom]
    by_cases hevent : e = event
    · subst hevent
      -- the other events stay as they are
      have hne : ∀ e' ∈ events, e' ≠ e := by
        rintro e' he' rfl
        exact hfresh he'
      have hothers : (events.filter fun e' => e' ≠ e ∨ ((f e').filter fun s => s.id != id) ≠ []).map
          (fun e' => (e', if e' = e then (f e').filter fun s => s.id != id else f e')) =
          events.map fun e' => (e', f e') := by
        rw [List.filter_eq_self.2 fun e' he' => by simp [hne e' he']]
        exact List.map_congr_left fun e' he' => by rw [if_neg (hne e' he')]
      rw [if_pos rfl, List.filter_cons]
      by_cases hremaining : ((f e).filter fun s => s.id != id) = []
      · have hgone : ¬ (decide (e ≠ e ∨ ((f e).filter fun s => s.id != id) ≠ []) = true) := by
          rw [decide_eq_true_iff, hremaining]
          simp
        rw [if_neg hgone, hothers, hremaining]
        rfl
      · have hstays : decide (e ≠ e ∨ ((f e).filter fun s => s.id != id) ≠ []) = true :=
          decide_eq_true (.inr hremaining)
        have hsome : ¬ ((f e).filter fun s => s.id != id).isEmpty := fun h =>
          hremaining (List.isEmpty_iff.1 h)
        rw [if_pos hstays, List.map_cons, if_pos rfl, hothers]
        exact if_neg hsome
    · rw [if_neg hevent, ih hrest, List.filter_cons, if_pos (by simp [hevent]), List.map_cons,
        if_neg hevent]

end Table

/-- Subscriptions stand grouped by event: those of an event together in their order, and no event
without any. -/
def Groups (groups : List (ConnectionEvent × List (Subscription ω)))
    (live : List (Subscription ω)) : Prop :=
  ∃ events : List ConnectionEvent, events.Nodup ∧
    groups = events.map (fun event => (event, live.filter fun s => s.event = event)) ∧
    ∀ event, event ∈ events ↔ ∃ s ∈ live, s.event = event

namespace Groups

variable {groups : List (ConnectionEvent × List (Subscription ω))} {live : List (Subscription ω)}

theorem nil : Groups ([] : List (ConnectionEvent × List (Subscription ω))) [] :=
  ⟨[], List.nodup_nil, rfl, fun event => by simp⟩

/-- What stands under an event are its subscriptions, and there are some. -/
theorem entry_iff (h : Groups groups live) (e : ConnectionEvent × List (Subscription ω)) :
    e ∈ groups ↔ e.2 = (live.filter fun s => s.event = e.1) ∧ ∃ s ∈ live, s.event = e.1 := by
  obtain ⟨events, -, rfl, hmem⟩ := h
  rw [List.mem_map, ← hmem]
  constructor
  · rintro ⟨event, hevent, rfl⟩
    exact ⟨rfl, hevent⟩
  · rintro ⟨hlist, hevent⟩
    exact ⟨e.1, hevent, by rw [← hlist]⟩

theorem nodup_events (h : Groups groups live) : (groups.map Prod.fst).Nodup := by
  obtain ⟨events, hevents, rfl, -⟩ := h
  rw [List.map_map]
  exact (List.map_id events).symm ▸ hevents

/-- A subscription that is added comes last in its group. -/
theorem appendTo (h : Groups groups live) (s : Subscription ω) :
    Groups (Registry.appendTo s groups) (live ++ [s]) := by
  obtain ⟨events, hevents, rfl, hmem⟩ := h
  have hfilter (e : ConnectionEvent) : ((live ++ [s]).filter fun t => t.event = e) =
      (live.filter fun t => t.event = e) ++ if e = s.event then [s] else [] := by
    rw [List.filter_append, List.filter_singleton]
    by_cases he : e = s.event
    · simp [he]
    · simp [he, Ne.symm he]
  have hsome (e : ConnectionEvent) :
      (∃ t ∈ live ++ [s], t.event = e) ↔ e ∈ events ∨ e = s.event := by
    rw [hmem]
    simp only [List.mem_append, List.mem_singleton, or_and_right, exists_or, exists_eq_left]
    exact or_congr_right eq_comm
  rw [appendTo_table _ s hevents]
  by_cases hknown : s.event ∈ events
  · refine ⟨events, hevents, ?_, fun e => ?_⟩
    · rw [if_pos hknown]
      refine List.map_congr_left fun e _ => ?_
      rw [hfilter]
      by_cases he : e = s.event
      · rw [if_pos he, if_pos he]
      · rw [if_neg he, if_neg he, List.append_nil]
    · rw [hsome]
      exact (or_iff_left_of_imp fun he => he ▸ hknown).symm
  · refine ⟨events ++ [s.event], ?_, ?_, fun e => ?_⟩
    · rw [← List.concat_eq_append]
      exact hevents.concat hknown
    · -- under the new event there was no subscription
      have hnone : (live.filter fun t => t.event = s.event) = [] :=
        List.filter_eq_nil_iff.2 fun t ht hevent =>
          hknown ((hmem s.event).2 ⟨t, ht, of_decide_eq_true hevent⟩)
      have hothers : (events.map fun e => (e, live.filter fun t => t.event = e)) =
          events.map fun e => (e, (live ++ [s]).filter fun t => t.event = e) := by
        refine List.map_congr_left fun e he => ?_
        have hne : e ≠ s.event := fun heq => hknown (heq ▸ he)
        rw [hfilter, if_neg hne, List.append_nil]
      rw [if_neg hknown, List.map_append, List.map_singleton, hothers, hfilter s.event, hnone,
        if_pos rfl, List.nil_append]
    · rw [hsome, List.mem_append, List.mem_singleton]

/-- An identifier that stands under one event alone is taken out of all groups under that event. -/
theorem removeFrom (h : Groups groups live) {event : ConnectionEvent} {id : String}
    (hother : ∀ s ∈ live, s.event ≠ event → s.id ≠ id) :
    Groups (Registry.removeFrom event id groups) (live.filter fun s => s.id != id) := by
  obtain ⟨events, hevents, rfl, hmem⟩ := h
  rw [removeFrom_table _ event id hevents]
  refine ⟨_, hevents.filter _, List.map_congr_left fun e _ => ?_, fun e => ?_⟩
  · by_cases he : e = event
    · rw [if_pos he, List.filter_filter, List.filter_filter]
      simp only [Bool.and_comm]
    · rw [if_neg he, List.filter_filter]
      congr 1
      refine List.filter_congr fun s hs => ?_
      by_cases hevent : s.event = e
      · have hne := hother s hs (fun h => he (hevent.symm.trans h))
        simp [hevent, hne]
      · simp [hevent]
  · rw [List.mem_filter, hmem e, decide_eq_true_iff]
    constructor
    · rintro ⟨⟨s, hs, rfl⟩, hne | hremaining⟩
      · exact ⟨s, List.mem_filter.2 ⟨hs, bne_iff_ne.2 (hother s hs hne)⟩, rfl⟩
      · obtain ⟨t, ht⟩ := List.exists_mem_of_ne_nil _ hremaining
        obtain ⟨ht, hid⟩ := List.mem_filter.1 ht
        obtain ⟨ht, hevent⟩ := List.mem_filter.1 ht
        exact ⟨t, List.mem_filter.2 ⟨ht, hid⟩, of_decide_eq_true hevent⟩
    · rintro ⟨s, hs, rfl⟩
      obtain ⟨hs, hid⟩ := List.mem_filter.1 hs
      refine ⟨⟨s, hs, rfl⟩, .inr (List.ne_nil_of_mem (a := s) ?_)⟩
      exact List.mem_filter.2 ⟨List.mem_filter.2 ⟨hs, decide_eq_true rfl⟩, hid⟩

end Groups

/-! ## The two indexes -/

/-- The live subscriptions of a list stand in both indexes of a registry; their numbers grow and
have been counted. -/
structure Keeps (r : Registry ω) (live : List (Subscription ω)) : Prop where
  byId : r.byId = live.map fun s => (s.id, s)
  byEvent : Groups r.byEvent live
  distinct : (live.map (·.id)).Nodup
  increasing : live.Pairwise fun s t => s.order < t.order
  counted : ∀ s ∈ live, s.order ≤ r.count

theorem keeps_empty : (empty : Registry ω).Keeps [] where
  byId := rfl
  byEvent := .nil
  distinct := List.nodup_nil
  increasing := .nil
  counted _ hs := absurd hs List.not_mem_nil

/-! ## Subscribing and unsubscribing -/

/-- A new identifier goes to the end of the index. -/
theorem index_of_fresh {s : Subscription ω} {es : List (String × Subscription ω)}
    (h : s.id ∉ es.map Prod.fst) : index s es = es ++ [(s.id, s)] := by
  induction es with
  | nil => rfl
  | cons e es ih =>
    rw [List.map_cons, List.mem_cons, not_or] at h
    rw [index, if_neg (Ne.symm h.1), ih h.2, List.cons_append]

/-- Unsubscribing does not count. -/
theorem count_of_remove? {r r' : Registry ω} {id : String} (h : r.remove? id = some r') :
    r'.count = r.count := by
  obtain ⟨s, -, rfl⟩ := Option.map_eq_some_iff.1 h
  rfl

namespace Keeps

variable {r : Registry ω} {live : List (Subscription ω)}

/-- The subscription of an identifier is that of the list. -/
theorem get?_eq (h : r.Keeps live) (id : String) : r.get? id = live.find? fun s => s.id = id := by
  rw [get?, h.byId, List.find?_map, Option.map_map]
  have hid :
      ((fun e : String × Subscription ω => e.1 == id) ∘ fun s : Subscription ω => (s.id, s)) =
      fun s => decide (s.id = id) := by
    funext s
    rfl
  rw [hid]
  exact congrFun Option.map_id _

/-- An identifier has one subscription in the list. -/
theorem eq_of_id (h : r.Keeps live) {s t : Subscription ω} (hs : s ∈ live) (ht : t ∈ live)
    (hid : s.id = t.id) : s = t :=
  List.inj_on_of_nodup_map h.distinct hs ht hid

theorem get?_of_mem (h : r.Keeps live) {s : Subscription ω} (hs : s ∈ live) :
    r.get? s.id = some s := by
  rw [h.get?_eq]
  cases hfound : live.find? fun t => t.id = s.id with
  | none => exact absurd (decide_eq_true rfl) (List.find?_eq_none.1 hfound s hs)
  | some t =>
    have hid : t.id = s.id := by simpa using List.find?_some hfound
    rw [h.eq_of_id (List.mem_of_find?_eq_some hfound) hs hid]

/-- An observer that is subscribed under a new identifier comes behind the others with the next
number. -/
theorem add (h : r.Keeps live) {id : String} (hfresh : id ∉ live.map (·.id))
    (event : ConnectionEvent) (observer : ω) :
    (r.add id event observer).Keeps (live ++ [⟨id, event, observer, r.count + 1⟩]) := by
  refine ⟨?_, h.byEvent.appendTo _, ?_, ?_, ?_⟩
  · have hnew : id ∉ r.byId.map Prod.fst := by
      rw [h.byId, List.map_map]
      exact hfresh
    show index ⟨id, event, observer, r.count + 1⟩ r.byId = _
    rw [index_of_fresh hnew, h.byId, List.map_append]
    rfl
  · rw [List.map_append, List.map_singleton, ← List.concat_eq_append]
    exact h.distinct.concat hfresh
  · refine List.pairwise_append.2 ⟨h.increasing, List.pairwise_singleton _ _, fun t ht u hu => ?_⟩
    obtain rfl := List.mem_singleton.1 hu
    exact Nat.lt_succ_of_le (h.counted t ht)
  · intro t ht
    rcases List.mem_append.1 ht with ht | ht
    · exact Nat.le_succ_of_le (h.counted t ht)
    · obtain rfl := List.mem_singleton.1 ht
      exact Nat.le_refl _

/-- What no subscription has cannot be unsubscribed. -/
theorem remove?_eq_none (h : r.Keeps live) {id : String} (hnone : id ∉ live.map (·.id)) :
    r.remove? id = none := by
  have hfind : (live.find? fun s => s.id = id) = none := by
    rw [List.find?_eq_none]
    intro s hs hid
    exact hnone (List.mem_map.2 ⟨s, hs, of_decide_eq_true hid⟩)
  rw [remove?, h.get?_eq, hfind]
  rfl

/-- Unsubscribing takes the subscription of an identifier out of the list, and no other. -/
theorem remove (h : r.Keeps live) {id : String} (hlive : id ∈ live.map (·.id)) :
    ∃ r', r.remove? id = some r' ∧ r'.Keeps (live.filter fun s => s.id != id) := by
  obtain ⟨s, hs, rfl⟩ := List.mem_map.1 hlive
  -- every other subscription has another identifier
  have hother : ∀ t ∈ live, t.event ≠ s.event → t.id ≠ s.id := fun t ht hne hid =>
    hne (by rw [h.eq_of_id ht hs hid])
  refine ⟨_, by rw [remove?, h.get?_of_mem hs]; rfl, ?_, h.byEvent.removeFrom hother, ?_, ?_, ?_⟩
  · show r.byId.filter _ = _
    rw [h.byId, List.filter_map]
    rfl
  · exact h.distinct.sublist (List.filter_sublist.map _)
  · exact h.increasing.filter _
  · intro t ht
    exact h.counted t (List.mem_of_mem_filter ht)

end Keeps

/-! ## Seen from outside -/

/-- A registry gives the list of live subscriptions back: those of an event in order, and the one of
an identifier. The identifiers in its index are those of the list; each stands under one event,
under no event stands anything else, and no event stands without a subscription. -/
structure Refines (r : Registry ω) (live : List (Subscription ω)) : Prop where
  subscribers : ∀ event, r.subscribers event = live.filter fun s => s.event = event
  increasing : live.Pairwise fun s t => s.order < t.order
  distinct : (live.map (·.id)).Nodup
  indexed : ∀ id, r.get? id = live.find? fun s => s.id = id
  keys : r.byId.map Prod.fst = live.map (·.id)
  listed : ∀ s ∈ live, ∃! e, e ∈ r.byEvent ∧ s.id ∈ e.2.map (·.id)
  alive : ∀ e ∈ r.byEvent, ∀ s ∈ e.2, s ∈ live ∧ s.event = e.1
  events : (r.byEvent.map Prod.fst).Nodup
  filled : ∀ e ∈ r.byEvent, e.2 ≠ []

namespace Keeps

variable {r : Registry ω} {live : List (Subscription ω)}

theorem subscribers_eq (h : r.Keeps live) (event : ConnectionEvent) :
    r.subscribers event = live.filter fun s => s.event = event := by
  obtain ⟨events, -, htable, hmem⟩ := h.byEvent
  rw [Registry.subscribers, htable, List.find?_map]
  cases hfound : events.find? _ with
  | some e =>
    have he : e = event := by simpa using List.find?_some hfound
    subst he
    rfl
  | none =>
    have hnone : event ∉ events := fun hevent => by
      simpa using List.find?_eq_none.1 hfound event hevent
    refine (List.filter_eq_nil_iff.2 fun s hs hevent => ?_).symm
    exact hnone ((hmem event).2 ⟨s, hs, of_decide_eq_true hevent⟩)

theorem refines (h : r.Keeps live) : r.Refines live where
  subscribers := h.subscribers_eq
  increasing := h.increasing
  distinct := h.distinct
  indexed := h.get?_eq
  keys := by
    rw [h.byId, List.map_map]
    rfl
  listed := by
    intro s hs
    refine ⟨(s.event, live.filter fun t => t.event = s.event), ⟨?_, ?_⟩, ?_⟩
    · exact (h.byEvent.entry_iff _).2 ⟨rfl, s, hs, rfl⟩
    · exact List.mem_map_of_mem (List.mem_filter.2 ⟨hs, decide_eq_true rfl⟩)
    · rintro e ⟨he, hid⟩
      obtain ⟨hlist, -⟩ := (h.byEvent.entry_iff e).1 he
      rw [hlist] at hid
      obtain ⟨t, ht, hid⟩ := List.mem_map.1 hid
      obtain ⟨ht, hevent⟩ := List.mem_filter.1 ht
      -- one identifier, one subscription
      have hsame : t = s := h.eq_of_id ht hs hid
      have hevent : s.event = e.1 := hsame ▸ of_decide_eq_true hevent
      rw [hevent, ← hlist]
  alive := by
    intro e he s hs
    rw [((h.byEvent.entry_iff e).1 he).1, List.mem_filter] at hs
    exact ⟨hs.1, of_decide_eq_true hs.2⟩
  events := h.byEvent.nodup_events
  filled := by
    intro e he
    obtain ⟨hlist, s, hs, hevent⟩ := (h.byEvent.entry_iff e).1 he
    rw [hlist]
    exact List.ne_nil_of_mem (List.mem_filter.2 ⟨hs, decide_eq_true hevent⟩)

end Keeps

end DocumentStore.Registry
