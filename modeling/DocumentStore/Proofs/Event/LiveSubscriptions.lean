import DocumentStore.Proofs.Event.Registry
import DocumentStore.Proofs.Event.Transitions
import DocumentStore.Session.Rehearsal
import Mathlib.Data.List.Induction

/-!
# Live subscriptions

Which subscriptions are live is told by what was done: those that were made and were not
unsubscribed since, in the order in which they were made (`Transition.live`). The registry, with its
two indexes and its count, is no more than this list: behind every transition of every run it gives
the list back, and it answers by it (`registry_refines_live_subscriptions`).
-/

set_option autoImplicit false

namespace DocumentStore

variable {ω τ : Type}

/-! ## The list that a history tells -/

namespace Deed

/-- A deed asks to end the subscription of an identifier. -/
def ends (id : String) : Deed ω → Bool
  | .subscribed .. => false
  | .unsubscribed id' _ => id' == id

/-- The subscriptions that are made by deeds and not ended by later ones; the first of them has the
number behind the given one. -/
def live : Nat → List (Deed ω) → List (Subscription ω)
  | _, [] => []
  | n, .subscribed id event observer :: rest =>
    if rest.any (ends id) then live (n + 1) rest
    else ⟨id, event, observer, n + 1⟩ :: live (n + 1) rest
  | n, .unsubscribed _ _ :: rest => live n rest

theorem live_subscribed (n : Nat) (ds : List (Deed ω)) (id : String) (event : ConnectionEvent)
    (observer : ω) :
    live n (ds ++ [.subscribed id event observer]) =
      live n ds ++ [⟨id, event, observer, n + (ds.filterMap made?).length + 1⟩] := by
  induction ds generalizing n with
  | nil => rfl
  | cons d ds ih =>
    cases d with
    | subscribed id' event' observer' =>
      have hends : (ds ++ [Deed.subscribed id event observer]).any (ends id') =
          ds.any (ends id') := by
        rw [List.any_append]
        exact Bool.or_false _
      have hcount : n + 1 + (ds.filterMap made?).length =
          n + ((Deed.subscribed id' event' observer' :: ds).filterMap made?).length := by
        show _ = n + ((ds.filterMap made?).length + 1)
        omega
      rw [List.cons_append, live, live, hends, ih, hcount]
      split
      · rfl
      · rw [List.cons_append]
    | unsubscribed id' found => exact ih n

theorem live_unsubscribed (n : Nat) (ds : List (Deed ω)) (id : String) (found : Bool) :
    live n (ds ++ [.unsubscribed id found]) = (live n ds).filter fun s => s.id != id := by
  induction ds generalizing n with
  | nil => rfl
  | cons d ds ih =>
    cases d with
    | subscribed id' event observer =>
      have hends : (ds ++ [Deed.unsubscribed id found]).any (ends id') =
          (ds.any (ends id') || id == id') := by
        rw [List.any_append]
        exact congrArg _ (Bool.or_false _)
      rw [List.cons_append, live, live, hends, ih]
      by_cases hended : ds.any (ends id') = true
      · rw [if_pos hended, hended, Bool.true_or, if_pos rfl]
      · rw [if_neg hended, Bool.eq_false_iff.2 hended, Bool.false_or, List.filter_cons]
        by_cases hid : id = id'
        · subst hid
          simp
        · simp [hid, Ne.symm hid]
    | unsubscribed id' found' => exact ih n

/-- What is live was made. -/
theorem made_of_live {n : Nat} {ds : List (Deed ω)} {s : Subscription ω} (hs : s ∈ live n ds) :
    s.id ∈ ds.filterMap made? := by
  induction ds generalizing n with
  | nil => cases hs
  | cons d ds ih =>
    cases d with
    | subscribed id event observer =>
      show s.id ∈ id :: ds.filterMap made?
      rw [live] at hs
      split at hs
      · exact List.mem_cons_of_mem _ (ih hs)
      · rcases List.mem_cons.1 hs with rfl | hs
        · exact List.mem_cons_self
        · exact List.mem_cons_of_mem _ (ih hs)
    | unsubscribed id found => exact ih hs

end Deed

namespace Transition

/-- The identifiers that are made in transitions. -/
def made (ts : List (Transition ω)) : List String := (ts.map deed).filterMap Deed.made?

/-- The subscriptions that are live behind the transitions of a registry. -/
def live (ts : List (Transition ω)) : List (Subscription ω) := Deed.live 0 (ts.map deed)

/-- What a registry shows in a transition behind earlier ones: before and behind it the list of what
is live, an unsubscribed identifier found if it was on the list and then taken out for every event,
and nothing else changed. -/
structure Shows (past : List (Transition ω)) (t : Transition ω) : Prop where
  before : t.before.Refines (live past)
  after : t.after.Refines (live (past ++ [t]))
  found : ∀ id found, t.deed = .unsubscribed id found →
    (found = true ↔ id ∈ (live past).map (·.id))
  removed : ∀ id found, t.deed = .unsubscribed id found → ∀ event,
    t.after.subscribers event = (t.before.subscribers event).filter fun s => s.id != id
  unknown : ∀ id, t.deed = .unsubscribed id false → t.after = t.before

theorem made_append (ts ts' : List (Transition ω)) : made (ts ++ ts') = made ts ++ made ts' := by
  unfold made
  rw [List.map_append, List.filterMap_append]

/-- A registry holds what is live behind its transitions, and has counted what was made. -/
structure Told (past : List (Transition ω)) (r : Registry ω) : Prop where
  keeps : r.Keeps (live past)
  count : r.count = (made past).length

variable {past : List (Transition ω)} {t : Transition ω}

theorem Follows.subscribed (hfollows : t.Follows) (htold : Told past t.before)
    {id : String} {event : ConnectionEvent} {observer : ω}
    (hdeed : t.deed = .subscribed id event observer) (hfresh : id ∉ made past) :
    Told (past ++ [t]) t.after := by
  have hafter : t.after = t.before.add id event observer := by
    rwa [Follows, hdeed] at hfollows
  have hlive : live (past ++ [t]) =
      live past ++ [⟨id, event, observer, t.before.count + 1⟩] := by
    rw [live, List.map_append, List.map_singleton, hdeed, Deed.live_subscribed, Nat.zero_add,
      htold.count]
    rfl
  have hnew : id ∉ (live past).map (·.id) := by
    rintro hid
    obtain ⟨s, hs, rfl⟩ := List.mem_map.1 hid
    exact hfresh (Deed.made_of_live hs)
  refine ⟨?_, ?_⟩
  · rw [hafter, hlive]
    exact htold.keeps.add hnew event observer
  · have hmade : made [t] = [id] := by
      rw [made, List.map_singleton, hdeed]
      rfl
    rw [hafter, made_append, hmade, List.length_append, ← htold.count]
    rfl

section Unsubscribed

variable {id : String} {found : Bool} (hdeed : t.deed = .unsubscribed id found)

include hdeed

theorem live_append_unsubscribed :
    live (past ++ [t]) = (live past).filter fun s => s.id != id := by
  rw [live, List.map_append, List.map_singleton, hdeed, Deed.live_unsubscribed]
  rfl

theorem made_append_unsubscribed : made (past ++ [t]) = made past := by
  have hnone : made [t] = [] := by
    rw [made, List.map_singleton, hdeed]
    rfl
  rw [made_append, hnone, List.append_nil]

/-- An identifier that is live is found, and is not live any more. -/
theorem Follows.unsubscribed_of_live (hfollows : t.Follows) (htold : Told past t.before)
    (hid : id ∈ (live past).map (·.id)) : found = true ∧ Told (past ++ [t]) t.after := by
  obtain ⟨r, hremoved, hkeeps⟩ := htold.keeps.remove hid
  rw [Follows, hdeed] at hfollows
  cases found with
  | false => exact absurd (hremoved.symm.trans hfollows.1) (Option.some_ne_none r)
  | true =>
    obtain rfl : r = t.after := Option.some.inj (hremoved.symm.trans hfollows)
    refine ⟨rfl, ?_, ?_⟩
    · rwa [live_append_unsubscribed hdeed]
    · rw [made_append_unsubscribed hdeed, Registry.count_of_remove? hfollows, htold.count]

/-- Any other is not, and the registry stays. -/
theorem Follows.unsubscribed_of_not_live (hfollows : t.Follows) (htold : Told past t.before)
    (hid : id ∉ (live past).map (·.id)) :
    found = false ∧ t.after = t.before ∧ Told (past ++ [t]) t.after := by
  have hnone := htold.keeps.remove?_eq_none hid
  rw [Follows, hdeed] at hfollows
  cases found with
  | true => exact absurd (hfollows.symm.trans hnone) (Option.some_ne_none _)
  | false =>
    have hall : (live past).filter (fun s => s.id != id) = live past := by
      refine List.filter_eq_self.2 fun s hs => bne_iff_ne.2 ?_
      rintro rfl
      exact hid (List.mem_map_of_mem hs)
    refine ⟨rfl, hfollows.2, ?_, ?_⟩
    · rw [live_append_unsubscribed hdeed, hall, hfollows.2]
      exact htold.keeps
    · rw [made_append_unsubscribed hdeed, hfollows.2, htold.count]

end Unsubscribed

/-- What is told of the registry before a transition is told of the one behind it. -/
theorem Follows.told (hfollows : t.Follows) (htold : Told past t.before)
    (hdistinct : (made (past ++ [t])).Nodup) : Told (past ++ [t]) t.after := by
  cases hdeed : t.deed with
  | subscribed id event observer =>
    refine hfollows.subscribed htold hdeed fun hid => ?_
    have hmade : id ∈ made [t] := by
      rw [made, List.map_singleton, hdeed]
      exact List.mem_singleton_self id
    rw [made_append] at hdistinct
    exact (List.nodup_append.1 hdistinct).2.2 id hid id hmade rfl
  | unsubscribed id found =>
    by_cases hid : id ∈ (live past).map (·.id)
    · exact (hfollows.unsubscribed_of_live hdeed htold hid).2
    · exact (hfollows.unsubscribed_of_not_live hdeed htold hid).2.2

/-- Behind transitions from the empty registry on that make different identifiers stands what is
live. -/
theorem Linked.told {ts : List (Transition ω)} {r : Registry ω} (hlinked : Linked .empty ts r)
    (hdistinct : (made ts).Nodup) : Told ts r := by
  -- the last transition is taken off
  induction ts using List.reverseRecOn generalizing r with
  | nil =>
    obtain rfl := hlinked
    exact ⟨Registry.keeps_empty, rfl⟩
  | append_singleton ts t ih =>
    obtain ⟨m, hearlier, rfl, hfollows, rfl⟩ := linked_append.1 hlinked
    have hmade := hdistinct
    rw [made_append] at hmade
    exact hfollows.told (ih hearlier (List.nodup_append.1 hmade).1) hdistinct

/-- Every transition shows the list of what is live. -/
theorem Linked.shows {ts future : List (Transition ω)} {r : Registry ω}
    (hlinked : Linked .empty (ts ++ t :: future) r) (hdistinct : (made (ts ++ t :: future)).Nodup) :
    t.Shows ts := by
  obtain ⟨m, hearlier, rfl, hfollows, -⟩ := linked_append.1 hlinked
  rw [List.append_cons, made_append] at hdistinct
  have hlast := (List.nodup_append.1 hdistinct).1
  have hpast := hlast
  rw [made_append] at hpast
  have hbefore := hearlier.told (List.nodup_append.1 hpast).1
  have hafter := hfollows.told hbefore hlast
  refine ⟨hbefore.keeps.refines, hafter.keeps.refines, ?_, ?_, ?_⟩
  · intro id found hdeed
    by_cases hid : id ∈ (live ts).map (·.id)
    · exact iff_of_true (hfollows.unsubscribed_of_live hdeed hbefore hid).1 hid
    · have hfound := (hfollows.unsubscribed_of_not_live hdeed hbefore hid).1
      exact iff_of_false (Bool.eq_false_iff.1 hfound) hid
  · intro id found hdeed event
    rw [hafter.keeps.subscribers_eq, hbefore.keeps.subscribers_eq, live_append_unsubscribed hdeed,
      List.filter_filter, List.filter_filter]
    simp only [Bool.and_comm]
  · intro id hdeed
    by_cases hid : id ∈ (live ts).map (·.id)
    · cases (hfollows.unsubscribed_of_live hdeed hbefore hid).1
    · exact (hfollows.unsubscribed_of_not_live hdeed hbefore hid).2.1

end Transition

/-! ## What is answered -/

/-- A name that no event has is not read. -/
theorem ConnectionEvent.ofName_of_unnamed {name : String}
    (h : ∀ event : ConnectionEvent, event.name ≠ name) :
    ofName name = .error (.value (.unknownEvent name)) := by
  have hnone : (all.find? fun e => e.name == name) = none :=
    List.find?_eq_none.2 fun event _ hevent => h event (beq_iff_eq.1 hevent)
  rw [ofName, hnone]

namespace Hub

/-- A hub answers calls by a list of live subscriptions: it gives those of an event, finds the
identifiers on the list and no others, takes out the subscription of an identifier that it finds,
and calls the observers of an event in the order of the list. A name that no event has is refused,
and the hub stays as it is. -/
structure AnswersBy (identifier : Nat → Uuid) (react : Observers ω τ) (h : Hub ω τ)
    (live : List (Subscription ω)) : Prop where
  registry : h.registry.Refines live
  subscribe : ∀ (event : ConnectionEvent) (observer : ω), ∃ id,
    (h.answer identifier react (.subscribe event.name observer)).1 = .ok (.subscribed id) ∧
      (h.answer identifier react (.subscribe event.name observer)).2.registry =
        h.registry.add id event observer
  unsubscribe : ∀ id, (h.answer identifier react (.unsubscribe id)).1 =
    .ok (.unsubscribed (decide (id ∈ live.map (·.id))))
  known : ∀ id ∈ live.map (·.id),
    (h.answer identifier react (.unsubscribe id)).2.registry.Refines
      (live.filter fun s => s.id != id)
  unknown : ∀ id ∉ live.map (·.id),
    (h.answer identifier react (.unsubscribe id)).2.registry = h.registry
  subscribers : ∀ event : ConnectionEvent, h.answer identifier react (.subscribers event.name) =
    (.ok (.subscribers (live.filter fun s => s.event = event)), h)
  emit : ∀ (event : ConnectionEvent) (payload : Payload),
    (h.answer identifier react (.emit event.name payload)).2.notices =
      h.notices ++ (live.filter fun s => s.event = event).map fun s => ⟨s, event, payload⟩
  unnamed : ∀ (call : RegistryCall ω) (name : String), call.name? = some name →
    (∀ event : ConnectionEvent, event.name ≠ name) →
      h.answer identifier react call = (.error (.value (.unknownEvent name)), h)

variable (identifier : Nat → Uuid) (react : Observers ω τ)

/-- On an event's name what is asked for is done. -/
theorem onEvent_name {α : Type} (event : ConnectionEvent)
    (f : ConnectionEvent → Hub ω τ → α × Hub ω τ) (h : Hub ω τ) :
    h.onEvent event.name f = (.ok (f event h).1, (f event h).2) := by
  rw [onEvent, ConnectionEvent.ofName_name]

/-- Any other name is refused, and nothing is done. -/
theorem onEvent_of_unnamed {α : Type} {name : String}
    (hname : ∀ event : ConnectionEvent, event.name ≠ name)
    (f : ConnectionEvent → Hub ω τ → α × Hub ω τ) (h : Hub ω τ) :
    h.onEvent name f = (.error (.value (.unknownEvent name)), h) := by
  rw [onEvent, ConnectionEvent.ofName_of_unnamed hname]

theorem answersBy_of_keeps {h : Hub ω τ} {live : List (Subscription ω)}
    (hkeeps : h.registry.Keeps live) : h.AnswersBy identifier react live where
  registry := hkeeps.refines
  subscribe event observer := by
    rw [answer, onEvent_name]
    exact ⟨_, rfl, rfl⟩
  unsubscribe id := by
    rw [answer, Hub.unsubscribe]
    by_cases hid : id ∈ live.map (·.id)
    · obtain ⟨r, hremoved, -⟩ := hkeeps.remove hid
      rw [hremoved, decide_eq_true hid]
    · rw [hkeeps.remove?_eq_none hid, decide_eq_false hid]
  known id hid := by
    obtain ⟨r, hremoved, hr⟩ := hkeeps.remove hid
    rw [answer, Hub.unsubscribe, hremoved]
    exact hr.refines
  unknown id hid := by
    rw [answer, Hub.unsubscribe, hkeeps.remove?_eq_none hid]
    rfl
  subscribers event := by
    rw [answer, onEvent_name, hkeeps.subscribers_eq]
  emit event payload := by
    rw [answer, onEvent_name, ← hkeeps.subscribers_eq]
    exact notices_emit identifier react event payload h
  unnamed call name hcall hname := by
    cases call with
    | unsubscribe id => cases hcall
    | _ =>
      obtain rfl := Option.some.inj hcall
      rw [answer]
      exact onEvent_of_unnamed hname _ h

end Hub

/-- From an empty registry on, calls and observers that are called subscribe and unsubscribe in any
order, the identifiers that are made being different. Their transitions are all that happens to the
registry; in every transition it shows what is live, and the hub behind the calls answers any
further call by what is live then. -/
theorem registry_refines_live_subscriptions (identifier : Nat → Uuid) (react : Observers ω τ)
    (h : Hub ω τ) (hempty : h.registry = .empty) (calls : List (RegistryCall ω))
    (hdistinct : (Transition.made (h.transitionsOfAll identifier react calls)).Nodup) :
    Transition.Linked .empty (h.transitionsOfAll identifier react calls)
        (h.answerAll identifier react calls).registry ∧
      (∀ past t future,
        h.transitionsOfAll identifier react calls = past ++ t :: future → t.Shows past) ∧
      (h.answerAll identifier react calls).AnswersBy identifier react
        (Transition.live (h.transitionsOfAll identifier react calls)) := by
  have hlinked := Hub.linked_transitionsOfAll identifier react calls h
  rw [hempty] at hlinked
  refine ⟨hlinked, fun past t future htransitions => ?_, ?_⟩
  · rw [htransitions] at hlinked hdistinct
    exact hlinked.shows hdistinct
  · exact Hub.answersBy_of_keeps identifier react (hlinked.told hdistinct).keeps

/-- Four observers, two of which subscribe and unsubscribe when they are called, an identifier that
nobody has, and a name that no event has. -/
def rehearsedCalls : List (RegistryCall LabelledObserver) :=
  [.subscribe "DB_CONNECTED" ⟨"first", .listen⟩,
   .subscribe "DB_CONNECTED" ⟨"silencer", .unsubscribe "sub_000000000001"⟩,
   .subscribe "DB_ERROR" ⟨"other", .listen⟩,
   .subscribe "DB_CONNECTED" ⟨"host", .subscribe "guest"⟩,
   .emit "DB_CONNECTED" (.value .null),
   .unsubscribe "sub_000000000003",
   .unsubscribe "nobody",
   .subscribe "DB_EXPLODED" ⟨"never", .listen⟩,
   .emit "DB_CONNECTED" (.value .null)]

/-- The transitions of the rehearsed calls. -/
def rehearsedTransitions : List (Transition LabelledObserver) :=
  Hub.transitionsOfAll numberedUuid LabelledObserver.react rehearsedCalls (.start [])

theorem rehearsedCalls_refine :
    (Hub.start [] : Hub LabelledObserver Labels).registry = .empty ∧
      (Transition.made rehearsedTransitions).Nodup ∧
      ((Transition.live rehearsedTransitions).map fun s => (s.event, s.order)) =
        [(.connected, 2), (.connected, 4), (.connected, 5), (.connected, 6)] ∧
      Transition.Linked .empty rehearsedTransitions
        (Hub.answerAll numberedUuid LabelledObserver.react rehearsedCalls (.start [])).registry ∧
      (∀ past t future, rehearsedTransitions = past ++ t :: future → t.Shows past) ∧
      (Hub.answerAll numberedUuid LabelledObserver.react rehearsedCalls (.start [])).AnswersBy
        numberedUuid LabelledObserver.react (Transition.live rehearsedTransitions) := by
  have hdistinct : (Transition.made rehearsedTransitions).Nodup := by decide +kernel
  exact ⟨rfl, hdistinct, by decide +kernel,
    registry_refines_live_subscriptions numberedUuid LabelledObserver.react (.start []) rfl
      rehearsedCalls hdistinct⟩

end DocumentStore
