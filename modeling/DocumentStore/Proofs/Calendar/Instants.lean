import DocumentStore.Calendar.Moment
import DocumentStore.Proofs.Calendar.Days
import Mathlib.Data.List.Lex

/-!
# Instants

A moment without offset and its instant determine each other (`Moment.ofInstant?_eq_some`), the
instants of moments are those of the years 1 to 9999 (`Moment.ofInstant?_eq_none`), and instants are
ordered as the parts of moments are, from the year down to the microsecond
(`Moment.instant_lt_iff`).
-/

set_option autoImplicit false

namespace DocumentStore.Calendar

/-! ## Times of day -/

namespace Clock

theorem micros_lt (c : Clock) : c.micros < 86400000000 := by
  have hhour := c.hour_lt
  have hminute := c.minute_lt
  have hsecond := c.second_lt
  have hmicrosecond := c.microsecond_lt
  unfold micros
  omega

/-- A time of day is found by its microseconds. -/
theorem ofMicros_micros (c : Clock) : ofMicros c.micros = c := by
  obtain ⟨hour, minute, second, microsecond, hhour, hminute, hsecond, hmicrosecond⟩ := c
  simp only [ofMicros, micros, Clock.mk.injEq]
  omega

theorem micros_ofMicros {n : Nat} (h : n < 86400000000) : (ofMicros n).micros = n := by
  simp only [ofMicros, micros]
  omega

/-- The parts of a time of day, from the hour down to the microsecond. -/
def parts (c : Clock) : List Nat := [c.hour, c.minute, c.second, c.microsecond]

theorem micros_lt_of_parts_lt {a b : Clock} (h : a.parts < b.parts) : a.micros < b.micros := by
  obtain ⟨hour, minute, second, microsecond, hhour, hminute, hsecond, hmicrosecond⟩ := a
  obtain ⟨hour', minute', second', microsecond', hhour', hminute', hsecond', hmicrosecond'⟩ := b
  simp only [parts, List.cons_lt_cons_iff, List.not_lt_nil, and_false, or_false] at h
  simp only [micros]
  omega

theorem parts_injective {a b : Clock} (h : a.parts = b.parts) : a = b := by
  cases a
  cases b
  simp only [parts, List.cons.injEq, and_true] at h
  obtain ⟨rfl, rfl, rfl, rfl⟩ := h
  rfl

end Clock

/-! ## Moments without offset -/

/-- An instant of the years 1 to 9999. -/
def InYears (n : Int) : Prop := 1 ≤ Moment.yearOfInstant n ∧ Moment.yearOfInstant n ≤ 9999

instance (n : Int) : Decidable (InYears n) := inferInstanceAs (Decidable (_ ∧ _))

/-- The years 1 to 9999 as a range of instants. -/
theorem inYears_iff {n : Int} :
    InYears n ↔ -62135596800000000 ≤ n ∧ n < 253402300800000000 := by
  unfold InYears Moment.yearOfInstant
  rw [← Date.exists_ordinal_iff_year, Date.exists_ordinal_iff]
  unfold dayLength epochDay
  omega

namespace Moment

/-- The instant of a moment that is taken as one of UTC. -/
theorem instant_of_naive {m : Moment} (h : m.offset = none) :
    m.instant = (m.date.ordinal - 719163) * 86400000000 + m.clock.micros := by
  unfold instant
  rw [h]
  exact Int.sub_zero _

/-- A moment without offset is found exactly by its instant. -/
theorem ofInstant?_eq_some {n : Int} {m : Moment} :
    ofInstant? n = some m ↔ m.offset = none ∧ m.instant = n := by
  constructor
  · intro h
    obtain ⟨date, hdate, rfl⟩ := Option.map_eq_some_iff.1 h
    have hordinal := Date.ofOrdinal?_eq_some.1 hdate
    unfold dayLength epochDay at *
    refine ⟨rfl, ?_⟩
    rw [instant_of_naive rfl, Clock.micros_ofMicros (by omega)]
    dsimp only
    omega
  · rintro ⟨hoffset, rfl⟩
    have hmicros := m.clock.micros_lt
    have hday : m.instant / dayLength + epochDay = m.date.ordinal := by
      rw [instant_of_naive hoffset, dayLength, epochDay]
      omega
    have hrest : (m.instant % dayLength).toNat = m.clock.micros := by
      rw [instant_of_naive hoffset, dayLength]
      omega
    rw [ofInstant?, hday, hrest, Date.ofOrdinal?_ordinal, Option.map_some,
      Clock.ofMicros_micros, ← hoffset]

theorem ofInstant?_instant {m : Moment} (h : m.offset = none) : ofInstant? m.instant = some m :=
  ofInstant?_eq_some.2 ⟨h, rfl⟩

/-- There is no moment outside the years 1 to 9999. -/
theorem ofInstant?_eq_none {n : Int} : ofInstant? n = none ↔ ¬InYears n := by
  rw [ofInstant?, Option.map_eq_none_iff, Date.ofOrdinal?_eq_none, InYears, yearOfInstant]

/-- At every instant of the years 1 to 9999 there is a moment. -/
theorem exists_ofInstant? {n : Int} (h : InYears n) : ∃ m, ofInstant? n = some m := by
  rw [← Option.isSome_iff_exists, Option.isSome_iff_ne_none, ne_eq, ofInstant?_eq_none, not_not]
  exact h

/-- A moment without offset is the only one at its instant. -/
theorem eq_of_instant_eq {a b : Moment} (ha : a.offset = none) (hb : b.offset = none)
    (h : a.instant = b.instant) : a = b := by
  have hfound := ofInstant?_instant ha
  rw [h, ofInstant?_instant hb] at hfound
  exact (Option.some.inj hfound).symm

/-! ## Order -/

/-- The parts of a moment, from the year down to the microsecond. -/
def parts (m : Moment) : List Nat := m.date.parts ++ m.clock.parts

theorem eq_of_parts_eq {a b : Moment} (ha : a.offset = none) (hb : b.offset = none)
    (h : a.parts = b.parts) : a = b := by
  obtain ⟨hdate, hclock⟩ := List.append_inj h rfl
  cases a
  cases b
  obtain rfl := Date.parts_injective hdate
  obtain rfl := Clock.parts_injective hclock
  exact congrArg _ (ha.trans hb.symm)

theorem instant_lt_of_parts_lt {a b : Moment} (ha : a.offset = none) (hb : b.offset = none)
    (h : a.parts < b.parts) : a.instant < b.instant := by
  have hclock := a.clock.micros_lt
  have hsplit : a.date.parts < b.date.parts ∨
      a.date.parts = b.date.parts ∧ a.clock.parts < b.clock.parts := by
    simp only [parts, Date.parts, List.cons_append, List.nil_append, List.cons_lt_cons_iff,
      List.not_lt_nil, and_false, or_false, List.cons.injEq, and_true] at h ⊢
    tauto
  rw [instant_of_naive ha, instant_of_naive hb]
  rcases hsplit with hdate | ⟨hdate, htime⟩
  · have hordinal := Date.ordinal_lt_of_parts_lt hdate
    omega
  · have hmicros := Clock.micros_lt_of_parts_lt htime
    rw [Date.parts_injective hdate]
    omega

/-- Moments without offset are ordered by their instants as they are by their parts. -/
theorem instant_lt_iff {a b : Moment} (ha : a.offset = none) (hb : b.offset = none) :
    a.instant < b.instant ↔ a.parts < b.parts := by
  constructor
  · intro h
    rcases lt_trichotomy a.parts b.parts with hparts | hparts | hparts
    · exact hparts
    · rw [eq_of_parts_eq ha hb hparts] at h
      exact absurd h (lt_irrefl _)
    · exact absurd h (instant_lt_of_parts_lt hb ha hparts).asymm
  · exact instant_lt_of_parts_lt ha hb

end Moment

end DocumentStore.Calendar
