import DocumentStore.Document
import DocumentStore.Proofs.Calendar.Instants
import DocumentStore.Proofs.Number.Accuracy
import DocumentStore.Proofs.Statement.Coercion
import DocumentStore.Query.Write
import Mathlib.Algebra.Order.Round

/-!
# Timestamps as seconds

Inserts and filters bind a timestamp as its moment, updates as a double that counts seconds, and the
server stores the microsecond that is nearest to a double. For a moment within `2 ^ 33` seconds of
1970, or on a 64th of a second, that is the moment itself; for all others it is at most 15
microseconds away (`update_stores_moment_of_insert`). The last moment of all is moved into the year
10000 (`lastMoment_moved`).
-/

set_option autoImplicit false

namespace DocumentStore

open Calendar (Clock Date InYears Moment)
open Fallible

namespace Timestamp

/-- The instant at which a number of seconds is stored: the microsecond that is nearest to it. -/
def storedInstant (x : Double) : Int := round (x.toRat * 1000000)

/-- What is less than a half away from an instant is stored there. -/
theorem storedInstant_eq {x : Double} {n : Int} (h : |x.toRat * 1000000 - n| < 1 / 2) :
    storedInstant x = n := by
  obtain ⟨hlow, hhigh⟩ := abs_lt.1 h
  rw [storedInstant, round_eq_iff]
  constructor <;> linarith

/-! ## Seconds of an instant -/

/-- The seconds of an instant are off by half a unit of their last place at most. -/
theorem seconds_near {n k : Int} (hleast : Double.minExponent ≤ k)
    (hgreatest : k + 1 ≤ Double.maxExponent) (h : |(n : ℚ)| < 2 ^ (53 + k) * 1000000) :
    (Double.ofRatio n 1000000).IsFinite ∧
      |(Double.ofRatio n 1000000).toRat * 1000000 - n| ≤ 2 ^ k / 2 * 1000000 := by
  have hsmall : |(n : ℚ) / (1000000 : Nat)| < 2 ^ (53 + k) := by
    rw [abs_div, Nat.abs_cast, div_lt_iff₀ (by norm_num)]
    exact_mod_cast h
  obtain ⟨hfinite, herror⟩ := Double.near_ofRatio n (by decide) hleast hgreatest hsmall
  refine ⟨hfinite, ?_⟩
  have hsplit : (Double.ofRatio n 1000000).toRat * 1000000 - n =
      ((Double.ofRatio n 1000000).toRat - n / (1000000 : Nat)) * 1000000 := by
    push_cast
    ring
  rw [hsplit, abs_mul, abs_of_pos (by norm_num : (0 : ℚ) < 1000000)]
  exact mul_le_mul_of_nonneg_right herror (by norm_num)

/-- Within `2 ^ 33` seconds of 1970 half a unit of the last place is less than half a
microsecond. -/
theorem seconds_near_epoch {n : Int} (h : n.natAbs < 2 ^ 33 * 1000000) :
    |(Double.ofRatio n 1000000).toRat * 1000000 - n| < 1 / 2 := by
  have hbound := Double.natAbs_lt_iff.1 h
  obtain ⟨-, herror⟩ := seconds_near (k := -20) (by decide) (by decide)
    (by norm_num at hbound ⊢; exact hbound)
  exact herror.trans_lt (by norm_num)

/-- A 64th of a second is a whole number of units of the last place, in all years. -/
theorem seconds_exact {n : Int} (hyears : InYears n) (h : 15625 ∣ n) :
    (Double.ofRatio n 1000000).toRat * 1000000 = n := by
  obtain ⟨q, rfl⟩ := h
  have hrange := Calendar.inYears_iff.1 hyears
  have hunits : (((15625 * q).natAbs : Nat) : ℚ) / (1000000 : Nat) =
      (q.natAbs * 2 ^ 9 : Nat) * 2 ^ (-15 : Int) := by
    rw [Int.natAbs_mul]
    push_cast
    norm_num
    ring
  have hnear := Double.near_round_of_units (15625 * q < 0) (by decide) (by decide) (by decide)
    (by omega) hunits
  rw [← mul_div_assoc, Double.signFactor_natAbs] at hnear
  obtain ⟨-, herror⟩ := hnear
  rw [abs_nonpos_iff, sub_eq_zero] at herror
  rw [Double.ofRatio, herror]
  push_cast
  ring

/-- In all years half a unit of the last place is less than 16 microseconds. -/
theorem seconds_near_inYears {n : Int} (hyears : InYears n) : (Double.ofRatio n 1000000).IsFinite ∧
    |(Double.ofRatio n 1000000).toRat * 1000000 - n| ≤ 15625 / 1024 := by
  have hrange := Calendar.inYears_iff.1 hyears
  have hbound : n.natAbs < 2 ^ 38 * 1000000 := by omega
  rw [Double.natAbs_lt_iff] at hbound
  obtain ⟨hfinite, herror⟩ := seconds_near (k := -15) (by decide) (by decide)
    (by norm_num at hbound ⊢; exact hbound)
  exact ⟨hfinite, herror.trans (by norm_num)⟩

/-- So no moment is stored more than 15 microseconds away. -/
theorem abs_storedInstant_sub_le {x : Double} {n : Int}
    (h : |x.toRat * 1000000 - n| ≤ 15625 / 1024) :
    |storedInstant x - n| ≤ 15 := by
  have hround := abs_sub_round (x.toRat * 1000000)
  rw [abs_le] at h hround
  have hdistance : |(storedInstant x : ℚ) - n| < 16 := by
    rw [abs_lt, storedInstant]
    constructor <;> linarith
  have hinteger : |storedInstant x - n| < 16 := by exact_mod_cast hdistance
  omega

end Timestamp

open Timestamp

/-! ## What is bound for a timestamp -/

/-- A moment is bound as its seconds. -/
theorem toEpochSeconds_eq {v : Value} {m : Moment} (h : toTimestamp v = .ok (some m)) :
    toEpochSeconds v = .ok (some (Double.ofRatio m.instant 1000000)) := by
  rw [toEpochSeconds, h]
  rfl

/-- What is read as a timestamp lies in the years 1 to 9999. -/
theorem inYears_of_toTimestamp {v : Value} {m : Moment} (h : toTimestamp v = .ok (some m)) :
    InYears m.instant := by
  have hfound := Moment.ofInstant?_instant (naive_of_toTimestamp h)
  by_contra hyears
  rw [Moment.ofInstant?_eq_none.2 hyears] at hfound
  cases hfound

/-- A bookkeeping column of timestamps is coerced by an insert. -/
theorem coerceInternal_of_timestamp {column : Value}
    (hcolumn : isNamed timestampFields column = true) (v : Value) :
    Mapper.coerceInternal column v = (toTimestamp v).map Value.ofMoment := by
  cases column with
  | text name =>
    show (if isNamed timestampFields (.text name) then _ else _) = _
    rw [if_pos hcolumn]
  | _ => cases hcolumn

/-- For a value that is read as a timestamp, inserts and filters bind its moment and updates a
number of seconds. The microsecond nearest to that number is at most 15 away from the moment. It is
the moment itself, and no other is as near, when that lies within `2 ^ 33` seconds of 1970 or on a
64th of a second. -/
theorem update_stores_moment_of_insert {v : Value} {m : Moment} (hv : toTimestamp v = .ok (some m))
    (s : FieldSchema) {column : Value} (hcolumn : isNamed timestampFields column = true) :
    Mapper.coerceInternal column v = .ok (.moment m) ∧ filterValue s column v = .ok (.moment m) ∧
    ∃ x, toEpochSeconds v = .ok (some x) ∧ setParameter s column v = .ok (.float x) ∧ x.IsFinite ∧
      |x.toRat * 1000000 - m.instant| ≤ 15625 / 1024 ∧ |storedInstant x - m.instant| ≤ 15 ∧
      (m.instant.natAbs < 2 ^ 33 * 1000000 ∨ 15625 ∣ m.instant →
        |x.toRat * 1000000 - m.instant| < 1 / 2 ∧ storedInstant x = m.instant ∧
          Moment.ofInstant? (storedInstant x) = some m) := by
  have hyears := inYears_of_toTimestamp hv
  have hseconds := toEpochSeconds_eq hv
  obtain ⟨hfinite, herror⟩ := seconds_near_inYears hyears
  refine ⟨?insert, ?filter, _, hseconds, ?update, hfinite, herror,
    abs_storedInstant_sub_le herror, ?exact⟩
  case insert =>
    rw [coerceInternal_of_timestamp hcolumn, hv]
    rfl
  case filter =>
    rw [filterValue, if_pos hcolumn, hv]
    rfl
  case update =>
    rw [setParameter, if_pos hcolumn, hseconds]
    rfl
  case exact =>
    intro hmoment
    have hnear : |(Double.ofRatio m.instant 1000000).toRat * 1000000 - m.instant| < 1 / 2 := by
      rcases hmoment with hepoch | hunits
      · exact seconds_near_epoch hepoch
      · rw [seconds_exact hyears hunits, sub_self, abs_zero]
        norm_num
    have hstored := storedInstant_eq hnear
    refine ⟨hnear, hstored, ?_⟩
    rw [hstored]
    exact Moment.ofInstant?_instant (naive_of_toTimestamp hv)

/-- The last microsecond before `2 ^ 33` seconds from 1970. -/
def lastExact : Moment where
  date := (Date.ofParts? 2242 3 16).get (by decide)
  clock := (Clock.ofParts? 12 56 31 999999).get (by decide)
  offset := none

/-- A quarter into the last second of all. -/
def lastQuarter : Moment where
  date := (Date.ofParts? 9999 12 31).get (by decide)
  clock := (Clock.ofParts? 23 59 59 250000).get (by decide)
  offset := none

theorem update_stores_lastExact :
    (toTimestamp (.moment lastExact) = .ok (some lastExact) ∧
      toTimestamp (.moment lastQuarter) = .ok (some lastQuarter) ∧
      isNamed timestampFields (.text "_createdAt") = true ∧
      lastExact.instant = 2 ^ 33 * 1000000 - 1 ∧ 2 ^ 33 * 1000000 ≤ lastQuarter.instant) ∧
    (∃ x, setParameter .empty (.text "_createdAt") (.moment lastExact) = .ok (.float x) ∧
      Moment.ofInstant? (storedInstant x) = some lastExact) ∧
    ∃ x, setParameter .empty (.text "_createdAt") (.moment lastQuarter) = .ok (.float x) ∧
      Moment.ofInstant? (storedInstant x) = some lastQuarter := by
  have hexact : toTimestamp (.moment lastExact) = .ok (some lastExact) := rfl
  have hquarter : toTimestamp (.moment lastQuarter) = .ok (some lastQuarter) := rfl
  have hcolumn : isNamed timestampFields (.text "_createdAt") = true := by decide
  obtain ⟨-, -, x, -, hx, -, -, -, hstored⟩ := update_stores_moment_of_insert hexact .empty hcolumn
  obtain ⟨-, -, y, -, hy, -, -, -, hstored'⟩ :=
    update_stores_moment_of_insert hquarter .empty hcolumn
  obtain ⟨-, -, hfound⟩ := hstored (.inl (by decide))
  obtain ⟨-, -, hfound'⟩ := hstored' (.inr (by decide))
  exact ⟨⟨hexact, hquarter, hcolumn, by decide, by decide⟩, ⟨x, hx, hfound⟩, y, hy, hfound'⟩

/-- The last moment of all. -/
def lastMoment : Moment where
  date := (Date.ofParts? 9999 12 31).get (by decide)
  clock := (Clock.ofParts? 23 59 59 999999).get (by decide)
  offset := none

/-- The first microsecond that a double does not tell from the next one. -/
def firstInexact : Moment where
  date := (Date.ofParts? 2242 3 16).get (by decide)
  clock := (Clock.ofParts? 12 56 32 1).get (by decide)
  offset := none

/-- The last moment is set to the first second of the year 10000. A microsecond is lost as soon as
the seconds from 1970 are more than `2 ^ 33`. -/
theorem lastMoment_moved :
    (∃ x, toEpochSeconds (.moment lastMoment) = .ok (some x) ∧ x.toRat = 253402300800 ∧
      storedInstant x = lastMoment.instant + 1 ∧ Moment.ofInstant? (storedInstant x) = none) ∧
    firstInexact.instant = 2 ^ 33 * 1000000 + 1 ∧
    ∃ x, toEpochSeconds (.moment firstInexact) = .ok (some x) ∧
      storedInstant x = firstInexact.instant + 1 := by
  have hlast : Double.ofRatio lastMoment.instant 1000000 =
      .finite false 8303486592614400 (-15) := by
    decide +kernel
  have hfirst : Double.ofRatio firstInexact.instant 1000000 =
      .finite false 4503599627370497 (-19) := by
    decide +kernel
  have hinstant : lastMoment.instant = 253402300799999999 := by decide
  have hinstant' : firstInexact.instant = 8589934592000001 := by decide
  have hstored : storedInstant (.finite false 8303486592614400 (-15)) = 253402300800000000 := by
    rw [storedInstant, round_eq_iff, Double.toRat]
    norm_num
  have hstored' : storedInstant (.finite false 4503599627370497 (-19)) = 8589934592000002 := by
    rw [storedInstant, round_eq_iff, Double.toRat]
    norm_num
  refine ⟨⟨_, toEpochSeconds_eq rfl, ?_, ?_, ?_⟩, hinstant', _, toEpochSeconds_eq rfl, ?_⟩
  · rw [hlast, Double.toRat]
    norm_num
  · rw [hlast, hstored, hinstant]
    rfl
  · rw [hlast, hstored]
    decide
  · rw [hfirst, hstored', hinstant']
    rfl

end DocumentStore
