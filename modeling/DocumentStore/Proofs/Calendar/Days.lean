import DocumentStore.Calendar.Date
import Mathlib.Algebra.BigOperators.Group.List.Basic
import Mathlib.Tactic.Linarith

/-!
# Day numbers

`Date.ordinal` counts the days up to a date, and `civil` takes a count apart into eras of 400 years,
centuries, cycles of four years, single years, months and days. The two are inverse to each other: a
day number is that of one place in the cycles (`exists_place`), and `civil` finds the place
(`civil_place`). So the dates are numbered from 1 to 3652059 without a gap
(`Date.ofOrdinal?_eq_some`, `Date.exists_ordinal_iff`), in the order of the calendar
(`Date.ordinal_lt_of_parts_lt`).
-/

set_option autoImplicit false

namespace DocumentStore.Calendar

/-! ## Months -/

theorem sum_monthLengths (leap : Bool) : (monthLengths leap).sum = 365 + leap.toNat := by
  cases leap <;> rfl

theorem daysBeforeMonth_eq (year month : Nat) :
    daysBeforeMonth year month = ((monthLengths (isLeap year)).take (month - 1)).sum :=
  List.sum_eq_foldl.symm

/-- A day behind some whole months is found in the next month. -/
theorem monthOf_place {lengths : List Nat} {before day : Nat} (first : Nat)
    (hday : day < lengths.getD before 0) :
    monthOf lengths first ((lengths.take before).sum + day) = (first + before, day + 1) := by
  induction lengths generalizing before first with
  | nil => simp at hday
  | cons length lengths ih =>
    cases before with
    | zero =>
      have hfits : 0 + day < length := by simpa using hday
      rw [List.take_zero, List.sum_nil, monthOf, if_pos hfits, Nat.zero_add]
      rfl
    | succ before =>
      have hlater : ¬ length + (lengths.take before).sum + day < length := by omega
      have hrest : length + (lengths.take before).sum + day - length =
          (lengths.take before).sum + day := by omega
      have hnext : day < lengths.getD before 0 := by simpa using hday
      rw [List.take_succ_cons, List.sum_cons, monthOf, if_neg hlater, hrest, ih (first + 1) hnext,
        Nat.add_assoc, Nat.add_comm 1]

/-- Every day of some months lies behind whole months in one of them. -/
theorem exists_month {lengths : List Nat} {rest : Nat} (h : rest < lengths.sum) :
    ∃ before day, rest = (lengths.take before).sum + day ∧ before < lengths.length ∧
      day < lengths.getD before 0 := by
  induction lengths generalizing rest with
  | nil => exact absurd h (Nat.not_lt_zero rest)
  | cons length lengths ih =>
    by_cases hfirst : rest < length
    · exact ⟨0, rest, by simp, by simp, by simpa using hfirst⟩
    · have hless : rest - length < lengths.sum := by
        rw [List.sum_cons] at h
        omega
      obtain ⟨before, day, hrest, hbefore, hday⟩ := ih hless
      refine ⟨before + 1, day, ?_, by simpa using hbefore, by simpa using hday⟩
      rw [List.take_succ_cons, List.sum_cons]
      omega

/-- A day of a month is not behind the whole months up to the end of it. -/
theorem sum_take_add_lt {lengths : List Nat} {before later day : Nat} (hlater : before < later)
    (hday : day < lengths.getD before 0) :
    (lengths.take before).sum + day < (lengths.take later).sum := by
  induction lengths generalizing before later with
  | nil => simp at hday
  | cons length lengths ih =>
    obtain ⟨later, rfl⟩ : ∃ k, later = k + 1 := ⟨later - 1, by omega⟩
    rw [List.take_succ_cons, List.sum_cons]
    cases before with
    | zero =>
      have hfits : day < length := by simpa using hday
      rw [List.take_zero, List.sum_nil]
      omega
    | succ before =>
      have hnext : day < lengths.getD before 0 := by simpa using hday
      have hrest := ih (Nat.lt_of_succ_lt_succ hlater) hnext
      rw [List.take_succ_cons, List.sum_cons]
      omega

/-! ## Years -/

theorem isLeap_iff (year : Nat) :
    isLeap year = true ↔ year % 4 = 0 ∧ (year % 100 ≠ 0 ∨ year % 400 = 0) := by
  simp [isLeap]

/-- The place of a year in its era: its century, its cycle of four years and its number in the
cycle. -/
structure YearPlace where
  century : Nat
  cycle : Nat
  single : Nat
  century_lt : century < 4
  cycle_lt : cycle < 25
  single_lt : single < 4

namespace YearPlace

/-- The number of a year in its era, from 1. -/
def year (p : YearPlace) : Nat := 100 * p.century + 4 * p.cycle + p.single + 1

/-- The days of the era before a year. -/
def daysBefore (p : YearPlace) : Nat := 36524 * p.century + 1461 * p.cycle + 365 * p.single

/-- The last year of a cycle is a leap year, but for the last cycle of every century but the
last. -/
theorem isLeap_year_iff (p : YearPlace) :
    isLeap p.year = true ↔ p.single = 3 ∧ (p.cycle = 24 → p.century = 3) := by
  have hcentury := p.century_lt
  have hcycle := p.cycle_lt
  have hsingle := p.single_lt
  rw [isLeap_iff]
  unfold YearPlace.year
  omega

/-- All eras have the same leap years. -/
theorem isLeap_era (p : YearPlace) (era : Nat) : isLeap (400 * era + p.year) = isLeap p.year := by
  have hcycle : (400 * era + p.year) % 4 = p.year % 4 := by omega
  have hcentury : (400 * era + p.year) % 100 = p.year % 100 := by omega
  have hera : (400 * era + p.year) % 400 = p.year % 400 := by omega
  rw [isLeap, hcycle, hcentury, hera, isLeap]

/-- A year has 366 days only when it is the last of a cycle with a leap year. -/
theorem day_bound (p : YearPlace) {dayOfYear : Nat} (h : dayOfYear < 365 + (isLeap p.year).toNat) :
    dayOfYear < 365 ∨ dayOfYear = 365 ∧ p.single = 3 ∧ (p.cycle = 24 → p.century = 3) := by
  cases hleap : isLeap p.year with
  | false =>
    rw [hleap] at h
    exact .inl h
  | true =>
    have hlast := p.isLeap_year_iff.1 hleap
    rw [hleap, Bool.toNat_true] at h
    omega

/-- The days before a year are those of the eras before its own and those of its own era. -/
theorem daysBeforeYear_eq (p : YearPlace) (era : Nat) :
    daysBeforeYear (400 * era + p.year) = 146097 * era + p.daysBefore := by
  obtain ⟨century, cycle, single, hcentury, hcycle, hsingle⟩ := p
  simp only [daysBeforeYear, year, daysBefore]
  omega

/-- Every year has a place in an era. -/
theorem exists_eq {year : Nat} (h : 1 ≤ year) :
    ∃ (era : Nat) (p : YearPlace), year = 400 * era + p.year := by
  refine ⟨(year - 1) / 400, ⟨(year - 1) % 400 / 100, (year - 1) % 100 / 4, (year - 1) % 4,
    by omega, by omega, by omega⟩, ?_⟩
  simp only [YearPlace.year]
  omega

/-- The days of an era are less than the length of an era. -/
theorem dayOfEra_lt (p : YearPlace) {dayOfYear : Nat}
    (h : dayOfYear < 365 + (isLeap p.year).toNat) :
    p.daysBefore + dayOfYear < 146097 := by
  have hcentury := p.century_lt
  have hcycle := p.cycle_lt
  have hsingle := p.single_lt
  have hbound := p.day_bound h
  unfold daysBefore
  omega

theorem year_le (p : YearPlace) : p.year ≤ 400 := by
  obtain ⟨century, cycle, single, hcentury, hcycle, hsingle⟩ := p
  simp only [year]
  omega

end YearPlace

/-- The number of a day, from zero, of a year of an era. -/
def placeOrdinal (era : Int) (p : YearPlace) (dayOfYear : Nat) : Int :=
  146097 * era + p.daysBefore + dayOfYear + 1

/-- The year of a day number is found, and its day is left for the months. -/
theorem civil_place (era : Int) (p : YearPlace) {dayOfYear : Nat}
    (hday : dayOfYear < 365 + (isLeap p.year).toNat) :
    civil (placeOrdinal era p dayOfYear) =
      (400 * era + p.year, monthOf (monthLengths (isLeap p.year)) 1 dayOfYear) := by
  have hcentury := p.century_lt
  have hcycle := p.cycle_lt
  have hsingle := p.single_lt
  have hbound := p.day_bound hday
  have hinEra := p.dayOfEra_lt hday
  have hbefore : p.daysBefore = 36524 * p.century + 1461 * p.cycle + 365 * p.single := rfl
  -- what is left at each level of the cycles is less than a whole unit, the last of its kind apart
  have hera : (placeOrdinal era p dayOfYear - 1) / 146097 = era := by
    unfold placeOrdinal
    omega
  have hrest : ((placeOrdinal era p dayOfYear - 1) % 146097).toNat = p.daysBefore + dayOfYear := by
    unfold placeOrdinal
    omega
  have hcenturies : min 3 ((p.daysBefore + dayOfYear) / 36524) = p.century := by omega
  have hcycles : (p.daysBefore + dayOfYear - p.century * 36524) / 1461 = p.cycle := by omega
  have hcycleRest : (p.daysBefore + dayOfYear - p.century * 36524) % 1461 =
      365 * p.single + dayOfYear := by omega
  have hsingles : min 3 ((365 * p.single + dayOfYear) / 365) = p.single := by omega
  have hdayOfYear : 365 * p.single + dayOfYear - p.single * 365 = dayOfYear := by omega
  unfold civil
  dsimp only
  rw [hera, hrest, hcenturies, hcycles, hcycleRest, hsingles, hdayOfYear, ← YearPlace.year]

/-- Every day number is that of a day of a year of an era. -/
theorem exists_place (n : Int) :
    ∃ era p dayOfYear, n = placeOrdinal era p dayOfYear ∧
      dayOfYear < 365 + (isLeap p.year).toNat := by
  obtain ⟨rest, hrest⟩ : ∃ rest : Nat, n = 146097 * ((n - 1) / 146097) + rest + 1 ∧ rest < 146097 :=
    ⟨((n - 1) % 146097).toNat, by omega, by omega⟩
  obtain ⟨century, inCentury, hcentury, hcenturies, hlast⟩ : ∃ century inCentury : Nat,
      rest = 36524 * century + inCentury ∧ century < 4 ∧
        (inCentury < 36524 ∨ century = 3 ∧ inCentury = 36524) :=
    ⟨min 3 (rest / 36524), rest - 36524 * min 3 (rest / 36524), by omega, by omega, by omega⟩
  obtain ⟨single, dayOfYear, hsingle, hsingles, hlong⟩ : ∃ single dayOfYear : Nat,
      inCentury % 1461 = 365 * single + dayOfYear ∧ single < 4 ∧
        (dayOfYear < 365 ∨ single = 3 ∧ dayOfYear = 365) :=
    ⟨min 3 (inCentury % 1461 / 365), inCentury % 1461 - 365 * min 3 (inCentury % 1461 / 365),
      by omega, by omega, by omega⟩
  let p : YearPlace := ⟨century, inCentury / 1461, single, hcenturies, by omega, hsingles⟩
  have hdays : p.daysBefore = 36524 * century + 1461 * (inCentury / 1461) + 365 * single := rfl
  refine ⟨(n - 1) / 146097, p, dayOfYear, ?_, ?_⟩
  · unfold placeOrdinal
    omega
  · rcases hlong with hshort | ⟨rfl, rfl⟩
    · omega
    · -- a day 365 is the last of a cycle, which a cycle of 36524 days does not have
      have hleap := p.isLeap_year_iff.2 ⟨rfl, fun hcycle => by
        have hcycle : inCentury / 1461 = 24 := hcycle
        show century = 3
        omega⟩
      rw [hleap]
      decide

theorem daysBeforeYear_succ {year : Nat} (h : 1 ≤ year) :
    daysBeforeYear (year + 1) = daysBeforeYear year + 365 + (isLeap year).toNat := by
  obtain ⟨era, p, rfl⟩ := YearPlace.exists_eq h
  have hnext : daysBeforeYear (400 * era + p.year + 1) =
      146097 * era + p.daysBefore + 365 + (isLeap p.year).toNat := by
    have hleap := p.isLeap_year_iff
    obtain ⟨century, cycle, single, hcentury, hcycle, hsingle⟩ := p
    unfold daysBeforeYear
    cases hyear : isLeap (YearPlace.year ⟨century, cycle, single, hcentury, hcycle, hsingle⟩) with
    | false =>
      rw [hyear] at hleap
      simp only [Bool.false_eq_true, false_iff] at hleap
      simp only [YearPlace.year, YearPlace.daysBefore, Bool.toNat_false]
      omega
    | true =>
      have hparts := hleap.1 hyear
      simp only [YearPlace.year, YearPlace.daysBefore, Bool.toNat_true]
      dsimp only at hparts
      omega
  rw [hnext, p.daysBeforeYear_eq, p.isLeap_era]

theorem daysBeforeYear_mono {a b : Nat} (ha : 1 ≤ a) (h : a ≤ b) :
    daysBeforeYear a ≤ daysBeforeYear b := by
  induction b, h using Nat.le_induction with
  | base => exact Nat.le_refl _
  | succ b hab ih =>
    rw [daysBeforeYear_succ (ha.trans hab)]
    omega

theorem daysInMonth_eq {year month : Nat} (h : 1 ≤ month) :
    daysInMonth year month = (monthLengths (isLeap year)).getD (month - 1) 0 :=
  if_neg (by omega)

/-- What `civil` gives of the days from the first on: the parts of a day, and the day number is
theirs. -/
theorem exists_civil {n : Int} (h : 1 ≤ n) :
    ∃ year month day : Nat, civil n = ((year : Int), month, day) ∧ 1 ≤ year ∧
      (1 ≤ month ∧ month ≤ 12) ∧ (1 ≤ day ∧ day ≤ daysInMonth year month) ∧
      n = (daysBeforeYear year + daysBeforeMonth year month + day : Nat) := by
  obtain ⟨era, p, rest, rfl, hrest⟩ := exists_place n
  have hera : 0 ≤ era := by
    have hday := p.dayOfEra_lt hrest
    unfold placeOrdinal at h
    omega
  obtain ⟨era, rfl⟩ := Int.eq_ofNat_of_zero_le hera
  have hcivil := civil_place era p hrest
  obtain ⟨before, day, rfl, hbefore, hday⟩ :=
    exists_month (hrest.trans_eq (sum_monthLengths _).symm)
  have hmonths : (monthLengths (isLeap p.year)).length = 12 := rfl
  rw [monthOf_place 1 hday] at hcivil
  refine ⟨400 * era + p.year, 1 + before, day + 1, ?_, ?_, by omega, ⟨by omega, ?_⟩, ?_⟩
  · rw [hcivil]
    push_cast
    rfl
  · unfold YearPlace.year
    omega
  · rw [daysInMonth_eq (by omega), p.isLeap_era, Nat.add_sub_cancel_left]
    exact hday
  · rw [p.daysBeforeYear_eq, daysBeforeMonth_eq, p.isLeap_era, Nat.add_sub_cancel_left,
      placeOrdinal]
    omega

/-- The days before the first lie in years before the first. -/
theorem civil_year_lt {n : Int} (h : n < 1) : (civil n).1 < 1 := by
  obtain ⟨era, p, rest, rfl, hrest⟩ := exists_place n
  have hyear := p.year_le
  rw [civil_place era p hrest]
  unfold placeOrdinal at h
  show 400 * era + (p.year : Int) < 1
  omega

/-! ## Dates -/

namespace Date

/-- The number of a date in its year, from zero. -/
def dayOfYear (d : Date) : Nat := daysBeforeMonth d.year d.month + (d.day - 1)

theorem ordinal_eq (d : Date) : d.ordinal = daysBeforeYear d.year + d.dayOfYear + 1 := by
  have hday := d.day_range.1
  unfold ordinal dayOfYear
  omega

theorem day_lt (d : Date) : d.day - 1 < (monthLengths (isLeap d.year)).getD (d.month - 1) 0 := by
  have hday := d.day_range
  rw [daysInMonth_eq d.month_range.1] at hday
  omega

theorem dayOfYear_lt (d : Date) : d.dayOfYear < 365 + (isLeap d.year).toNat := by
  have hmonth : d.month - 1 < 12 := by
    have hrange := d.month_range
    omega
  have hall : (monthLengths (isLeap d.year)).take 12 = monthLengths (isLeap d.year) := by
    cases isLeap d.year <;> rfl
  have hbefore := sum_take_add_lt hmonth d.day_lt
  rw [hall, sum_monthLengths] at hbefore
  rwa [dayOfYear, daysBeforeMonth_eq]

/-- The day number of a date is taken apart into its parts. -/
theorem civil_ordinal (d : Date) : civil d.ordinal = ((d.year : Int), d.month, d.day) := by
  obtain ⟨era, p, hyear⟩ := YearPlace.exists_eq d.year_range.1
  have hplace : (d.ordinal : Int) = placeOrdinal era p d.dayOfYear := by
    have hbefore := p.daysBeforeYear_eq era
    have hordinal := d.ordinal_eq
    rw [← hyear] at hbefore
    unfold placeOrdinal
    omega
  have hleap : isLeap p.year = isLeap d.year := by rw [hyear, p.isLeap_era]
  have hday := d.dayOfYear_lt
  have hmonth := d.month_range.1
  have hfirst := d.day_range.1
  rw [← hleap] at hday
  rw [hplace, civil_place era p hday, hleap, dayOfYear, daysBeforeMonth_eq,
    monthOf_place 1 d.day_lt, Nat.add_sub_cancel' hmonth, Nat.sub_add_cancel hfirst, hyear]
  push_cast
  rfl

theorem ofParts?_parts (d : Date) : ofParts? d.year d.month d.day = some d := by
  rw [ofParts?, dif_pos d.year_range, dif_pos d.month_range, dif_pos d.day_range]

/-- A date is found by its day number. -/
theorem ofOrdinal?_ordinal (d : Date) : ofOrdinal? d.ordinal = some d := by
  have hyear := d.year_range.1
  rw [ofOrdinal?, d.civil_ordinal]
  dsimp only
  rw [if_neg (by omega), Int.toNat_natCast, ofParts?_parts]

theorem ordinal_pos (d : Date) : 1 ≤ d.ordinal := by
  rw [ordinal_eq]
  omega

/-- A date lies before the next year. -/
theorem ordinal_le (d : Date) : d.ordinal ≤ daysBeforeYear (d.year + 1) := by
  have hday := d.dayOfYear_lt
  rw [ordinal_eq, daysBeforeYear_succ d.year_range.1]
  omega

/-- The dates have the day numbers from 1 to 3652059. -/
theorem exists_ordinal_iff (n : Int) :
    (∃ d : Date, (d.ordinal : Int) = n) ↔ 1 ≤ n ∧ n ≤ 3652059 := by
  constructor
  · rintro ⟨d, rfl⟩
    have hlow := d.ordinal_pos
    have hhigh := d.ordinal_le
    have hlast : daysBeforeYear (d.year + 1) ≤ daysBeforeYear 10000 :=
      daysBeforeYear_mono (Nat.le_add_left 1 _) (Nat.succ_le_succ d.year_range.2)
    have hdays : daysBeforeYear 10000 = 3652059 := rfl
    omega
  · rintro ⟨hlow, hhigh⟩
    obtain ⟨year, month, day, -, hyear, hmonth, hday, rfl⟩ := exists_civil hlow
    have hlast : year ≤ 9999 := by
      by_contra hlate
      have hbefore : daysBeforeYear 10000 ≤ daysBeforeYear year :=
        daysBeforeYear_mono (by decide) (by omega)
      have hdays : daysBeforeYear 10000 = 3652059 := rfl
      omega
    exact ⟨⟨year, month, day, ⟨hyear, hlast⟩, hmonth, hday⟩, rfl⟩

/-- The dates are the days whose year is one of 1 to 9999. -/
theorem exists_ordinal_iff_year (n : Int) :
    (∃ d : Date, (d.ordinal : Int) = n) ↔ 1 ≤ (civil n).1 ∧ (civil n).1 ≤ 9999 := by
  constructor
  · rintro ⟨d, rfl⟩
    rw [d.civil_ordinal]
    exact ⟨Int.ofNat_le.2 d.year_range.1, Int.ofNat_le.2 d.year_range.2⟩
  · rintro ⟨hlow, hhigh⟩
    have hpositive : 1 ≤ n := by
      by_contra hearly
      have hyear := civil_year_lt (Int.not_le.1 hearly)
      omega
    obtain ⟨year, month, day, hcivil, hyear, hmonth, hday, rfl⟩ := exists_civil hpositive
    rw [hcivil] at hhigh
    exact ⟨⟨year, month, day, ⟨hyear, Int.ofNat_le.1 hhigh⟩, hmonth, hday⟩, rfl⟩

/-- What is found by a day number has that number. -/
theorem ordinal_of_ofOrdinal? {n : Int} {d : Date} (h : ofOrdinal? n = some d) :
    (d.ordinal : Int) = n := by
  have hpositive : 1 ≤ n := by
    by_contra hearly
    have hyear := civil_year_lt (Int.not_le.1 hearly)
    rw [ofOrdinal?] at h
    dsimp only at h
    rw [if_pos hyear] at h
    cases h
  obtain ⟨year, month, day, hcivil, -, hmonth, hday, hn⟩ := exists_civil hpositive
  rw [ofOrdinal?, hcivil] at h
  dsimp only at h
  split at h
  · cases h
  · rw [Int.toNat_natCast] at h
    by_cases hyear : 1 ≤ year ∧ year ≤ 9999
    · rw [ofParts?, dif_pos hyear, dif_pos hmonth, dif_pos hday] at h
      cases h
      exact hn.symm
    · rw [ofParts?, dif_neg hyear] at h
      cases h

/-- A date is found exactly by its day number. -/
theorem ofOrdinal?_eq_some {n : Int} {d : Date} :
    ofOrdinal? n = some d ↔ (d.ordinal : Int) = n := by
  constructor
  · exact ordinal_of_ofOrdinal?
  · rintro rfl
    exact d.ofOrdinal?_ordinal

/-- There is no date with a day number outside the years 1 to 9999. -/
theorem ofOrdinal?_eq_none {n : Int} :
    ofOrdinal? n = none ↔ ¬(1 ≤ (civil n).1 ∧ (civil n).1 ≤ 9999) := by
  rw [← exists_ordinal_iff_year, Option.eq_none_iff_forall_ne_some]
  simp only [ne_eq, ofOrdinal?_eq_some, not_exists]

/-- The parts of a date, from the year down. -/
def parts (d : Date) : List Nat := [d.year, d.month, d.day]

theorem parts_injective {a b : Date} (h : a.parts = b.parts) : a = b := by
  cases a
  cases b
  simp only [parts, List.cons.injEq, and_true] at h
  obtain ⟨rfl, rfl, rfl⟩ := h
  rfl

/-- Dates are numbered in the order of years, months and days. -/
theorem ordinal_lt_of_parts_lt {a b : Date} (h : a.parts < b.parts) : a.ordinal < b.ordinal := by
  simp only [parts, List.cons_lt_cons_iff, List.not_lt_nil, and_false, or_false] at h
  rcases h with hyear | ⟨hyear, hmonth | ⟨hmonth, hday⟩⟩
  · have hend := a.ordinal_le
    have hnext : daysBeforeYear (a.year + 1) ≤ daysBeforeYear b.year :=
      daysBeforeYear_mono (Nat.le_add_left 1 _) hyear
    rw [b.ordinal_eq]
    omega
  · have hearlier : a.month - 1 < b.month - 1 := by
      have hfirst := a.month_range.1
      omega
    have hbefore := sum_take_add_lt hearlier a.day_lt
    rw [a.ordinal_eq, b.ordinal_eq, dayOfYear, dayOfYear, daysBeforeMonth_eq,
      daysBeforeMonth_eq, ← hyear]
    omega
  · unfold ordinal
    rw [hyear, hmonth]
    omega

end Date

end DocumentStore.Calendar
