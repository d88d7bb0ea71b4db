/-!
# Dates

Dates of the proleptic Gregorian calendar, years 1 to 9999. `Date.ordinal` numbers the days from
0001-01-01, which is day 1; `civil` finds year, month and day of any day number, also outside that
range of years, and `Date.ofOrdinal?` is its restriction to dates.
-/

set_option autoImplicit false

namespace DocumentStore.Calendar

/-- Leap years of the Gregorian calendar. -/
def isLeap (year : Nat) : Bool := year % 4 = 0 && (year % 100 ≠ 0 || year % 400 = 0)

/-- The lengths of the months, from January. -/
def monthLengths (leap : Bool) : List Nat :=
  [31, if leap then 29 else 28, 31, 30, 31, 30, 31, 31, 30, 31, 30, 31]

/-- The length of a month, 0 when there is no such month. -/
def daysInMonth (year month : Nat) : Nat :=
  if month = 0 then 0 else (monthLengths (isLeap year)).getD (month - 1) 0

/-- A date of the years 1 to 9999. -/
structure Date where
  year : Nat
  month : Nat
  day : Nat
  year_range : 1 ≤ year ∧ year ≤ 9999
  month_range : 1 ≤ month ∧ month ≤ 12
  day_range : 1 ≤ day ∧ day ≤ daysInMonth year month
deriving DecidableEq, Repr

/-- The date with these parts, if there is one. -/
def Date.ofParts? (year month day : Nat) : Option Date :=
  if hy : 1 ≤ year ∧ year ≤ 9999 then
    if hm : 1 ≤ month ∧ month ≤ 12 then
      if hd : 1 ≤ day ∧ day ≤ daysInMonth year month then some ⟨year, month, day, hy, hm, hd⟩
      else none
    else none
  else none

/-! ## Day numbers -/

/-- The number of days before a year, counted from year 1. -/
def daysBeforeYear (year : Nat) : Nat :=
  let y := year - 1
  365 * y + y / 4 - y / 100 + y / 400

/-- The number of days of a year before a month. -/
def daysBeforeMonth (year month : Nat) : Nat :=
  ((monthLengths (isLeap year)).take (month - 1)).foldl (· + ·) 0

/-- The day number, 1 for 0001-01-01. -/
def Date.ordinal (d : Date) : Nat :=
  daysBeforeYear d.year + daysBeforeMonth d.year d.month + d.day

/-- Month and day of a day of the year, both from the given month on. -/
def monthOf : List Nat → Nat → Nat → Nat × Nat
  | [], month, rest => (month, rest + 1)
  | length :: lengths, month, rest =>
    if rest < length then (month, rest + 1) else monthOf lengths (month + 1) (rest - length)

/-- Year, month and day of a day number. -/
def civil (ordinal : Int) : Int × Nat × Nat :=
  let n := ordinal - 1
  let era := n / 146097
  let r := (n % 146097).toNat
  let century := min 3 (r / 36524)
  let r := r - century * 36524
  let cycle := r / 1461
  let r := r % 1461
  let single := min 3 (r / 365)
  let dayOfYear := r - single * 365
  let inEra := 100 * century + 4 * cycle + single + 1
  let (month, day) := monthOf (monthLengths (isLeap inEra)) 1 dayOfYear
  (400 * era + inEra, month, day)

/-- The date with a day number, if it is in the range of years. -/
def Date.ofOrdinal? (ordinal : Int) : Option Date :=
  let (year, month, day) := civil ordinal
  if year < 1 then none else Date.ofParts? year.toNat month day

/-! ## Weeks -/

/-- The day number of the Monday of the first week of a year: the week that holds its first
Thursday. -/
def firstMonday (year : Nat) : Nat :=
  let first := daysBeforeYear year + 1
  let weekday := (first + 6) % 7
  if 3 < weekday then first + 7 - weekday else first - weekday

/-- Whether the weeks of a year are 53: the years that begin on a Thursday, and the leap years that
begin on a Wednesday. -/
def hasLongWeeks (year : Nat) : Bool :=
  let weekday := (daysBeforeYear year + 7) % 7
  weekday = 3 || (weekday = 2 && isLeap year)

/-- The date of a year, week and day of the week, if there is one. -/
def Date.ofWeek? (year week day : Nat) : Option Date :=
  if 1 ≤ year ∧ year ≤ 9999 ∧ 1 ≤ week ∧ week ≤ (if hasLongWeeks year then 53 else 52) ∧
      1 ≤ day ∧ day ≤ 7 then
    Date.ofOrdinal? (firstMonday year + (week - 1) * 7 + (day - 1) : Nat)
  else none

end DocumentStore.Calendar
