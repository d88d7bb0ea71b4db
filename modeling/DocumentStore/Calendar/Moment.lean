import DocumentStore.Calendar.Date

/-!
# Moments

A moment is a date, a time of day to the microsecond and, optionally, an offset from UTC. `instant`
counts the microseconds from 1970-01-01T00:00:00 UTC, a moment without offset being taken as UTC;
`ofInstant?` is the moment without offset at a count, and `toUtc?` moves a moment there.
-/

set_option autoImplicit false

namespace DocumentStore.Calendar

/-- Microseconds in a second. -/
def second : Int := 1000000

/-- Microseconds in a day. -/
def dayLength : Int := 86400000000

/-- A time of day. -/
structure Clock where
  hour : Nat
  minute : Nat
  second : Nat
  microsecond : Nat
  hour_lt : hour < 24
  minute_lt : minute < 60
  second_lt : second < 60
  microsecond_lt : microsecond < 1000000
deriving DecidableEq, Repr

namespace Clock

/-- The time of day with these parts, if there is one. -/
def ofParts? (hour minute second microsecond : Nat) : Option Clock :=
  if h : hour < 24 ∧ minute < 60 ∧ second < 60 ∧ microsecond < 1000000 then
    some ⟨hour, minute, second, microsecond, h.1, h.2.1, h.2.2.1, h.2.2.2⟩
  else none

/-- The start of the day. -/
def midnight : Clock := ⟨0, 0, 0, 0, by decide, by decide, by decide, by decide⟩

/-- Microseconds since midnight. -/
def micros (c : Clock) : Nat := ((c.hour * 60 + c.minute) * 60 + c.second) * 1000000 + c.microsecond

/-- The time of day a number of microseconds after a midnight, whole days dropped. -/
def ofMicros (n : Nat) : Clock where
  hour := n / 3600000000 % 24
  minute := n / 60000000 % 60
  second := n / 1000000 % 60
  microsecond := n % 1000000
  hour_lt := Nat.mod_lt _ (by decide)
  minute_lt := Nat.mod_lt _ (by decide)
  second_lt := Nat.mod_lt _ (by decide)
  microsecond_lt := Nat.mod_lt _ (by decide)

end Clock

/-- A distance east of UTC in microseconds, less than a day. -/
structure Offset where
  micros : Int
  micros_range : -86400000000 < micros ∧ micros < 86400000000
deriving DecidableEq, Repr

namespace Offset

/-- The offset of a number of microseconds, if it is less than a day. -/
def ofMicros? (n : Int) : Option Offset :=
  if h : -86400000000 < n ∧ n < 86400000000 then some ⟨n, h⟩ else none

/-- No distance. -/
def utc : Offset := ⟨0, by decide⟩

end Offset

/-- A date and a time of day, perhaps with an offset from UTC. -/
structure Moment where
  date : Date
  clock : Clock
  offset : Option Offset
deriving DecidableEq, Repr

/-- The day number of 1970-01-01. -/
def epochDay : Int := 719163

namespace Moment

/-- Microseconds since 1970-01-01T00:00:00 UTC. -/
def instant (m : Moment) : Int :=
  ((m.date.ordinal : Int) - epochDay) * dayLength + m.clock.micros -
    (match m.offset with | some o => o.micros | none => 0)

/-- The moment without offset at an instant, if it is in the range of years. -/
def ofInstant? (n : Int) : Option Moment :=
  (Date.ofOrdinal? (n / dayLength + epochDay)).map fun date =>
    ⟨date, Clock.ofMicros (n % dayLength).toNat, none⟩

/-- The year in which an instant lies. -/
def yearOfInstant (n : Int) : Int := (civil (n / dayLength + epochDay)).1

/-- The same instant without offset, if it is in the range of years. -/
def toUtc? (m : Moment) : Option Moment :=
  match m.offset with
  | none => some m
  | some _ => ofInstant? m.instant

/-- The start of a day. -/
def ofDate (d : Date) : Moment := ⟨d, Clock.midnight, none⟩

/-- Two moments are the same time: with offsets when their instants are equal, without when their
parts are. A moment with an offset never equals one without. -/
def same (a b : Moment) : Bool :=
  match a.offset, b.offset with
  | none, none => a.date == b.date && a.clock == b.clock
  | some _, some _ => a.instant == b.instant
  | _, _ => false

end Moment

end DocumentStore.Calendar
