import DocumentStore.Calendar.Reader
import DocumentStore.Fault
import DocumentStore.Json.Bytes
import DocumentStore.Json.Writer

/-!
# Operands

How values become parameters. A timestamp column takes a moment without offset, in UTC:
`toTimestamp` reads one from epoch milliseconds, dates, moments and ISO texts, and `toEpochSeconds`
gives it as seconds. A DateTime field takes text, cast by the server (`toDateTimeText`). JSON
columns take JSON texts (`encodeJson`), and `decodeJson` reads them back, leaving alone what it
cannot read.
-/

set_option autoImplicit false

namespace DocumentStore

open Calendar (Moment)

namespace Timestamp

/-! ## Instants from numbers -/

/-- The microseconds of a fraction of a second: multiplied out with one rounding, then rounded to
the nearest integer, a tie to the even one. -/
def fractionMicros (x : Double) : Int :=
  match (Double.mul x (.ofRatio 1000000 1)).ratio? with
  | some (n, d) =>
    let q : Int := Double.roundQuotient n.natAbs d
    if n < 0 then -q else q
  | none => 0

/-- The microseconds of a number of seconds, within the range of a 64-bit count of seconds. -/
def microsOfSeconds (x : Double) : Except Fault Int :=
  match x with
  | .nan => .error (.value .nanTimestamp)
  | .infinite _ => .error (.range .clock)
  | x =>
    let whole := x.truncate?.getD 0
    let fraction := Double.sub x (.ofRatio whole 1)
    let micros := whole * 1000000 + fractionMicros fraction
    let seconds := micros / 1000000
    if -0x8000000000000000 ≤ seconds ∧ seconds < 0x8000000000000000 then .ok micros
    else .error (.range .clock)

/-- The moment of an instant that came from a number. -/
def ofMicros (micros : Int) : Except Fault Moment :=
  match Moment.ofInstant? micros with
  | some m => .ok m
  | none =>
    let year := Moment.yearOfInstant micros
    if -0x80000000 ≤ year - 1900 ∧ year - 1900 < 0x80000000 then .error (.value (.year year))
    else .error .calendar

/-- The moment of a number of seconds. -/
def ofSeconds (x : Double) : Except Fault Moment := (microsOfSeconds x).bind ofMicros

/-- The moment of an integral number of milliseconds. -/
def ofMillis (n : Int) : Except Fault Moment :=
  match Double.ofRatio n 1000 with
  | .infinite _ => .error (.range .quotient)
  | x => ofSeconds x

/-! ## Instants from texts -/

/-- A text as `Moment.read?` takes it: without surrounding blanks, a final `Z` written as an
offset. -/
def normalized (cs : List Char) : List Char :=
  let cs := Text.strip Text.isBlank cs
  match cs.reverse with
  | 'Z' :: rest => rest.reverse ++ "+00:00".toList
  | _ => cs

/-- The moment of an ISO text, which shows as `shown` when it is none. -/
def ofText (shown : String) (cs : List Char) : Except Fault Moment :=
  match Moment.read? (normalized cs) with
  | some m => .ok m
  | none => .error (.invalidQuery (.unreadableTimestamp shown))

/-- The same instant without offset. -/
def inUtc (m : Moment) : Except Fault Moment :=
  match m.toUtc? with
  | some m => .ok m
  | none => .error (.range .date)

end Timestamp

/-! ## Timestamps -/

/-- A value as a moment without offset, null as none. -/
def toTimestamp : Value → Except Fault (Option Moment)
  | .null => .ok none
  | .bool _ => .error (.invalidQuery .booleanTimestamp)
  | .int n => (Timestamp.ofMillis n).map some
  | .float x => (Timestamp.ofSeconds (Double.div x (.ofRatio 1000 1))).map some
  | .moment m => (Timestamp.inUtc m).map some
  | .date d => .ok (some (Moment.ofDate d))
  | .text s => do
    let m ← Timestamp.ofText s s.toList
    (Timestamp.inUtc m).map some
  | .torn t => do
    let m ← Timestamp.ofText t.shown t.standIn
    (Timestamp.inUtc m).map some
  | v => .error (.invalidQuery (.unsuitableTimestamp v.kind))

/-- A moment as a value, none as null. -/
def Value.ofMoment : Option Moment → Value
  | some m => .moment m
  | none => .null

/-- A value as epoch seconds, null as none. -/
def toEpochSeconds (v : Value) : Except Fault (Option Double) :=
  (toTimestamp v).map fun m => m.map fun m => Double.ofRatio m.instant 1000000

/-- A number as a value, none as null. -/
def Value.ofDouble : Option Double → Value
  | some x => .float x
  | none => .null

/-- A value as the text of a date or time, null as none. Dates and moments are written in ISO
format, other values as their plain text. -/
def toDateTimeText : Value → Except Fault (Option String)
  | .null => .ok none
  | .moment m => .ok (some m.iso)
  | .date d => .ok (some d.iso)
  | v => v.shown.map some

/-- A text as a value, none as null. -/
def Value.ofText : Option String → Value
  | some s => .text s
  | none => .null

/-! ## JSON columns -/

/-- A value as a JSON text, null as none. -/
def encodeJson : Value → Except Fault (Option String)
  | .null => .ok none
  | v => (Json.text v).map some

/-- The value of a JSON text; anything that is not one is left as it is. -/
def decodeJson : Value → Value
  | .text s => (Json.read? s.toList).getD (.text s)
  | .torn t => (Json.readPoints? t.points).getD (.torn t)
  | .bytes b => (Json.readBytes? b).getD (.bytes b)
  | v => v

end DocumentStore
