import DocumentStore.Calendar.Moment
import DocumentStore.Text.Digit

/-!
# Reading dates and moments

`Moment.read?` accepts the basic and the extended ISO format. The date is a calendar date or a week
date; one character of any kind separates it from the time, which is hours, minutes and seconds with
or without colons, a fraction of the seconds behind a point or a comma, and an offset of the same
shape or `Z`. Where the date ends is decided by `dateLength?` before anything is read.
-/

set_option autoImplicit false

namespace DocumentStore.Calendar

open Text (asciiDigit?)

/-! ## Digits -/

/-- The number that a text of digits 0 to 9 denotes, if it holds nothing else. -/
def digitsValue? : List Char → Nat → Option Nat
  | [], acc => some acc
  | c :: cs, acc => (asciiDigit? c).bind fun d => digitsValue? cs (10 * acc + d)

/-- A number of exactly `n` digits at the start of a text, and the rest. -/
def takeNumber? (n : Nat) (cs : List Char) : Option (Nat × List Char) :=
  if cs.length < n then none
  else (digitsValue? (cs.take n) 0).map fun v => (v, cs.drop n)

/-- The microseconds of a fraction: its first six digits, padded with zeros. -/
def fraction? (cs : List Char) : Option Nat :=
  if cs.isEmpty || !cs.all (fun c => (asciiDigit? c).isSome) then none
  else digitsValue? ((cs ++ List.replicate 6 '0').take 6) 0

/-! ## Date -/

/-- A character of a text, a NUL when there is none. -/
def charAt (cs : List Char) (i : Nat) : Char := cs.getD i '\x00'

/-- How many characters of a text are its date. After a week without separators a run of digits
decides: an odd number of them begins with the day of the week. -/
def dateLength? (cs : List Char) : Option Nat :=
  let n := cs.length
  if n < 7 then none
  else if n = 7 then some 7
  else if charAt cs 4 = '-' then
    if charAt cs 5 = 'W' then
      if 8 < n ∧ charAt cs 8 = '-' then
        if n = 9 then none
        else if 10 < n ∧ (asciiDigit? (charAt cs 10)).isSome then some 8
        else some 10
      else some 8
    else some 10
  else if charAt cs 4 = 'W' then
    let run := ((cs.drop 7).takeWhile fun c => (asciiDigit? c).isSome).length
    if run < 2 then some (7 + run)
    else if run % 2 = 0 then some 8 else some 7
  else some 8

/-- A week, and the day of the week when more follows. -/
def weekDate? (year : Nat) (separated : Bool) (cs : List Char) : Option Date := do
  let (week, rest) ← takeNumber? 2 cs
  match rest with
  | [] => Date.ofWeek? year week 1
  | c :: digits =>
    if separated then
      if c = '-' then
        let (day, rest) ← takeNumber? 1 digits
        if rest.isEmpty then Date.ofWeek? year week day else none
      else none
    else
      let (day, rest) ← takeNumber? 1 (c :: digits)
      if rest.isEmpty then Date.ofWeek? year week day else none

/-- A month and a day. -/
def monthDate? (year : Nat) (separated : Bool) (cs : List Char) : Option Date := do
  let (month, rest) ← takeNumber? 2 cs
  let rest ← if separated then
      match rest with
      | '-' :: rest => some rest
      | _ => none
    else some rest
  let (day, rest) ← takeNumber? 2 rest
  if rest.isEmpty then Date.ofParts? year month day else none

/-- A whole text as a date. -/
def Date.read? (cs : List Char) : Option Date := do
  let (year, rest) ← takeNumber? 4 cs
  match rest with
  | '-' :: 'W' :: rest => weekDate? year true rest
  | 'W' :: rest => weekDate? year false rest
  | '-' :: rest => monthDate? year true rest
  | rest => monthDate? year false rest

/-! ## Time -/

/-- Hours, minutes, seconds and microseconds, not yet checked against their ranges. -/
structure Reading where
  hour : Nat
  minute : Nat
  second : Nat
  microsecond : Nat

/-- The seconds of a time and their fraction. -/
def readSeconds? (hour minute : Nat) (cs : List Char) : Option Reading := do
  let (second, rest) ← takeNumber? 2 cs
  match rest with
  | [] => some ⟨hour, minute, second, 0⟩
  | c :: rest =>
    if c = '.' ∨ c = ',' then (fraction? rest).map (⟨hour, minute, second, ·⟩) else none

/-- A whole text as hours, or hours and minutes, or hours, minutes and seconds. -/
def Reading.read? (cs : List Char) : Option Reading := do
  let (hour, rest) ← takeNumber? 2 cs
  match rest with
  | [] => some ⟨hour, 0, 0, 0⟩
  | ':' :: rest =>
    let (minute, rest) ← takeNumber? 2 rest
    match rest with
    | [] => some ⟨hour, minute, 0, 0⟩
    | ':' :: rest => readSeconds? hour minute rest
    | _ => none
  | rest =>
    let (minute, rest) ← takeNumber? 2 rest
    match rest with
    | [] => some ⟨hour, minute, 0, 0⟩
    | rest => readSeconds? hour minute rest

/-- The time of day a reading gives, if its parts are in range. -/
def Reading.clock? (r : Reading) : Option Clock :=
  Clock.ofParts? r.hour r.minute r.second r.microsecond

/-- The offset a reading gives. Minutes and seconds may exceed 59; an offset without whole seconds
is UTC. -/
def Reading.offset? (r : Reading) (negative : Bool) : Option Offset :=
  let seconds := r.hour * 3600 + r.minute * 60 + r.second
  if seconds = 0 then some Offset.utc
  else
    let n : Int := (seconds * 1000000 + r.microsecond : Nat)
    Offset.ofMicros? (if negative then -n else n)

/-- Whether a character begins an offset. -/
def beginsOffset (c : Char) : Bool := c = '+' || c = '-' || c = 'Z'

/-- A time with an optional offset. -/
def readTime? (cs : List Char) : Option (Clock × Option Offset) := do
  let reading ← Reading.read? (cs.takeWhile fun c => !beginsOffset c)
  let clock ← reading.clock?
  match cs.dropWhile fun c => !beginsOffset c with
  | [] => some (clock, none)
  | 'Z' :: rest => if rest.isEmpty then some (clock, some Offset.utc) else none
  | sign :: rest =>
    let reading ← Reading.read? rest
    let offset ← reading.offset? (sign = '-')
    some (clock, some offset)

/-- A whole text as a moment. A date alone is its midnight. -/
def Moment.read? (cs : List Char) : Option Moment := do
  let n ← dateLength? cs
  let date ← Date.read? (cs.take n)
  match cs.drop n with
  | [] => some (Moment.ofDate date)
  | _ :: time =>
    let (clock, offset) ← readTime? time
    some ⟨date, clock, offset⟩

end DocumentStore.Calendar
