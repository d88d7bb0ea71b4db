import DocumentStore.Calendar.Moment
import DocumentStore.Text.Numeral

/-!
# Written dates and moments

The extended ISO format: `2024-01-31`, `T`, `09:30:00`, six digits of a fraction when there is one,
and the offset with seconds and fraction only as far as they are needed. In running text a space
stands for the `T`. `Date.literal` and `Moment.literal` are the forms inside the text of a compound
value.
-/

set_option autoImplicit false

namespace DocumentStore.Calendar

open Text.Numeral (padded)

/-- A date as year, month and day. -/
def Date.written (d : Date) : List Char :=
  padded 4 d.year ++ '-' :: padded 2 d.month ++ '-' :: padded 2 d.day

/-- A fraction of a second, when there is one. -/
def fractionWritten (micros : Nat) : List Char :=
  if micros = 0 then [] else '.' :: padded 6 micros

/-- A time of day. -/
def Clock.written (c : Clock) : List Char :=
  padded 2 c.hour ++ ':' :: padded 2 c.minute ++ ':' :: padded 2 c.second ++
    fractionWritten c.microsecond

/-- An offset: sign, hours, minutes, and seconds and fraction when they are not zero. -/
def Offset.written (o : Offset) : List Char :=
  let n := o.micros.natAbs
  let seconds := n / 1000000
  (if o.micros < 0 then '-' else '+') :: padded 2 (seconds / 3600) ++
    ':' :: padded 2 (seconds / 60 % 60) ++
    (if n % 60000000 = 0 then []
     else ':' :: padded 2 (seconds % 60) ++ fractionWritten (n % 1000000))

/-- A moment with a separator between date and time. -/
def Moment.written (m : Moment) (separator : Char) : List Char :=
  m.date.written ++ separator :: m.clock.written ++
    (match m.offset with | some o => o.written | none => [])

/-- A date in ISO format. -/
def Date.iso (d : Date) : String := String.ofList d.written

/-- A moment in ISO format. -/
def Moment.iso (m : Moment) : String := String.ofList (m.written 'T')

/-! ## Literal forms -/

/-- Numbers with commas between them. -/
def numberList (ns : List Nat) : List Char :=
  List.intercalate [',', ' '] (ns.map Text.Numeral.ofNat)

/-- The literal form of a date. -/
def Date.literal (d : Date) : List Char :=
  "datetime.date(".toList ++ numberList [d.year, d.month, d.day] ++ [')']

/-- The literal form of a span of less than a day either way: days, seconds and microseconds, the
last two never negative, parts that are zero left out. -/
def spanLiteral (micros : Int) : List Char :=
  let days := micros / dayLength
  let rest := (micros % dayLength).toNat
  let part (label : String) (n : Int) : List (List Char) :=
    if n = 0 then [] else [label.toList ++ '=' :: Text.Numeral.ofInt n]
  "datetime.timedelta(".toList ++
    List.intercalate [',', ' ']
      (part "days" days ++ part "seconds" (rest / 1000000 : Nat) ++
        part "microseconds" (rest % 1000000 : Nat)) ++ [')']

/-- The literal form of an offset. -/
def Offset.literal (o : Offset) : List Char :=
  if o.micros = 0 then "datetime.timezone.utc".toList
  else "datetime.timezone(".toList ++ spanLiteral o.micros ++ [')']

/-- The literal form of a moment: seconds and microseconds only as far as they are needed. -/
def Moment.literal (m : Moment) : List Char :=
  let c := m.clock
  let fine := if c.microsecond ≠ 0 then [c.second, c.microsecond]
    else if c.second ≠ 0 then [c.second] else []
  "datetime.datetime(".toList ++
    numberList ([m.date.year, m.date.month, m.date.day, c.hour, c.minute] ++ fine) ++
    (match m.offset with
     | some o => ", tzinfo=".toList ++ o.literal
     | none => []) ++ [')']

end DocumentStore.Calendar
