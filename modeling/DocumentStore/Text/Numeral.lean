import DocumentStore.Text.Blank
import DocumentStore.Text.Digit

/-!
# Integer numerals

`ofInt` writes an integer in decimal. `readInt` reads one: white space around it, one sign, decimal
digits of any script with single underscores between them. A numeral of more than `maxDigits` digits
is neither read nor written, so that both stay cheap: `isShort` tells which integers have one.
-/

set_option autoImplicit false

namespace DocumentStore.Text.Numeral

/-- The most digits a numeral may have to be read or written. -/
def maxDigits : Nat := 4300

/-- Why a text is not read as an integer. -/
inductive Problem where
  | malformed
  | tooLong (digits : Nat)
deriving DecidableEq, Repr

/-- A natural number in decimal. -/
def ofNat (n : Nat) : List Char := Nat.toDigits 10 n

/-- An integer in decimal, with a minus sign when it is negative. -/
def ofInt : Int → List Char
  | .ofNat n => ofNat n
  | .negSucc n => '-' :: ofNat (n + 1)

/-- Whether an integer has no more digits than a numeral may have. -/
def isShort (n : Int) : Bool := (ofNat n.natAbs).length ≤ maxDigits

/-- The decimal text of an integer. -/
def text (n : Int) : String := String.ofList (ofInt n)

/-- A natural number in decimal, padded with zeros on the left to a width. -/
def padded (width n : Nat) : List Char :=
  List.replicate (width - (ofNat n).length) '0' ++ ofNat n

/-- The number that decimal digits denote, most significant first. -/
def value (digits : List Nat) : Nat := digits.foldl (fun acc d => 10 * acc + d) 0

/-- Decimal digits with single underscores between them. -/
def digitRun : List Char → Option (List Nat)
  | [] => none
  | [c] => (Text.decimalDigit? c).map ([·])
  | c :: '_' :: rest => do
      let d ← Text.decimalDigit? c
      let ds ← digitRun rest
      return d :: ds
  | c :: rest => do
      let d ← Text.decimalDigit? c
      let ds ← digitRun rest
      return d :: ds

/-- A sign, taken off a text: whether it was a minus, and the rest. -/
def takeSign : List Char → Bool × List Char
  | '-' :: rest => (true, rest)
  | '+' :: rest => (false, rest)
  | cs => (false, cs)

/-- Gives a magnitude its sign. -/
def withSign (negative : Bool) (n : Nat) : Int := if negative then -(n : Int) else n

/-- Reads an integer numeral. -/
def readInt (cs : List Char) : Except Problem Int :=
  let (negative, body) := takeSign (Text.strip Text.isSpace cs)
  match digitRun body with
  | none => .error .malformed
  | some digits =>
    if digits.length > maxDigits then .error (.tooLong digits.length)
    else .ok (withSign negative (value digits))

end DocumentStore.Text.Numeral
