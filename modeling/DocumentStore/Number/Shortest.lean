import DocumentStore.Number.Double
import DocumentStore.Text.Numeral

/-!
# Shortest decimal text of a number

A finite number is written with the fewest digits that round back to it; among those the nearest to
its exact value, a tie to the even digit. The digits are laid out positionally for decimal exponents
from -4 to 15, with at least one digit after the point, and otherwise with a signed exponent of at
least two digits.
-/

set_option autoImplicit false

namespace DocumentStore

/-- The number `digits * 10 ^ exponent`. -/
structure Decimal where
  digits : Nat
  exponent : Int
deriving DecidableEq, Repr

namespace Double

/-! ## Selection of the digits -/

/-- The order of `a * 10 ^ i` and `n * 2 ^ j`. -/
def compareScaled (a : Nat) (i : Int) (n : Nat) (j : Int) : Ordering :=
  compare (a * Nat.pow 10 i.toNat * Nat.pow 2 (-j).toNat)
    (n * Nat.pow 2 j.toNat * Nat.pow 10 (-i).toNat)

/-- Whether a decimal lies among the reals that round to `m * 2 ^ e`. The gap below the least
significand of a binade is half as wide as the gap above, except at the least exponent. -/
def readsBack (m : Nat) (e : Int) (d : Decimal) : Bool :=
  let narrow := m = Nat.pow 2 52 ∧ minExponent < e
  let lower := compareScaled d.digits d.exponent (if narrow then 4 * m - 1 else 4 * m - 2) (e - 2)
  let upper := compareScaled d.digits d.exponent (4 * m + 2) (e - 2)
  let closed := m % 2 == 0
  (lower == .gt || (closed && lower == .eq)) && (upper == .lt || (closed && upper == .eq))

/-- The least `k` with `m * 2 ^ e < 10 ^ k`, for a positive significand. -/
def decimalMagnitude (m : Nat) (e : Int) : Int :=
  let guess := Int.fdiv (((m.log2 : Int) + e) * 30103) 100000
  match [guess - 1, guess, guess + 1].find? fun k => compareScaled 1 k m e == .gt with
  | some k => k
  | none => guess + 2

/-- The exact value divided by `10 ^ unit`, as numerator and denominator. -/
def gridRatio (m : Nat) (e unit : Int) : Nat × Nat :=
  (m * Nat.pow 2 e.toNat * Nat.pow 10 (-unit).toNat,
    Nat.pow 2 (-e).toNat * Nat.pow 10 unit.toNat)

/-- A decimal on the grid of multiples of `10 ^ unit` that reads back, the nearer of two, a tie to
the even one. -/
def onGrid? (m : Nat) (e unit : Int) : Option Decimal :=
  let (n, d) := gridRatio m e unit
  let low : Decimal := ⟨n / d, unit⟩
  let high : Decimal := ⟨n / d + 1, unit⟩
  match readsBack m e low, readsBack m e high with
  | true, true => some ⟨roundQuotient n d, unit⟩
  | true, false => some low
  | false, true => some high
  | false, false => none

/-- A decimal without trailing zeros in its digits; `fuel` bounds their number. -/
def dropZeros : Nat → Decimal → Decimal
  | 0, d => d
  | fuel + 1, d =>
    if d.digits ≠ 0 ∧ d.digits % 10 = 0 then dropZeros fuel ⟨d.digits / 10, d.exponent + 1⟩ else d

/-- The exact decimal value of `m * 2 ^ e`. -/
def exactDecimal (m : Nat) (e : Int) : Decimal :=
  ⟨m * Nat.pow 2 e.toNat * Nat.pow 5 (-e).toNat, min e 0⟩

/-- The shortest decimal of a positive significand and an exponent. -/
def shortest (m : Nat) (e : Int) : Decimal :=
  let k := decimalMagnitude m e
  let found :=
    ((List.range 17).findSome? fun (i : Nat) => onGrid? m e (k - (i + 1))).getD (exactDecimal m e)
  dropZeros 400 found

/-! ## Layout -/

/-- The exponent part of a number in exponent form. -/
def exponentText (e : Int) : List Char :=
  'e' :: (if e < 0 then '-' else '+') :: Text.Numeral.padded 2 e.natAbs

/-- The text of a positive decimal. -/
def layout (d : Decimal) : List Char :=
  let ds := Text.Numeral.ofNat d.digits
  let point : Int := ds.length + d.exponent
  if -4 < point ∧ point ≤ 16 then
    if point ≤ 0 then '0' :: '.' :: List.replicate (-point).toNat '0' ++ ds
    else if d.exponent < 0 then ds.take point.toNat ++ '.' :: ds.drop point.toNat
    else ds ++ List.replicate d.exponent.toNat '0' ++ ['.', '0']
  else
    match ds with
    | [c] => c :: exponentText (point - 1)
    | c :: rest => c :: '.' :: rest ++ exponentText (point - 1)
    | [] => []

/-- The text of a number. -/
def text : Double → String
  | .nan => "nan"
  | .infinite negative => if negative then "-inf" else "inf"
  | .finite negative m e =>
      let body := if m = 0 then ['0', '.', '0'] else layout (shortest m e)
      String.ofList (if negative then '-' :: body else body)

end Double

end DocumentStore
