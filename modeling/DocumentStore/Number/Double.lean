/-!
# Binary64 numbers

A finite number is kept as sign, significand and exponent, so its exact value is a ratio of integers
and every operation is integer arithmetic followed by one rounding. `Double.round` is that rounding:
to the nearest number, a tie to the even significand, with gradual underflow and overflow to
infinity.
-/

set_option autoImplicit false

namespace DocumentStore

/-- A binary64 number; a finite one is `significand * 2 ^ exponent` with its sign. -/
inductive Double where
  | nan
  | infinite (negative : Bool)
  | finite (negative : Bool) (significand : Nat) (exponent : Int)
deriving DecidableEq, Repr

namespace Double

/-! ## Rounding a ratio -/

/-- The least exponent of a finite number. -/
def minExponent : Int := -1074

/-- The greatest exponent of a finite number. -/
def maxExponent : Int := 971

/-- A quotient rounded to the nearest integer, a tie to the even one. -/
def roundQuotient (num den : Nat) : Nat :=
  let q := num / den
  let r := num % den
  if 2 * r < den then q
  else if den < 2 * r then q + 1
  else if q % 2 = 0 then q else q + 1

/-- The ratio divided by a power of two, as numerator and denominator. -/
def scaled (num den : Nat) (exponent : Int) : Nat × Nat :=
  (num * Nat.pow 2 (-exponent).toNat, den * Nat.pow 2 exponent.toNat)

/-- The exponent at which a positive ratio has an integral part of 53 bits. -/
def ratioExponent (num den : Nat) : Int :=
  let e := (num.log2 : Int) - (den.log2 : Int) - 53
  let (n, d) := scaled num den e
  if Nat.pow 2 53 ≤ n / d then e + 1 else e

/-- A finite number from a rounded significand, which may have carried into a further bit. -/
def carry (negative : Bool) (significand : Nat) (exponent : Int) : Double :=
  let (m, e) :=
    if significand = Nat.pow 2 53 then (Nat.pow 2 52, exponent + 1) else (significand, exponent)
  if maxExponent < e then .infinite negative else .finite negative m e

/-- The number nearest to a ratio with a positive denominator. -/
def round (negative : Bool) (num den : Nat) : Double :=
  if num = 0 then .finite negative 0 minExponent
  else
    let e := max minExponent (ratioExponent num den)
    let (n, d) := scaled num den e
    carry negative (roundQuotient n d) e

/-- The number nearest to a signed ratio. -/
def ofRatio (num : Int) (den : Nat) : Double := round (num < 0) num.natAbs den

/-- The positive zero. -/
def zero : Double := .finite false 0 minExponent

/-- The number nearest to an integer, unless it is beyond the finite numbers. -/
def ofInt? (n : Int) : Option Double :=
  match ofRatio n 1 with
  | .infinite _ => none
  | x => some x

/-- The number nearest to `digits * 10 ^ exponent`. -/
def ofDecimal (negative : Bool) (digits : Nat) (exponent : Int) : Double :=
  let magnitude := (Nat.toDigits 10 digits).length + exponent
  if digits = 0 then .finite negative 0 minExponent
  else if 309 < magnitude then .infinite negative
  else if magnitude < -323 then .finite negative 0 minExponent
  else round negative (digits * Nat.pow 10 exponent.toNat) (Nat.pow 10 (-exponent).toNat)

/-! ## Exact values -/

/-- The exact value of a finite number, as numerator and denominator. -/
def ratio? : Double → Option (Int × Nat)
  | .finite negative m e =>
      let n : Int := (m * Nat.pow 2 e.toNat : Nat)
      some (if negative then -n else n, Nat.pow 2 (-e).toNat)
  | _ => none

/-- The sign bit. -/
def isNegative : Double → Bool
  | .nan => false
  | .infinite negative => negative
  | .finite negative _ _ => negative

/-- Either zero. -/
def isZero : Double → Bool
  | .finite _ 0 _ => true
  | _ => false

/-- The integral part, toward zero. -/
def truncate? (x : Double) : Option Int := x.ratio?.map fun r => Int.tdiv r.1 r.2

/-- The least integer that is not smaller. -/
def ceil? (x : Double) : Option Int := x.ratio?.map fun r => -(Int.fdiv (-r.1) r.2)

/-- The greatest integer that is not greater. -/
def floor? (x : Double) : Option Int := x.ratio?.map fun r => Int.fdiv r.1 r.2

/-- The order of two numbers, when there is one. -/
def compare? : Double → Double → Option Ordering
  | .nan, _ => none
  | _, .nan => none
  | .infinite a, .infinite b => some (compare b.toNat a.toNat)
  | .infinite a, .finite .. => some (if a then .lt else .gt)
  | .finite .., .infinite b => some (if b then .gt else .lt)
  | x@(.finite ..), y@(.finite ..) =>
      match x.ratio?, y.ratio? with
      | some (n, d), some (n', d') => some (compare (n * d') (n' * d))
      | _, _ => none

/-! ## Arithmetic -/

/-- The number with the opposite sign. -/
def neg : Double → Double
  | .nan => .nan
  | .infinite negative => .infinite !negative
  | .finite negative m e => .finite (!negative) m e

/-- The sum, rounded once. -/
def add : Double → Double → Double
  | .nan, _ => .nan
  | _, .nan => .nan
  | .infinite a, .infinite b => if a = b then .infinite a else .nan
  | .infinite a, .finite .. => .infinite a
  | .finite .., .infinite b => .infinite b
  | x@(.finite a ..), y@(.finite b ..) =>
      match x.ratio?, y.ratio? with
      | some (n, d), some (n', d') =>
          let s := n * d' + n' * d
          if s = 0 then .finite (a && b) 0 minExponent else ofRatio s (d * d')
      | _, _ => .nan

/-- The difference, rounded once. -/
def sub (x y : Double) : Double := add x y.neg

/-- The product, rounded once. -/
def mul : Double → Double → Double
  | .nan, _ => .nan
  | _, .nan => .nan
  | .infinite a, y => if y.isZero then .nan else .infinite (a != y.isNegative)
  | x, .infinite b => if x.isZero then .nan else .infinite (x.isNegative != b)
  | x@(.finite a ..), y@(.finite b ..) =>
      match x.ratio?, y.ratio? with
      | some (n, d), some (n', d') => round (a != b) (n * n').natAbs (d * d')
      | _, _ => .nan

/-- The quotient, rounded once. -/
def div : Double → Double → Double
  | .nan, _ => .nan
  | _, .nan => .nan
  | .infinite a, y =>
      match y with
      | .infinite _ => .nan
      | y => .infinite (a != y.isNegative)
  | x, .infinite b => .finite (x.isNegative != b) 0 minExponent
  | x@(.finite a ..), y@(.finite b ..) =>
      match x.ratio?, y.ratio? with
      | some (n, d), some (n', d') =>
          if n' = 0 then if n = 0 then .nan else .infinite (a != b)
          else round (a != b) (n.natAbs * d') (n'.natAbs * d)
      | _, _ => .nan

/-- The remainder of the division toward zero, with the sign of the dividend. -/
def remainder (x y : Double) : Double :=
  match x, y with
  | .finite .., .infinite _ => x
  | .finite a .., .finite .. =>
      match x.ratio?, y.ratio? with
      | some (n, d), some (n', d') =>
          if n' = 0 then .nan
          else round a (Int.tmod (n * d') (n' * d)).natAbs (d * d')
      | _, _ => .nan
  | _, _ => .nan

/-- The greatest integral number that is not greater. -/
def floor (x : Double) : Double :=
  match x with
  | .finite negative .. =>
      match x.floor? with
      | some n => round negative n.natAbs 1
      | none => x
  | x => x

/-- The quotient rounded down: the division is made exact by taking the remainder off first, and the
floor is raised by one when the rounded quotient lies more than a half above it. -/
def floorDiv (x y : Double) : Double :=
  let one : Double := ofRatio 1 1
  let half : Double := ofRatio 1 2
  let r := remainder x y
  let q := div (sub x r) y
  let q := if r.isZero then q
    else if (y.isNegative != (r.compare? zero == some .lt)) then sub q one else q
  if q.isZero then .finite (div x y).isNegative 0 minExponent
  else
    let f := floor q
    if (sub q f).compare? half == some .gt then add f one else f

end Double

end DocumentStore
