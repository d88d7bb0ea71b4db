import DocumentStore.Fault

/-!
# Arithmetic on values

Truth values count as 0 and 1. Integers stay exact under addition and floor division; a division of
integers gives the nearest binary64 number. As soon as one operand is a float, the other is
converted and the operation is one of binary64.
-/

set_option autoImplicit false

namespace DocumentStore

/-- A number of either kind. -/
inductive Number where
  | int (n : Int)
  | float (x : Double)
deriving DecidableEq, Repr

namespace Number

/-- A number as a value. -/
def toValue : Number → Value
  | .int n => .int n
  | .float x => .float x

/-- A number as binary64. -/
def toDouble : Number → Except Fault Double
  | .int n =>
    match Double.ofInt? n with
    | some x => .ok x
    | none => .error (.range .float)
  | .float x => .ok x

/-- The quotient of numbers, the divisor not being zero. -/
def divide (a b : Number) : Except Fault Double :=
  match a, b with
  | .int n, .int d =>
    match Double.ofRatio (if d < 0 then -n else n) d.natAbs with
    | .infinite _ => .error (.range .quotient)
    | x => .ok x
  | a, b => do return Double.div (← a.toDouble) (← b.toDouble)

/-- The quotient of numbers rounded down, the divisor not being zero. -/
def floorDivide (a b : Number) : Except Fault Number :=
  match a, b with
  | .int n, .int d => .ok (.int (Int.fdiv n d))
  | a, b => do return .float (Double.floorDiv (← a.toDouble) (← b.toDouble))

/-- The sum of a number and an integer that is small. -/
def plus (a : Number) (n : Int) : Number :=
  match a with
  | .int m => .int (m + n)
  | .float x => .float (Double.add x (.ofRatio n 1))

/-- Whether a number is less than an integer. -/
def lessThan (a : Number) (n : Int) : Bool :=
  match a with
  | .int m => m < n
  | .float .nan => false
  | .float (.infinite negative) => negative
  | .float x =>
    match x.ratio? with
    | some (m, d) => m < n * d
    | none => false

/-- Whether a number is greater than an integer. -/
def greaterThan (a : Number) (n : Int) : Bool :=
  match a with
  | .int m => n < m
  | .float .nan => false
  | .float (.infinite negative) => !negative
  | .float x =>
    match x.ratio? with
    | some (m, d) => n * d < m
    | none => false

end Number

namespace Value

/-- The number that a value is, if it is one. -/
def number? : Value → Option Number
  | .bool b => some (.int b.toNat)
  | .int n => some (.int n)
  | .float x => some (.float x)
  | _ => none

/-- The operands of an arithmetic operator. -/
def operands (operator : String) (a b : Value) : Except Fault (Number × Number) :=
  match a.number?, b.number? with
  | some x, some y => .ok (x, y)
  | _, _ => .error (.kind (.operands operator a.kind b.kind))

/-- The operand of a comparison with an integer. -/
def comparand (operator : String) (a : Value) : Except Fault Number :=
  match a.number? with
  | some x => .ok x
  | none => .error (.kind (.comparison operator a.kind .int))

end Value

namespace Double

/-- The least integer that is not smaller, of a finite number. -/
def ceiling (x : Double) : Except Fault Int :=
  match x.ceil? with
  | some n => .ok n
  | none => .error (if x = .nan then .value .nanInteger else .range .infiniteInteger)

end Double

end DocumentStore
