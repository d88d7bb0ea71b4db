import DocumentStore.Value.Basic

/-!
# Reading JSON

`Json.read?` reads a whole text as one value: strict JSON, with `NaN`, `Infinity` and `-Infinity` as
further numbers. A surrogate escape without a partner makes a torn text. A number with a fraction or
an exponent is a float, any other an integer of at most `Numeral.maxDigits` digits. Of equal keys
the first gives the place and the last the value. The limit on the digits is a parameter of the
readers below it.

The readers take a text and give what they read with the rest of the text. `fuel` bounds their
nesting and is computed from the length of the text, each step taking at least one character.
-/

set_option autoImplicit false

namespace DocumentStore.Json

open Text (asciiDigit? hexValue?)

/-! ## Strings -/

/-- The code points of units: surrogate pairs are joined, other surrogates stay alone. -/
def joinUnits : List Nat → List Text.Point
  | [] => []
  | [n] => [.ofCode n]
  | n :: m :: rest =>
    if 0xD800 ≤ n ∧ n < 0xDC00 ∧ 0xDC00 ≤ m ∧ m < 0xE000 then
      .ofCode (0x10000 + (n - 0xD800) * 0x400 + (m - 0xDC00)) :: joinUnits rest
    else .ofCode n :: joinUnits (m :: rest)

/-- The character behind a backslash, other than `u`. -/
def shortEscape? (c : Char) : Option Nat :=
  if c = '"' ∨ c = '\\' ∨ c = '/' then some c.toNat
  else if c = 'b' then some 8
  else if c = 'f' then some 12
  else if c = 'n' then some 10
  else if c = 'r' then some 13
  else if c = 't' then some 9
  else none

/-- The number of four hexadecimal digits. -/
def unit? (a b c d : Char) : Option Nat := do
  let a ← hexValue? a
  let b ← hexValue? b
  let c ← hexValue? c
  let d ← hexValue? d
  return ((a * 16 + b) * 16 + c) * 16 + d

/-- Puts a unit in front of what a reader gives. -/
def consUnit (n : Nat) (r : Option (List Nat × List Char)) : Option (List Nat × List Char) :=
  r.map fun p => (n :: p.1, p.2)

/-- The units of a string up to its closing quote. Characters below U+0020 are refused. -/
def units? : List Char → Option (List Nat × List Char)
  | [] => none
  | '"' :: rest => some ([], rest)
  | '\\' :: 'u' :: a :: b :: c :: d :: rest =>
    (unit? a b c d).bind fun n => consUnit n (units? rest)
  | '\\' :: e :: rest => (shortEscape? e).bind fun n => consUnit n (units? rest)
  | c :: rest => if c.toNat < 0x20 ∨ c = '\\' then none else consUnit c.toNat (units? rest)

/-- A string up to its closing quote. -/
def string? (cs : List Char) : Option (Value × List Char) :=
  (units? cs).map fun p => (.ofPoints (joinUnits p.1), p.2)

/-! ## Numbers -/

/-- The digits 0 to 9 at the start of a text. -/
def spanDigits : List Char → List Nat × List Char
  | [] => ([], [])
  | c :: cs =>
    match asciiDigit? c with
    | some d => let (ds, rest) := spanDigits cs; (d :: ds, rest)
    | none => ([], c :: cs)

/-- The integral digits: a lone zero, or digits that do not begin with one. -/
def integral? : List Char → Option (List Nat × List Char)
  | '0' :: rest => some ([0], rest)
  | cs =>
    match spanDigits cs with
    | ([], _) => none
    | (ds, rest) => some (ds, rest)

/-- A point and digits, if they are there. -/
def fraction : List Char → Option (List Nat) × List Char
  | '.' :: cs =>
    match spanDigits cs with
    | ([], _) => (none, '.' :: cs)
    | (ds, rest) => (some ds, rest)
  | cs => (none, cs)

/-- An exponent, if it is there. -/
def exponent : List Char → Option Int × List Char
  | e :: cs =>
    if e = 'e' ∨ e = 'E' then
      let (negative, digits) := Text.Numeral.takeSign cs
      match spanDigits digits with
      | ([], _) => (none, e :: cs)
      | (ds, rest) => (some (Text.Numeral.withSign negative (Text.Numeral.value ds)), rest)
    else (none, e :: cs)
  | [] => (none, [])

/-- A number behind its sign. -/
def number? (maxDigits : Nat) (negative : Bool) (cs : List Char) : Option (Value × List Char) := do
  let (whole, rest) ← integral? cs
  let (frac, rest) := fraction rest
  let (exp, rest) := exponent rest
  match frac, exp with
  | none, none =>
    if whole.length ≤ maxDigits then
      some (.int (Text.Numeral.withSign negative (Text.Numeral.value whole)), rest)
    else none
  | frac, exp =>
    let places := frac.getD []
    some (.float (Double.ofDecimal negative (Text.Numeral.value (whole ++ places))
      (exp.getD 0 - places.length)), rest)

/-! ## Values -/

/-- White space between tokens. -/
def isGap (c : Char) : Bool := c = ' ' || c = '\t' || c = '\n' || c = '\r'

/-- A text behind its leading white space. -/
def skip (cs : List Char) : List Char := cs.dropWhile isGap

/-- The rest of a text behind a word. -/
def word? (w : List Char) (cs : List Char) : Option (List Char) :=
  if w.isPrefixOf cs then some (cs.drop w.length) else none

/-- A number, a word or a string. -/
def scalar? (maxDigits : Nat) (cs : List Char) : Option (Value × List Char) :=
  match cs with
  | '"' :: rest => string? rest
  | '-' :: 'I' :: _ => (word? "-Infinity".toList cs).map fun rest => (.float (.infinite true), rest)
  | '-' :: rest => number? maxDigits true rest
  | 'n' :: _ => (word? "null".toList cs).map fun rest => (.null, rest)
  | 't' :: _ => (word? "true".toList cs).map fun rest => (.bool true, rest)
  | 'f' :: _ => (word? "false".toList cs).map fun rest => (.bool false, rest)
  | 'N' :: _ => (word? "NaN".toList cs).map fun rest => (.float .nan, rest)
  | 'I' :: _ => (word? "Infinity".toList cs).map fun rest => (.float (.infinite false), rest)
  | _ => number? maxDigits false cs

mutual

/-- A value at the start of a text. -/
def value? (maxDigits : Nat) : Nat → List Char → Option (Value × List Char)
  | 0, _ => none
  | fuel + 1, '[' :: cs =>
    match skip cs with
    | ']' :: rest => some (.list [], rest)
    | cs => (items? maxDigits fuel cs).map fun p => (.list p.1, p.2)
  | fuel + 1, '\x7b' :: cs =>
    match skip cs with
    | '\x7d' :: rest => some (.map [], rest)
    | cs => (entries? maxDigits fuel cs).map fun p => (.map (Entries.ofList p.1), p.2)
  | _ + 1, cs => scalar? maxDigits cs

/-- Items up to the closing bracket. -/
def items? (maxDigits : Nat) : Nat → List Char → Option (List Value × List Char)
  | 0, _ => none
  | fuel + 1, cs => do
    let (v, rest) ← value? maxDigits fuel cs
    match skip rest with
    | ',' :: rest =>
      let (vs, rest) ← items? maxDigits fuel (skip rest)
      some (v :: vs, rest)
    | ']' :: rest => some ([v], rest)
    | _ => none

/-- Entries up to the closing brace. -/
def entries? (maxDigits : Nat) : Nat → List Char → Option (List (Value × Value) × List Char)
  | 0, _ => none
  | fuel + 1, '"' :: cs => do
    let (key, rest) ← string? cs
    match skip rest with
    | ':' :: rest =>
      let (v, rest) ← value? maxDigits fuel (skip rest)
      match skip rest with
      | ',' :: rest =>
        let (es, rest) ← entries? maxDigits fuel (skip rest)
        some ((key, v) :: es, rest)
      | '\x7d' :: rest => some ([(key, v)], rest)
      | _ => none
    | _ => none
  | _ + 1, _ => none

end

/-- Reads a whole text as one value, integers being of at most `maxDigits` digits. -/
def readWithin? (maxDigits : Nat) (cs : List Char) : Option Value := do
  let (v, rest) ← value? maxDigits (2 * cs.length + 2) (skip cs)
  if (skip rest).isEmpty then some v else none

/-- Reads a whole text as one value. -/
def read? (cs : List Char) : Option Value := readWithin? Text.Numeral.maxDigits cs

end DocumentStore.Json
