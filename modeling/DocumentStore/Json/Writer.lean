import DocumentStore.Fault

/-!
# Writing JSON

`Json.write` renders a value as ASCII JSON: a comma and a space between items, a colon and a space
behind a key, every character that is not a visible ASCII one or a space as a short escape or as one
or two `\u` escapes. Numbers keep their text, with `NaN`, `Infinity` and `-Infinity` for the three
that have none in JSON. A value of another kind becomes a string of its plain text, or of what
`Json.writeWith` is told to put in its place. Scalar keys are written as text; a key of another kind
is a fault, and so is an integer of too many digits.
-/

set_option autoImplicit false

namespace DocumentStore.Json

/-! ## Strings -/

/-- One `\u` escape. -/
def unitEscape (n : Nat) : List Char := '\\' :: 'u' :: Text.hex 4 n

/-- One character inside a JSON string. -/
def escapeChar (c : Char) : List Char :=
  if c = '"' then ['\\', '"']
  else if c = '\\' then ['\\', '\\']
  else if c = '\n' then ['\\', 'n']
  else if c = '\r' then ['\\', 'r']
  else if c = '\t' then ['\\', 't']
  else if c = '\x08' then ['\\', 'b']
  else if c = '\x0c' then ['\\', 'f']
  else if 0x20 ≤ c.toNat ∧ c.toNat < 0x7F then [c]
  else if c.toNat < 0x10000 then unitEscape c.toNat
  else
    let n := c.toNat - 0x10000
    unitEscape (0xD800 + n / 0x400) ++ unitEscape (0xDC00 + n % 0x400)

/-- One code point inside a JSON string. -/
def escapePoint : Text.Point → List Char
  | .char c => escapeChar c
  | .lone offset => Text.Point.escape offset

/-- A JSON string. -/
def string (cs : List Char) : List Char := '"' :: cs.flatMap escapeChar ++ ['"']

/-- A torn text as a JSON string. -/
def tornString (t : Text.Torn) : List Char := '"' :: t.points.flatMap escapePoint ++ ['"']

/-! ## Values -/

/-- The text of a number. -/
def number : Double → List Char
  | .nan => "NaN".toList
  | .infinite negative => if negative then "-Infinity".toList else "Infinity".toList
  | x => x.text.toList

/-- A mapping key as a JSON string. -/
def key : Value → Except Fault (List Char)
  | .text s => .ok (string s.toList)
  | .torn t => .ok (tornString t)
  | .float x => .ok (string (number x))
  | .bool b => .ok (string (if b then "true".toList else "false".toList))
  | .null => .ok (string "null".toList)
  | .int n => (Value.int n).written (string (Text.Numeral.ofInt n))
  | v => .error (.kind (.jsonKey v.kind))

/-- Items between brackets. -/
def bracketed (opening closing : Char) (items : List (List Char)) : List Char :=
  opening :: List.intercalate [',', ' '] items ++ [closing]

mutual

/-- A value as JSON. `other` gives the words for a value that has no form in JSON. -/
def writeWith (other : Value → Except Fault String) : Value → Except Fault (List Char)
  | .null => .ok "null".toList
  | .bool b => .ok (if b then "true".toList else "false".toList)
  | .int n => (Value.int n).written (Text.Numeral.ofInt n)
  | .float x => .ok (number x)
  | .text s => .ok (string s.toList)
  | .torn t => .ok (tornString t)
  | .list xs => (writeItems other xs).map (bracketed '[' ']')
  | .tuple xs => (writeItems other xs).map (bracketed '[' ']')
  | .map es => (writeEntries other es).map (bracketed '\x7b' '\x7d')
  | v => (other v).map fun text => string text.toList

/-- Items as JSON. -/
def writeItems (other : Value → Except Fault String) : List Value → Except Fault (List (List Char))
  | [] => .ok []
  | x :: xs => do
    let head ← writeWith other x
    let tail ← writeItems other xs
    .ok (head :: tail)

/-- Entries as JSON. -/
def writeEntries (other : Value → Except Fault String) :
    List (Value × Value) → Except Fault (List (List Char))
  | [] => .ok []
  | (k, v) :: es => do
    let name ← key k
    let body ← writeWith other v
    let tail ← writeEntries other es
    .ok ((name ++ ':' :: ' ' :: body) :: tail)

end

/-- A value as JSON, its plain text standing for a value that has no form in JSON. -/
def write (v : Value) : Except Fault (List Char) := writeWith Value.shown v

/-- A value as a JSON text. -/
def text (v : Value) : Except Fault String := (write v).map String.ofList

end DocumentStore.Json
