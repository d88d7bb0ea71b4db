import DocumentStore.Text.Numeral
import DocumentStore.Text.Point
import DocumentStore.Text.Printable

/-!
# Quoted literals

The form in which a text or a byte string appears inside the text of a list, a mapping or another
compound value: between single quotes, or between double quotes when it holds a single quote and no
double one. Whatever cannot be shown is escaped.
-/

set_option autoImplicit false

namespace DocumentStore.Text

namespace Literal

/-- The quote for a text of which it is known whether it holds single and double quotes. -/
def quoteFor (hasSingle hasDouble : Bool) : Char :=
  if hasSingle && !hasDouble then '"' else '\''

/-- The escapes shared by texts and byte strings. -/
def shortEscape? (quote c : Char) : Option (List Char) :=
  if c = quote ∨ c = '\\' then some ['\\', c]
  else if c = '\n' then some ['\\', 'n']
  else if c = '\r' then some ['\\', 'r']
  else if c = '\t' then some ['\\', 't']
  else none

/-- One character of a quoted text. -/
def escapeChar (quote c : Char) : List Char :=
  match shortEscape? quote c with
  | some e => e
  | none =>
    if isPrintable c then [c]
    else if c.toNat < 0x100 then '\\' :: 'x' :: hex 2 c.toNat
    else if c.toNat < 0x10000 then '\\' :: 'u' :: hex 4 c.toNat
    else '\\' :: 'U' :: hex 8 c.toNat

/-- A quoted text. -/
def ofText (cs : List Char) : List Char :=
  let quote := quoteFor (cs.contains '\'') (cs.contains '"')
  quote :: cs.flatMap (escapeChar quote) ++ [quote]

/-- One code point of a quoted text. -/
def escapePoint (quote : Char) : Point → List Char
  | .char c => escapeChar quote c
  | .lone offset => Point.escape offset

/-- A quoted torn text. -/
def ofTorn (t : Torn) : List Char :=
  let quote := quoteFor (t.points.contains (.char '\'')) (t.points.contains (.char '"'))
  quote :: t.points.flatMap (escapePoint quote) ++ [quote]

/-- One byte of a quoted byte string. -/
def escapeByte (quote : Char) (b : UInt8) : List Char :=
  let c := Char.ofNat b.toNat
  match shortEscape? quote c with
  | some e => e
  | none => if 0x20 ≤ b.toNat ∧ b.toNat < 0x7F then [c] else '\\' :: 'x' :: hex 2 b.toNat

/-- A quoted byte string, marked by the letter b. -/
def ofBytes (bytes : List UInt8) : List Char :=
  let quote := quoteFor (bytes.contains 0x27) (bytes.contains 0x22)
  'b' :: quote :: bytes.flatMap (escapeByte quote) ++ [quote]

end Literal

end DocumentStore.Text
