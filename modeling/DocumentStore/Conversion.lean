import DocumentStore.Fault

/-!
# Conversions

What a value gives when it is asked for its items, for entries or for an integer. A text has its
characters as items, a byte string its bytes and a mapping its keys; entries are taken from a
mapping or from items that are pairs; integers are read from numbers, truncated toward zero, and
from numerals. The entries of a mapping can be named arguments when their keys are texts that are
not taken.
-/

set_option autoImplicit false

namespace DocumentStore

namespace Value

/-- The items of a value. -/
def items : Value → Except Fault (List Value)
  | .list xs => .ok xs
  | .tuple xs => .ok xs
  | .set xs => .ok xs
  | .map es => .ok (Entries.keys es)
  | .text s => .ok (s.toList.map fun c => .text (String.singleton c))
  | .torn t => .ok (t.points.map fun p => .ofPoints [p])
  | .bytes b => .ok (b.map fun x => .int x.toNat)
  | v => .error (.kind (.notIterable v.kind))

/-- Whether a value has items. -/
def isIterable (v : Value) : Bool :=
  match v.items with
  | .ok _ => true
  | .error _ => false

/-- Fails for a value that cannot be a key. -/
def ensureHashable (v : Value) : Except Fault Unit :=
  if v.hashable then .ok () else .error (.kind (.unhashable v.unhashablePart.kind))

/-- An item as an entry: it must have two items, the first of which can be a key. -/
def pairAt (index : Nat) (v : Value) : Except Fault (Value × Value) :=
  if v.isIterable then do
    match ← v.items with
    | [key, value] =>
      key.ensureHashable
      return (key, value)
    | xs => throw (.value (.pairLength index xs.length))
  else .error (.kind (.notPair index))

/-- Items as entries, the first of which has the given index. -/
def pairsFrom : Nat → List Value → Except Fault (List (Value × Value))
  | _, [] => .ok []
  | index, v :: vs => do
    let head ← pairAt index v
    let tail ← pairsFrom (index + 1) vs
    return head :: tail

/-- The entries of a value. -/
def entries : Value → Except Fault Entries
  | .map es => .ok es
  | v => do
    let xs ← v.items
    let pairs ← pairsFrom 0 xs
    return Entries.ofList pairs

/-- An integer numeral, given as a text or as its ASCII bytes. -/
def numeral (given : Value) (cs : List Char) : Except Fault Int :=
  match Text.Numeral.readInt cs with
  | .ok n => .ok n
  | .error .malformed => .error (.value (.numeral given))
  | .error (.tooLong digits) => .error (.value (.numeralTooLong digits))

/-- A byte as an ASCII character, a question mark when it is none. -/
def asciiChar (b : UInt8) : Char := if b < 0x80 then Char.ofNat b.toNat else '?'

/-- The integer of a value. -/
def integer : Value → Except Fault Int
  | .bool b => .ok b.toNat
  | .int n => .ok n
  | .float x =>
    match x.truncate? with
    | some n => .ok n
    | none => .error (if x = .nan then .value .nanInteger else .range .infiniteInteger)
  | .text s => numeral (.text s) s.toList
  | .torn t => numeral (.torn t) t.standIn
  | .bytes b => numeral (.bytes b) (b.map asciiChar)
  | .uuid u => .ok u.bits.toNat
  | v => .error (.kind (.notNumber v.kind))

end Value

namespace Entries

/-- Fails for entries that cannot be named arguments beside those whose names are taken. -/
def ensureNamed (taken : List String) : Entries → Except Fault Unit
  | [] => .ok ()
  | (.text s, _) :: es =>
    if taken.contains s then .error (.kind (.repeatedArgument s)) else ensureNamed taken es
  | (.torn _, _) :: es => ensureNamed taken es
  | (key, _) :: _ => .error (.kind (.argumentName key.kind))

end Entries

end DocumentStore
