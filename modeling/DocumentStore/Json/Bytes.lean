import DocumentStore.Json.Reader
import DocumentStore.Text.Utf8

/-!
# Reading JSON from bytes

The encoding of a byte string is told from its byte order mark or, without one, from where its first
four bytes are zero: the first characters of a JSON text are ASCII. `Json.readBytes?` decodes and
reads. The encodings may hold surrogates without a partner; inside a string such a one reads as its
escape.
-/

set_option autoImplicit false

namespace DocumentStore.Json

/-- The encodings of a JSON text. -/
inductive Encoding where
  | utf8
  | utf16 (bigEndian : Bool)
  | utf32 (bigEndian : Bool)
deriving DecidableEq, Repr

/-- The encoding of a byte string without a byte order mark. -/
def Encoding.guess : List UInt8 → Encoding
  | [a, b] => if a = 0 then .utf16 true else if b = 0 then .utf16 false else .utf8
  | a :: b :: c :: d :: _ =>
    if a = 0 then if b = 0 then .utf32 true else .utf16 true
    else if b = 0 then if c = 0 ∧ d = 0 then .utf32 false else .utf16 false
    else .utf8
  | _ => .utf8

/-- The encoding of a byte string, and its bytes behind the byte order mark. -/
def Encoding.detect : List UInt8 → Encoding × List UInt8
  | 0x00 :: 0x00 :: 0xFE :: 0xFF :: rest => (.utf32 true, rest)
  | 0xFF :: 0xFE :: 0x00 :: 0x00 :: rest => (.utf32 false, rest)
  | 0xFE :: 0xFF :: rest => (.utf16 true, rest)
  | 0xFF :: 0xFE :: rest => (.utf16 false, rest)
  | 0xEF :: 0xBB :: 0xBF :: rest => (.utf8, rest)
  | bytes => (.guess bytes, bytes)

/-- The units of two bytes. -/
def units16? (bigEndian : Bool) : List UInt8 → Option (List Nat)
  | [] => some []
  | [_] => none
  | a :: b :: rest =>
    let n := if bigEndian then a.toNat * 256 + b.toNat else b.toNat * 256 + a.toNat
    (units16? bigEndian rest).map (n :: ·)

/-- The units of four bytes, each of which is a code point. -/
def units32? (bigEndian : Bool) : List UInt8 → Option (List Nat)
  | [] => some []
  | a :: b :: c :: d :: rest =>
    let n := if bigEndian then ((a.toNat * 256 + b.toNat) * 256 + c.toNat) * 256 + d.toNat
      else ((d.toNat * 256 + c.toNat) * 256 + b.toNat) * 256 + a.toNat
    if n < 0x110000 then (units32? bigEndian rest).map (n :: ·) else none
  | _ => none

/-- Decodes a byte string. -/
def decode? (bytes : List UInt8) : Option (List Text.Point) :=
  match Encoding.detect bytes with
  | (.utf8, bytes) => Text.Utf8.decodePoints? bytes
  | (.utf16 bigEndian, bytes) => (units16? bigEndian bytes).map joinUnits
  | (.utf32 bigEndian, bytes) => (units32? bigEndian bytes).map fun ns => ns.map .ofCode

/-- A JSON text with escapes in the place of lone surrogates. Behind a backslash, where only the
characters of an escape may stand, there can be none. -/
def spell? : List Text.Point → Option (List Char)
  | [] => some []
  | .char '\\' :: .lone _ :: _ => none
  | .char '\\' :: .char c :: ps => (spell? ps).map fun cs => '\\' :: c :: cs
  | p :: ps => (spell? ps).map (p.shown ++ ·)

/-- Reads code points as one value. -/
def readPoints? (ps : List Text.Point) : Option Value := (spell? ps).bind read?

/-- Reads a byte string as one value. -/
def readBytes? (bytes : List UInt8) : Option Value := (decode? bytes).bind readPoints?

end DocumentStore.Json
