import DocumentStore.Text.Point

/-!
# UTF-8

`encode` gives the bytes of a text and `decode?` reads them; `decodePoints?` also reads surrogates,
each on its own. `decodeLossy` reads bytes as a text without ever failing: every longest run of
bytes that begins a character and does not complete it becomes one replacement character, as does
every byte that begins none.
-/

set_option autoImplicit false

namespace DocumentStore.Text.Utf8

/-- The bytes of a text. -/
def encode (s : String) : List UInt8 := s.toUTF8.data.toList

/-! ## Reading texts -/

/-- The six bits of a continuation byte. -/
def tail? (b : UInt8) : Option Nat :=
  if 0x80 ≤ b ∧ b < 0xC0 then some (b.toNat - 0x80) else none

/-- Puts a code point in front of decoded ones, unless there is none of its code or it could be
written in fewer bytes. -/
def consCode (least code : Nat) (rest : Option (List Point)) : Option (List Point) :=
  if least ≤ code ∧ code < 0x110000 then rest.map (Point.ofCode code :: ·) else none

/-- Reads bytes as code points, when they are such. -/
def decodePoints? : List UInt8 → Option (List Point)
  | [] => some []
  | a :: rest =>
    if a < 0x80 then consCode 0 a.toNat (decodePoints? rest)
    else if a < 0xC0 then none
    else if a < 0xE0 then
      match rest with
      | b :: rest =>
        (tail? b).bind fun b => consCode 0x80 ((a.toNat - 0xC0) * 64 + b) (decodePoints? rest)
      | _ => none
    else if a < 0xF0 then
      match rest with
      | b :: c :: rest =>
        (tail? b).bind fun b => (tail? c).bind fun c =>
          consCode 0x800 (((a.toNat - 0xE0) * 64 + b) * 64 + c) (decodePoints? rest)
      | _ => none
    else if a < 0xF8 then
      match rest with
      | b :: c :: d :: rest =>
        (tail? b).bind fun b => (tail? c).bind fun c => (tail? d).bind fun d =>
          consCode 0x10000 ((((a.toNat - 0xF0) * 64 + b) * 64 + c) * 64 + d) (decodePoints? rest)
      | _ => none
    else none

/-- Reads bytes as a text, when they are one. -/
def decode? (bytes : List UInt8) : Option (List Char) := (decodePoints? bytes).bind chars?

/-! ## Reading any bytes -/

/-- What stands for bytes that are no character. -/
def replacement : Char := Char.ofNat 0xFFFD

/-- A character of which some bytes are still to come: how many, the bits so far, and the range of
the next byte. -/
structure Pending where
  left : Nat
  code : Nat
  low : Nat
  high : Nat

/-- What a byte begins. -/
inductive Start where
  | char (c : Char)
  | pending (p : Pending)
  | stray

/-- What a byte begins at the start of a character. The ranges leave out surrogates, codes beyond
the last character and forms that are longer than needed. -/
def Start.of (byte : UInt8) : Start :=
  let n := byte.toNat
  if n < 0x80 then .char (Char.ofNat n)
  else if n < 0xC2 then .stray
  else if n < 0xE0 then .pending ⟨1, n - 0xC0, 0x80, 0xBF⟩
  else if n = 0xE0 then .pending ⟨2, 0, 0xA0, 0xBF⟩
  else if n = 0xED then .pending ⟨2, 0xD, 0x80, 0x9F⟩
  else if n < 0xF0 then .pending ⟨2, n - 0xE0, 0x80, 0xBF⟩
  else if n = 0xF0 then .pending ⟨3, 0, 0x90, 0xBF⟩
  else if n < 0xF4 then .pending ⟨3, n - 0xF0, 0x80, 0xBF⟩
  else if n = 0xF4 then .pending ⟨3, 4, 0x80, 0x8F⟩
  else .stray

/-- The text from a start on, `rest` being the text of the further bytes. -/
def Start.resume (rest : Option Pending → List Char) : Start → List Char
  | .char c => c :: rest none
  | .pending p => rest (some p)
  | .stray => replacement :: rest none

/-- Reads bytes behind those of an unfinished character, if there is one. -/
def decodeFrom : Option Pending → List UInt8 → List Char
  | none, [] => []
  | some _, [] => [replacement]
  | none, b :: bytes => (Start.of b).resume fun p => decodeFrom p bytes
  | some p, b :: bytes =>
    if p.low ≤ b.toNat ∧ b.toNat ≤ p.high then
      let code := p.code * 64 + (b.toNat - 0x80)
      if p.left ≤ 1 then Char.ofNat code :: decodeFrom none bytes
      else decodeFrom (some ⟨p.left - 1, code, 0x80, 0xBF⟩) bytes
    else replacement :: (Start.of b).resume fun p => decodeFrom p bytes

/-- Reads bytes as a text. -/
def decodeLossy (bytes : List UInt8) : String := String.ofList (decodeFrom none bytes)

end DocumentStore.Text.Utf8
