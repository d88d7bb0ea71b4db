import DocumentStore.Text.Hex

/-!
# Code points

A text is a `String` as long as all its code points are characters. JSON can also write a surrogate
that has no partner, which is no character. `Point` is a code point of either kind, and `Torn` is a
text that holds at least one lone surrogate: it can be compared and escaped, and it cannot be
encoded.
-/

set_option autoImplicit false

namespace DocumentStore.Text

/-- A code point: a character, or the surrogate at an offset from U+D800. -/
inductive Point where
  | char (c : Char)
  | lone (offset : Fin 2048)
deriving DecidableEq, Repr

namespace Point

/-- The code point of a number. -/
def ofCode (n : Nat) : Point :=
  if h : 0xD800 ≤ n ∧ n < 0xE000 then .lone ⟨n - 0xD800, by omega⟩ else .char (Char.ofNat n)

/-- Whether a code point is a surrogate. -/
def isLone : Point → Bool
  | .char _ => false
  | .lone _ => true

/-- The character that a code point is, if it is one. -/
def char? : Point → Option Char
  | .char c => some c
  | .lone _ => none

/-- The `\u` escape of a surrogate. -/
def escape (offset : Fin 2048) : List Char := '\\' :: 'u' :: hex 4 (0xD800 + offset)

/-- A code point as it shows: a character is itself, a surrogate its escape. -/
def shown : Point → List Char
  | .char c => [c]
  | .lone offset => escape offset

/-- What stands for a surrogate where only characters can be read. -/
def standIn : Point → Char
  | .char c => c
  | .lone _ => Char.ofNat 0xFFFD

end Point

/-- The code points of a text. -/
def points (s : String) : List Point := s.toList.map .char

/-- The characters of code points, when all are characters. -/
def chars? : List Point → Option (List Char)
  | [] => some []
  | p :: ps => p.char?.bind fun c => (chars? ps).map (c :: ·)

/-- A text with a lone surrogate in it. -/
structure Torn where
  points : List Point
  torn : points.any Point.isLone = true
deriving DecidableEq, Repr

namespace Torn

/-- A torn text as it shows. -/
def shown (t : Torn) : String := String.ofList (t.points.flatMap Point.shown)

/-- A torn text for a reader of characters. -/
def standIn (t : Torn) : List Char := t.points.map Point.standIn

/-- The place of the first surrogate. -/
def firstAt (t : Torn) : Nat := (t.points.takeWhile fun p => !p.isLone).length

/-- The first surrogate with those that follow it at once. -/
def firstRun (t : Torn) : List Point := (t.points.drop t.firstAt).takeWhile Point.isLone

end Torn

end DocumentStore.Text
