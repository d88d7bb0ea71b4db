import DocumentStore.Text.Ranges

/-!
# Blank characters

White space comes in two sets. `isSpace` is the White_Space property: 25 characters, the set that
may stand around a written number. `isBlank` adds the four information separators U+001C to U+001F
and is what trimming removes.
-/

set_option autoImplicit false

namespace DocumentStore.Text

/-- The White_Space property. -/
def spaceRanges : Ranges :=
  [(0x09, 0x0D), (0x20, 0x20), (0x85, 0x85), (0xA0, 0xA0), (0x1680, 0x1680), (0x2000, 0x200A),
   (0x2028, 0x2029), (0x202F, 0x202F), (0x205F, 0x205F), (0x3000, 0x3000)]

/-- A character with the White_Space property. -/
def isSpace (c : Char) : Bool := spaceRanges.contains c.toNat

/-- White space, or one of the four information separators. -/
def isBlank (c : Char) : Bool := isSpace c || (0x1C ≤ c.toNat && c.toNat ≤ 0x1F)

/-- A text without the characters of `p` at its two ends. -/
def strip (p : Char → Bool) (cs : List Char) : List Char :=
  ((cs.dropWhile p).reverse.dropWhile p).reverse

/-- A text without the blanks at its two ends. -/
def trim (s : String) : String := String.ofList (strip isBlank s.toList)

end DocumentStore.Text
