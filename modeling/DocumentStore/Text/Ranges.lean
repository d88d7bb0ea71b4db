/-!
# Sets of characters as ranges

A property of characters is carried as a list of closed ranges of code points, ascending and apart.
`Ranges.contains` looks one code point up. The tables that use it (`Blank`, `Digit`, `Printable`)
hold the property values of Unicode 14.
-/

set_option autoImplicit false

namespace DocumentStore.Text

/-- Closed ranges of code points, first and last. -/
abbrev Ranges := List (Nat × Nat)

/-- Membership of a code point. -/
def Ranges.contains (ranges : Ranges) (code : Nat) : Bool :=
  ranges.any fun r => r.1 ≤ code && code ≤ r.2

end DocumentStore.Text
