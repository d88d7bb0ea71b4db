import DocumentStore.Text.Point

/-!
# Patterns

A pattern filter is a substring match. The anchors at the ends of a pattern are taken off, and what
is left is matched literally: the wildcards of `LIKE` are escaped in it and a wildcard put at either
side.
-/

set_option autoImplicit false

namespace DocumentStore.Pattern

open Text (Point)

/-- A pattern without its leading anchor. -/
def dropLeading : List Point → List Point
  | .char '^' :: rest => rest
  | ps => ps

/-- A pattern without its final anchor. A dollar sign behind a backslash is not one. -/
def dropFinal (ps : List Point) : List Point :=
  match ps.reverse with
  | .char '$' :: .char '\\' :: _ => ps
  | .char '$' :: rest => rest.reverse
  | _ => ps

/-- A pattern without the anchors at its ends. -/
def stripAnchors (ps : List Point) : List Point := dropFinal (dropLeading ps)

/-- A code point in a `LIKE` pattern that stands for itself. -/
def escapePoint (p : Point) : List Point :=
  if p = .char '\\' ∨ p = .char '%' ∨ p = .char '_' then [.char '\\', p] else [p]

/-- A text in a `LIKE` pattern that stands for itself. -/
def escapeLike (ps : List Point) : List Point := ps.flatMap escapePoint

/-- The `LIKE` pattern of the texts that contain a pattern. -/
def contains (ps : List Point) : List Point :=
  .char '%' :: escapeLike (stripAnchors ps) ++ [.char '%']

end DocumentStore.Pattern
