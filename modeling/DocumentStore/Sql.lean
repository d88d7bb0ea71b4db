import DocumentStore.Fault

/-!
# SQL text in pieces

A statement's text is a list of pieces: fixed text, names and numbered placeholders. Values never
become pieces; they travel beside the text as parameters. `Sql.points` writes the pieces out: a name
between double quotes with every double quote doubled, a placeholder as a dollar sign and its
number. `Sql.text` is how that shows: a torn name with escapes. A text that holds one cannot be
encoded.
-/

set_option autoImplicit false

namespace DocumentStore

/-- A piece of SQL text. -/
inductive Piece where
  | fixed (text : String)
  | name (name : String)
  | tornName (name : Text.Torn)
  | placeholder (number : Int)
deriving DecidableEq, Repr

/-- SQL text as its pieces. -/
abbrev Sql := List Piece

namespace Sql

open Text (Point)

/-- A code point inside a quoted name. -/
def doubled (p : Point) : List Point := if p = .char '"' then [p, p] else [p]

/-- A quoted name. -/
def quoted (name : List Point) : List Point := .char '"' :: name.flatMap doubled ++ [.char '"']

/-- The code points of a piece. -/
def piecePoints : Piece → List Point
  | .fixed text => Text.points text
  | .name name => quoted (Text.points name)
  | .tornName name => quoted name.points
  | .placeholder number => .char '$' :: (Text.Numeral.ofInt number).map .char

/-- The code points of a text. -/
def points (sql : Sql) : List Point := sql.flatMap piecePoints

/-- The text as it shows. -/
def text (sql : Sql) : String := String.ofList ((points sql).flatMap Point.shown)

@[simp] theorem points_cons (p : Piece) (sql : Sql) :
    points (p :: sql) = piecePoints p ++ points sql := rfl

@[simp] theorem points_append (a b : Sql) : points (a ++ b) = points a ++ points b := by
  simp [points, List.flatMap_append]

/-- Texts with a fixed separator between them. -/
def join (separator : String) : List Sql → Sql
  | [] => []
  | [sql] => sql
  | sql :: rest => sql ++ .fixed separator :: join separator rest

/-- The first torn name of a text. -/
def firstTorn? : Sql → Option Text.Torn
  | [] => none
  | .tornName t :: _ => some t
  | _ :: rest => firstTorn? rest

/-- A value as a name: a text that is neither empty nor holds a NUL. -/
def nameOf (v : Value) : Except Fault Piece :=
  match v with
  | .text s =>
    if s = "" then .error (.invalidQuery .emptyName)
    else if s.toList.contains '\x00' then .error (.invalidQuery .nulInName)
    else .ok (.name s)
  | .torn t =>
    if t.points.contains (.char '\x00') then .error (.invalidQuery .nulInName) else .ok
      (.tornName t)
  | _ => .error (.invalidQuery .emptyName)

end Sql

/-- A statement: its text and the parameters of its placeholders. -/
structure Statement where
  sql : Sql
  params : List Value

namespace Statement

/-- The code points of a statement's text. -/
def points (s : Statement) : List Text.Point := s.sql.points

/-- The text of a statement. -/
def text (s : Statement) : String := s.sql.text

/-- A statement of fixed text. -/
def raw (text : String) (params : List Value) : Statement := ⟨[.fixed text], params⟩

end Statement

end DocumentStore
