import DocumentStore.Calendar.Written
import DocumentStore.Number.Shortest
import DocumentStore.Text.Expression
import DocumentStore.Value.Basic

/-!
# Values as text

`Value.display` is the plain text of a value: a text is itself, dates and identifiers are their
usual forms, and compound values hold the literal forms of their parts. `Value.literal` is that
literal form, in which texts are quoted and dates, identifiers and patterns name themselves. Lone
surrogates show as escapes in both; `Value.points` is the plain text with its surrogates as they
are. A value that holds an integer of too many digits has no text at all (`Value.writable`).
-/

set_option autoImplicit false

namespace DocumentStore

namespace Value

/-- Parts with a comma and a space between them. -/
def commaJoin (parts : List (List Char)) : List Char := List.intercalate [',', ' '] parts

/-- The longest part of a pattern that its literal form shows. -/
def patternShown : Nat := 200

/-- The flags of a pattern, as they follow it in its literal form. -/
def flagSuffix (source : String) : List Char :=
  match Text.Expression.flagNames source.toList with
  | [] => []
  | names => ',' :: ' ' :: (String.intercalate "|" names).toList

mutual

/-- The literal form of a value. -/
def literal : Value → List Char
  | .null => "None".toList
  | .bool b => (if b then "True" else "False").toList
  | .int n => Text.Numeral.ofInt n
  | .float x => x.text.toList
  | .text s => Text.Literal.ofText s.toList
  | .torn t => Text.Literal.ofTorn t
  | .bytes b => Text.Literal.ofBytes b
  | .uuid u => "UUID('".toList ++ u.text ++ "')".toList
  | .regex source =>
      "re.compile(".toList ++ (Text.Literal.ofText source.toList).take patternShown ++
        flagSuffix source ++ [')']
  | .date d => d.literal
  | .moment m => m.literal
  | .list xs => '[' :: commaJoin (literalItems xs) ++ [']']
  | .tuple [x] => '(' :: x.literal ++ [',', ')']
  | .tuple xs => '(' :: commaJoin (literalItems xs) ++ [')']
  | .set [] => "set()".toList
  | .set xs => '\x7b' :: commaJoin (literalItems xs) ++ ['\x7d']
  | .map es => '\x7b' :: commaJoin (literalEntries es) ++ ['\x7d']

/-- The literal forms of items. -/
def literalItems : List Value → List (List Char)
  | [] => []
  | x :: xs => x.literal :: literalItems xs

/-- The literal forms of entries. -/
def literalEntries : List (Value × Value) → List (List Char)
  | [] => []
  | (k, v) :: es => (k.literal ++ ':' :: ' ' :: v.literal) :: literalEntries es

end

mutual

/-- Whether a value can be written: whether each integer that its text holds is short enough. -/
def writable : Value → Bool
  | .int n => Text.Numeral.isShort n
  | .list xs => writableItems xs
  | .tuple xs => writableItems xs
  | .set xs => writableItems xs
  | .map es => writableEntries es
  | _ => true

/-- Whether all items can be written. -/
def writableItems : List Value → Bool
  | [] => true
  | x :: xs => x.writable && writableItems xs

/-- Whether all entries can be written. -/
def writableEntries : List (Value × Value) → Bool
  | [] => true
  | (k, v) :: es => k.writable && v.writable && writableEntries es

end

/-- The plain text of a value. -/
def display : Value → String
  | .text s => s
  | .torn t => t.shown
  | .uuid u => String.ofList u.text
  | .date d => d.iso
  | .moment m => String.ofList (m.written ' ')
  | v => String.ofList v.literal

/-- The code points of the plain text of a value. -/
def points : Value → List Text.Point
  | .torn t => t.points
  | v => Text.points v.display

end Value

end DocumentStore
