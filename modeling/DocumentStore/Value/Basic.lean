import DocumentStore.Calendar.Moment
import DocumentStore.Number.Double
import DocumentStore.Text.Literal

/-!
# Values

`Value` is what documents, filters, options and rows are made of. A mapping keeps its entries in
order and may have keys of any scalar kind. A text is a `String`, or it is torn: it holds a
surrogate without a partner, as only JSON can write it. Besides the type this module holds the kind
of a value, its truth, equality across the numeric kinds (`Value.same`), which values can be keys
(`Value.hashable`), and the mapping operations on entry lists.
-/

set_option autoImplicit false

namespace DocumentStore

open Calendar (Date Moment)

/-- A universally unique identifier. -/
structure Uuid where
  bits : BitVec 128
deriving DecidableEq, Repr

namespace Uuid

/-- The 32 hexadecimal digits. -/
def hex (u : Uuid) : List Char := Text.hex 32 u.bits.toNat

/-- The digits in groups of 8, 4, 4, 4 and 12. -/
def text (u : Uuid) : List Char :=
  let h := u.hex
  h.take 8 ++ '-' :: (h.drop 8).take 4 ++ '-' :: (h.drop 12).take 4 ++ '-' :: (h.drop 16).take 4 ++
    '-' :: h.drop 20

/-- Reads 32 hexadecimal digits, hyphens among them passed over. -/
def read? (cs : List Char) : Option Uuid :=
  let digits := cs.filter (· ≠ '-')
  if digits.length = 32 then
    (digits.foldl (fun acc c => acc.bind fun n => (Text.hexValue? c).map (16 * n + ·)) (some 0)).map
      fun n => ⟨BitVec.ofNat 128 n⟩
  else none

end Uuid

/-- A dynamic value. -/
inductive Value where
  | null
  | bool (b : Bool)
  | int (n : Int)
  | float (x : Double)
  | text (s : String)
  | torn (t : Text.Torn)
  | bytes (b : List UInt8)
  | uuid (u : Uuid)
  | regex (source : String)
  | date (d : Date)
  | moment (m : Moment)
  | list (items : List Value)
  | tuple (items : List Value)
  | set (items : List Value)
  | map (entries : List (Value × Value))

/-- The entries of a mapping in their order. -/
abbrev Entries := List (Value × Value)

/-- The kinds of values. -/
inductive Kind where
  | null
  | bool
  | int
  | float
  | text
  | bytes
  | uuid
  | regex
  | date
  | moment
  | list
  | tuple
  | set
  | map
deriving DecidableEq, Repr

/-- The name of a kind in messages. -/
def Kind.name : Kind → String
  | .null => "NoneType"
  | .bool => "bool"
  | .int => "int"
  | .float => "float"
  | .text => "str"
  | .bytes => "bytes"
  | .uuid => "UUID"
  | .regex => "Pattern"
  | .date => "date"
  | .moment => "datetime"
  | .list => "list"
  | .tuple => "tuple"
  | .set => "set"
  | .map => "dict"

/-- The name of a kind with the module that it belongs to, for the kinds that name one. -/
def Kind.qualifiedName : Kind → String
  | .date => "datetime.date"
  | .moment => "datetime.datetime"
  | .regex => "re.Pattern"
  | kind => kind.name

namespace Value

/-- The kind of a value. -/
def kind : Value → Kind
  | .null => .null
  | .bool _ => .bool
  | .int _ => .int
  | .float _ => .float
  | .text _ => .text
  | .torn _ => .text
  | .bytes _ => .bytes
  | .uuid _ => .uuid
  | .regex _ => .regex
  | .date _ => .date
  | .moment _ => .moment
  | .list _ => .list
  | .tuple _ => .tuple
  | .set _ => .set
  | .map _ => .map

/-- Null, false, zeros and everything empty count as false. -/
def truthy : Value → Bool
  | .null => false
  | .bool b => b
  | .int n => n ≠ 0
  | .float x => !x.isZero
  | .text s => s ≠ ""
  | .bytes b => !b.isEmpty
  | .list xs => !xs.isEmpty
  | .tuple xs => !xs.isEmpty
  | .set xs => !xs.isEmpty
  | .map es => !es.isEmpty
  | _ => true

/-- A text that is given by its code points. -/
def ofPoints (ps : List Text.Point) : Value :=
  if h : ps.any Text.Point.isLone = true then .torn ⟨ps, h⟩
  else .text (String.ofList (ps.filterMap Text.Point.char?))

/-- Whether a value is null. -/
def isNull : Value → Bool
  | .null => true
  | _ => false

/-- The first of two values when it counts as true, else the second. -/
def orElse (a b : Value) : Value := if a.truthy then a else b

/-! ## Equality -/

/-- A number as a ratio: truth values count as 0 and 1. -/
def ratio? : Value → Option (Int × Nat)
  | .bool b => some (b.toNat, 1)
  | .int n => some (n, 1)
  | .float x => x.ratio?
  | _ => none

/-- Equality of scalars. Numbers are equal when their values are, whatever their kinds. -/
def sameScalar (a b : Value) : Bool :=
  match a.ratio?, b.ratio? with
  | some (n, d), some (n', d') => n * d' == n' * d
  | some _, none => false
  | none, some _ => false
  | none, none =>
    match a, b with
    | .null, .null => true
    | .float (.infinite s), .float (.infinite s') => s == s'
    | .text s, .text s' => s == s'
    | .torn t, .torn t' => t == t'
    | .bytes s, .bytes s' => s == s'
    | .uuid u, .uuid u' => u == u'
    | .regex s, .regex s' => s == s'
    | .date d, .date d' => d == d'
    | .moment m, .moment m' => m.same m'
    | _, _ => false

mutual

/-- Equality of values. Mappings and sets are equal whatever the order of their parts. -/
def same : Value → Value → Bool
  | .list xs, .list ys => sameItems xs ys
  | .tuple xs, .tuple ys => sameItems xs ys
  | .set xs, .set ys => xs.length == ys.length && sameMembers xs ys
  | .map es, .map fs => es.length == fs.length && sameEntries es fs
  | a, b => sameScalar a b

/-- Equality item by item. -/
def sameItems : List Value → List Value → Bool
  | [], [] => true
  | x :: xs, y :: ys => x.same y && sameItems xs ys
  | _, _ => false

/-- Every item has an equal among the others. -/
def sameMembers : List Value → List Value → Bool
  | [], _ => true
  | x :: xs, ys => ys.any (fun y => x.same y) && sameMembers xs ys

/-- Every entry has an equal one among the others. -/
def sameEntries : List (Value × Value) → List (Value × Value) → Bool
  | [], _ => true
  | (k, v) :: es, fs => fs.any (fun f => k.same f.1 && v.same f.2) && sameEntries es fs

end

mutual

/-- Whether a value can be a key: lists, sets and mappings cannot, nor a tuple that holds one. -/
def hashable : Value → Bool
  | .list _ => false
  | .set _ => false
  | .map _ => false
  | .tuple xs => hashableItems xs
  | _ => true

/-- Whether all items can be keys. -/
def hashableItems : List Value → Bool
  | [] => true
  | x :: xs => x.hashable && hashableItems xs

end

mutual

/-- The first part of a value that keeps it from being a key. -/
def unhashablePart : Value → Value
  | .tuple xs => unhashableItem xs
  | v => v

/-- The first part of items that keeps them from being keys. -/
def unhashableItem : List Value → Value
  | [] => .null
  | x :: xs => if x.hashable then unhashableItem xs else x.unhashablePart

end

end Value

/-! ## Mappings -/

namespace Entries

/-- The value of a key. -/
def get? (es : Entries) (key : Value) : Option Value :=
  (es.find? fun e => e.1.same key).map (·.2)

/-- The value of a text key. -/
def getText? (es : Entries) (key : String) : Option Value := get? es (.text key)

/-- The value of a text key, null when it is absent. -/
def getD (es : Entries) (key : String) (default : Value) : Value := (getText? es key).getD default

/-- Whether a key is present. -/
def contains (es : Entries) (key : Value) : Bool := es.any fun e => e.1.same key

/-- The entries with a key set: a present key keeps its place, an absent one goes to the end. -/
def insert : Entries → Value → Value → Entries
  | [], key, value => [(key, value)]
  | (k, v) :: es, key, value =>
    if k.same key then (k, value) :: es else (k, v) :: insert es key value

/-- The entries with a text key set. -/
def insertText (es : Entries) (key : String) (value : Value) : Entries :=
  insert es (.text key) value

/-- The entries without a key. -/
def erase (es : Entries) (key : Value) : Entries := es.filter fun e => !e.1.same key

/-- The entries of a list of pairs: of equal keys the first gives the place and the last the
value. -/
def ofList (pairs : List (Value × Value)) : Entries :=
  pairs.foldl (fun es p => insert es p.1 p.2) []

/-- The keys in order. -/
def keys (es : Entries) : List Value := es.map (·.1)

end Entries

end DocumentStore
