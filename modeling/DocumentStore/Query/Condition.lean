import DocumentStore.Fault

/-!
# Filter conditions

A filter is a mapping from fields to raw conditions: a bare value stands for equality, a bare
pattern for a match, and a mapping of one operator key to its operand for that operator.
`Condition.ofRaw` reads one entry, `Condition.ofFilter` a whole filter in its own order.
-/

set_option autoImplicit false

namespace DocumentStore

/-- The operators of filters. -/
inductive Operator where
  | eq
  | ne
  | isIn
  | containsAny
  | lt
  | lte
  | gt
  | gte
  | regex
deriving DecidableEq, Repr

namespace Operator

/-- The name of an operator in a filter. -/
def name : Operator → String
  | .eq => "eq"
  | .ne => "ne"
  | .isIn => "in"
  | .containsAny => "containsAny"
  | .lt => "lt"
  | .lte => "lte"
  | .gt => "gt"
  | .gte => "gte"
  | .regex => "regex"

/-- All operators. -/
def all : List Operator := [.eq, .ne, .isIn, .containsAny, .lt, .lte, .gt, .gte, .regex]

/-- The operator of a name. -/
def ofName? (s : String) : Option Operator := all.find? fun o => o.name == s

/-- Reading a name gives its operator. -/
theorem ofName?_name (o : Operator) : ofName? o.name = some o := by cases o <;> decide

end Operator

/-- A text without its leading dollar sign, if it has one. -/
def withoutDollar (s : String) : String :=
  match s.toList with
  | '$' :: rest => String.ofList rest
  | _ => s

/-- The operator that a key names, with or without a leading dollar sign. -/
def Operator.ofKey? : Value → Option Operator
  | .text s => ofName? (withoutDollar s)
  | _ => none

/-- A condition on a field. One without an operator has no meaning in SQL. -/
structure Condition where
  operator : Option Operator
  field : Value
  operand : Value

namespace Condition

/-- The operand of an operator: a pattern under `regex` stands for its source. -/
def operandOf (o : Operator) (v : Value) : Value :=
  match o, v with
  | .regex, .regex source => .text source
  | _, v => v

/-- Reads a raw condition. -/
def ofRaw (field raw : Value) : Except Fault Condition :=
  match raw with
  | .regex source => .ok ⟨some .regex, field, .text source⟩
  | .map [] => .error (.naming [field] (.unsupportedOperator "<empty>" field))
  | .map [(key, operand)] =>
    match Operator.ofKey? key with
    | some o => .ok ⟨some o, field, operandOf o operand⟩
    | none => .error (.naming [key, field] (.unsupportedOperator key.display field))
  | .map es =>
    .error (.naming (Entries.keys es ++ [field])
      (.unsupportedOperator (String.intercalate ", " (es.map fun e => e.1.display)) field))
  | v => .ok ⟨some .eq, field, v⟩

/-- Reads a filter. Anything that counts as false is the empty filter. -/
def ofFilter (filter : Value) : Except Fault (List Condition) :=
  if filter.truthy then
    match filter with
    | .map es => es.mapM fun e => ofRaw e.1 e.2
    | v => .error (.noMember v.kind "items")
  else .ok []

end Condition

end DocumentStore
