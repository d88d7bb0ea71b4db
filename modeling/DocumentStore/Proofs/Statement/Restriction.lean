import DocumentStore.Proofs.Statement.FormMapping
import DocumentStore.Proofs.Statement.Names

/-!
# The rows that are written

A delete and an update hit the rows that a count with the same filter counts: all three have the
WHERE clause of the filter, with the same parameters, and in an update it is only renumbered to come
behind what is set. They differ in what they accept. Writes take equalities only and refuse any
other condition before they compile it, so no part of a filter is ever left out.
-/

set_option autoImplicit false

namespace DocumentStore

open Sql Fallible
open Text (Point)

/-! ## The WHERE clause -/

/-- The text of a filter's WHERE clause, numbered from one. -/
def restriction (s : FieldSchema) (cs : List Condition) : List Point :=
  Sql.points (whereSql s.naming (cs.map Condition.form) 1)

/-- An entry of a filter that is an equality. -/
def IsEquality (e : Value × Value) : Prop :=
  ∃ c, Condition.ofRaw e.1 e.2 = .ok c ∧ c.operator = some .eq

open Condition in
/-- What a filter with an entry that is no equality is refused with. Its first entry outside the
grammar decides; where all of them can be read, the first one with another operator does, and it is
refused for that operator on its field. -/
inductive Refuses (es : Entries) : Fault → Prop
  | unread (earlier later : Entries) (field : Value) (keys : Entries) (fault : Fault)
      (hes : es = earlier ++ (field, .map keys) :: later)
      (hearlier : ∀ e ∈ earlier, WellFormed e.2) (hnot : ¬WellFormed (.map keys))
      (h : Refusal field keys fault) : Refuses es fault
  | unequal (earlier later : Entries) (e : Value × Value) (o : Operator) (operand : Value)
      (hes : es = earlier ++ e :: later) (hread : ∀ d ∈ es, WellFormed d.2)
      (hearlier : ∀ d ∈ earlier, IsEquality d) (h : Means e.2 o operand) (hne : o ≠ .eq) :
      Refuses es (.naming [e.1] (.unsupportedOperator o.name e.1))

/-- Entries that can be read, on fields that can be written, are refused for an operator on one of
these fields. -/
theorem Refuses.unsupported {es : Entries} {fault : Fault} (h : Refuses es fault)
    (hes : ∀ e ∈ es, Condition.WellFormed e.2 ∧ e.1.writable = true) :
    ∃ name, ∃ e ∈ es, fault = .unsupportedOperator name e.1 := by
  cases h with
  | unread earlier later field keys _ hsplit _ hnot _ =>
    have hmem : (field, .map keys) ∈ es := by simp [hsplit]
    exact absurd (hes _ hmem).1 hnot
  | unequal earlier later e o operand hsplit _ _ _ _ =>
    have hmem : e ∈ es := by simp [hsplit]
    refine ⟨o.name, e, hmem, Fault.naming_of_writable ?_ _⟩
    exact List.forall_mem_singleton.2 (hes e hmem).2

theorem piecePoints_pieceOf {v : Value} (h : IsName v) :
    piecePoints (pieceOf v) = quoted v.points := by
  rcases h.cases with ⟨t, rfl⟩ | ⟨t, rfl⟩
  · rfl
  · rfl

/-- The text of a count, with the WHERE clause of its filter. -/
theorem points_of_compileCount {s : FieldSchema} {collection : Value} {cs : List Condition}
    (hcollection : IsName collection) :
    Sql.points ((Form.count (cs.map Condition.form)).sql s.naming (pieceOf collection)) =
      Text.points "SELECT COUNT(*) AS count FROM " ++ quoted collection.points ++
        restriction s cs := by
  rw [Form.sql, points_cons, points_cons, piecePoints_pieceOf hcollection, ← List.append_assoc]
  rfl

/-- A filter on a column whose name holds quotes and a placeholder. -/
def quotingFilter : Value := .map [(.text "a\"$1", .map [(.text "$eq", .int 7)])]

end DocumentStore
