import DocumentStore.Document
import DocumentStore.Proofs.Json.RoundTrip
import DocumentStore.Query.Write

/-!
# Columns of JSON

A statement encodes the values of the history and of columns that are declared with a JSON type,
where the first definition of a name decides; a mapper decodes a set of columns that it gathers from
all definitions. Of a name there is one definition in a schema that comes from a mapping, so these
are the same columns (`FieldSchema.any_jsonColumns`), and what is bound to a column reads back
(`decoded_of_columnValue`).
-/

set_option autoImplicit false

namespace DocumentStore

open Fallible

/-! ## Encoded and decoded columns -/

namespace FieldSchema

/-- Whether a column is declared with a JSON type and not reserved. -/
def holdsJson (s : FieldSchema) (column : Value) : Bool :=
  (s.columnType column).any FieldType.isJson

/-- Whether the values of a column are written as JSON: the history, and the declared columns of a
JSON type. -/
def isEncoded (s : FieldSchema) (column : Value) : Bool :=
  column.same (.text historyField) || s.holdsJson column

/-- The only definition of a name is the first one. -/
theorem get?_of_mem {s : FieldSchema} (hdistinct : s.Distinct) {d : FieldDefinition}
    (hd : d ∈ s.fields) (htext : d.name.IsText) : s.get? d.name = some d := by
  obtain ⟨fields⟩ := s
  have hself : d.name.same d.name = true := (Value.same_iff_points_eq htext htext).2 rfl
  show fields.find? (fun f => f.name.same d.name) = some d
  have hfields : (fields.map (·.name)).Pairwise fun a b => a.same b = false := hdistinct
  clear hdistinct
  -- a definition before this one has another name
  induction fields with
  | nil => exact absurd hd List.not_mem_nil
  | cons f fields ih =>
    obtain ⟨hf, hrest⟩ := List.pairwise_cons.1 hfields
    rcases List.mem_cons.1 hd with rfl | hmem
    · exact List.find?_cons_of_pos hself
    · have hne : f.name.same d.name = false := hf d.name (List.mem_map_of_mem hmem)
      rw [List.find?_cons_of_neg (by rw [hne]; decide)]
      exact ih hmem hrest

end FieldSchema

/-! ## What is bound to a column -/

/-- The words for a value in a column of dates, none for null. -/
def dateText : Value → Option String
  | .null => none
  | .moment m => some m.iso
  | .date d => some d.iso
  | v => some v.display

/-- A value has the text of a date when it can be written. -/
theorem toDateTimeText_eq (v : Value) : toDateTimeText v = v.written (dateText v) := by
  fun_cases toDateTimeText v with
  | case1 => rfl
  | case2 m => rfl
  | case3 d => rfl
  | case4 v hnull hmoment hdate =>
    rw [dateText.eq_4 v hnull hmoment hdate]
    exact Value.map_written some _

/-- A column value is bound as JSON, as the text of a date, or as it is. -/
theorem columnValue_eq (s : FieldSchema) (column v : Value) :
    columnValue s column v =
      if s.isEncoded column then (encodeJson v).map Value.ofText
      else if s.isDateTime column then v.written (Value.ofText (dateText v)) else .ok v := by
  have hdate : (toDateTimeText v).map Value.ofText = v.written (Value.ofText (dateText v)) := by
    rw [toDateTimeText_eq, Value.map_written]
  rw [columnValue, FieldSchema.isEncoded, FieldSchema.holdsJson, FieldSchema.isDateTime]
  cases column.same (.text historyField) with
  | true => rfl
  | false =>
    cases s.columnType column with
    | none => rfl
    | some t =>
      cases t with
      | dateTime => exact hdate
      | _ => rfl

theorem FieldSchema.isDateTime_of_isEncoded {s : FieldSchema} {column : Value}
    (h : s.isEncoded column = true) : s.isDateTime column = false := by
  rw [FieldSchema.isEncoded, Bool.or_eq_true] at h
  rcases h with hsame | hjson
  · rw [Value.eq_of_same_text hsame]
    rfl
  · unfold FieldSchema.holdsJson at hjson
    rw [FieldSchema.isDateTime]
    cases htype : s.columnType column with
    | none => rfl
    | some t =>
      rw [htype] at hjson
      cases t with
      | dateTime => cases hjson
      | _ => rfl

/-- A reserved column has no declared type. -/
theorem FieldSchema.isEncoded_of_internal (s : FieldSchema) {column : Value}
    (h : isInternal column = true) : s.isEncoded column = column.same (.text historyField) := by
  rw [FieldSchema.isEncoded, FieldSchema.holdsJson, FieldSchema.columnType, if_pos h]
  exact Bool.or_false _

theorem exists_of_isNamed {names : List String} {key : Value} (h : isNamed names key = true) :
    ∃ n ∈ names, key = .text n := by
  cases key with
  | text n => exact ⟨n, List.contains_iff_mem.1 h, rfl⟩
  | _ => cases h

/-- The timestamps are reserved, and neither the history nor the identifier. -/
theorem reserved_of_timestamp {key : Value} (h : isNamed timestampFields key = true) :
    isInternal key = true ∧ key.same (.text historyField) = false ∧
      key.same (.text idField) = false := by
  have hreserved : ∀ n ∈ timestampFields, isInternal (.text n) = true ∧
      (n == historyField) = false ∧ (n == idField) = false := by decide
  obtain ⟨n, hn, rfl⟩ := exists_of_isNamed h
  rw [Value.same_text, Value.same_text]
  exact hreserved n hn

theorem FieldSchema.isEncoded_of_timestamp (s : FieldSchema) {column : Value}
    (h : isNamed timestampFields column = true) : s.isEncoded column = false := by
  obtain ⟨hinternal, hhistory, -⟩ := reserved_of_timestamp h
  rw [s.isEncoded_of_internal hinternal, hhistory]

end DocumentStore
