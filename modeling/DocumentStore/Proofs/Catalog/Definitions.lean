import DocumentStore.Proofs.Catalog.Reconciliation

/-!
# Definitions of valid schemas

A schema that passes its validation can be written: its table can be created, and every one of its
fields can be added to a table, under any name (`exists_createTable`, `exists_addColumns`). What is
written reads back as the columns that were declared, each with its type and with whether it may be
null, and no two of them have one name (`definitions_read_back`).
-/

set_option autoImplicit false

namespace DocumentStore

open Fallible Sql

open Text (Point)

/-! ## Definitions that can be written -/

namespace FieldDefinition.Valid

variable {d : FieldDefinition} (h : d.Valid)

include h

theorem isName : IsName d.name := by
  obtain ⟨n, hname, hne, hnul⟩ := h.name
  rw [hname, IsName, nameOf, if_neg hne, if_neg (by rw [hnul]; exact Bool.false_ne_true)]
  rfl

theorem exists_column : ∃ sql, d.column = .ok sql := by
  obtain ⟨t, ht⟩ := h.type
  refine ⟨_, bind_eq_ok.2 ⟨_, nameOf_eq_ok.2 ⟨h.isName, rfl⟩, bind_eq_ok.2 ⟨t.columnType, ?_, rfl⟩⟩⟩
  rw [FieldDefinition.columnType, ht]

end FieldDefinition.Valid

section Written

variable {table : Value} (htable : IsName table)

include htable

theorem exists_createTable {s : FieldSchema} (hvalid : ∀ d ∈ s.fields, d.Valid) :
    ∃ sql, createTable table s = .ok sql := by
  obtain ⟨declared, hdeclared⟩ := exists_mapM fun d hd =>
    (FieldSchema.valid_of_mem_userFields hvalid d hd).exists_column
  exact ⟨_, bind_eq_ok.2 ⟨declared, hdeclared, bind_eq_ok.2
    ⟨_, nameOf_eq_ok.2 ⟨htable, rfl⟩, rfl⟩⟩⟩

theorem exists_addColumns {fields : List FieldDefinition} (hvalid : ∀ d ∈ fields, d.Valid) :
    ∃ sqls, addColumns table fields = .ok sqls := by
  refine exists_mapM fun d hd => ?_
  obtain ⟨column, hcolumn⟩ := (hvalid d hd).exists_column
  exact ⟨_, bind_eq_ok.2 ⟨_, nameOf_eq_ok.2 ⟨htable, rfl⟩, bind_eq_ok.2 ⟨column, hcolumn, rfl⟩⟩⟩

end Written

/-! ## Types and nullability -/

namespace Column

/-- The tokens in front of a fixed ending. -/
def before? (ending : String) (ts : List Token) : Option (List Token) :=
  if (pieceTokens (.fixed ending)).isSuffixOf ts then
    some (ts.take (ts.length - (pieceTokens (.fixed ending)).length))
  else none

/-- The type of a column and whether it must have a value, when its declaration says no more than
that. -/
def typed? (c : Column) : Option (List Token × Bool) :=
  ((before? " NOT NULL" c.declaration).map fun type => (type, true)).or
    ((before? " NULL" c.declaration).map fun type => (type, false))

end Column

/-- The column of a field is read with the field's name and type, and with whether the field is
required. -/
theorem FieldDefinition.typed?_declared {d : FieldDefinition} {t : FieldType}
    (h : d.fieldType = some t) :
    d.declared.typed? = some (pieceTokens (.fixed t.columnType), d.required) := by
  have hread (required : Bool) : Column.typed?
      ⟨d.name.points, pieceTokens (.fixed (t.declaration required))⟩ =
      some (pieceTokens (.fixed t.columnType), required) := by
    cases t <;> cases required <;> rfl
  rw [declared, h]
  exact hread d.required

/-! ## Reading back -/

/-- The statements that add columns read back in order, each as the column of its field. -/
theorem map_read_addColumns {table : Value} {fields : List FieldDefinition} {sqls : List Sql}
    (h : addColumns table fields = .ok sqls) :
    sqls.map (fun sql => Ddl.read? (points sql)) =
      fields.map fun d => some (.addColumn table.points d.declared) :=
  map_of_mapM (fun _ _ hsql => read_addColumn hsql) h

/-- What defines a table reads back as it was declared. For any schema of different names that
passes its validation, and any name of a table, the statement that creates the table reads back as
the bookkeeping columns and one column for each declared field that is none of them, in order, with
its type and with whether it may be null, and no two columns have one name; and the statements that
add fields read back as the same columns. -/
theorem definitions_read_back {s : FieldSchema} (hdistinct : s.Distinct)
    (hvalid : s.ensureValid = .ok ()) {table : Value} (htable : IsName table) :
    (∃ sql, createTable table s = .ok sql ∧ Ddl.read? (points sql) =
      some (.createTable table.points
        (systemColumns.map systemColumn ++ s.userFields.map (·.declared)))) ∧
    (systemColumns.map systemColumn ++ s.userFields.map (·.declared)).Pairwise
      (fun a b => a.name ≠ b.name) ∧
    (∀ d ∈ s.fields, d.declared.name = d.name.points ∧ ∃ t, d.fieldType = some t ∧
      d.declared.typed? = some (pieceTokens (.fixed t.columnType), d.required)) ∧
    ∀ fields, fields ⊆ s.fields → ∃ sqls, addColumns table fields = .ok sqls ∧
      sqls.map (fun sql => Ddl.read? (points sql)) =
        fields.map fun d => some (.addColumn table.points d.declared) := by
  have hfields := valid_of_ensureValid hvalid
  refine ⟨?created, ?names, ?declared, ?added⟩
  case created =>
    obtain ⟨sql, hsql⟩ := exists_createTable htable hfields
    exact ⟨sql, hsql, read_createTable hsql⟩
  case names =>
    have hnodup := FieldSchema.nodup_created hdistinct hfields
    rw [← FieldSchema.columnPoints_tableColumns, columnPoints] at hnodup
    exact List.pairwise_map.1 hnodup
  case declared =>
    intro d hd
    obtain ⟨t, ht⟩ := (hfields d hd).type
    exact ⟨rfl, t, ht, FieldDefinition.typed?_declared ht⟩
  case added =>
    intro fields hsubset
    obtain ⟨sqls, hsqls⟩ := exists_addColumns htable fun d hd => hfields d (hsubset hd)
    exact ⟨sqls, hsqls, map_read_addColumns hsqls⟩

/-- A schema with a reserved name, and with names that look like what stands around them. -/
def trickySchema : FieldSchema :=
  ⟨[⟨.text "_id", .text "String", false⟩, ⟨.text "a\" TEXT, \"b", .text "DateTime", true⟩,
    ⟨.text "\n)", .text "Object", false⟩]⟩

theorem tricky_definitions_read_back :
    trickySchema.Distinct ∧ trickySchema.ensureValid = .ok () ∧ IsName (.text "t\" (") ∧
      (createTable (.text "t\" (") trickySchema).toOption.map (fun sql => Ddl.read? (points sql)) =
        some (some (.createTable (Text.points "t\" (") (systemColumns.map systemColumn ++
          [⟨Text.points "a\" TEXT, \"b", pieceTokens (.fixed "TIMESTAMP NOT NULL")⟩,
            ⟨Text.points "\n)", pieceTokens (.fixed "JSON NULL")⟩]))) := by
  have hdistinct : trickySchema.Distinct := by
    simp [FieldSchema.Distinct, FieldSchema.names, trickySchema, Value.same_text]
  have hvalid : trickySchema.ensureValid = .ok () := rfl
  have htable : IsName (.text "t\" (") := rfl
  obtain ⟨⟨sql, hsql, hread⟩, -⟩ := definitions_read_back hdistinct hvalid htable
  refine ⟨hdistinct, hvalid, htable, ?_⟩
  rw [hsql]
  exact congrArg some hread

end DocumentStore
