import DocumentStore.Proofs.Catalog.Reconciliation
import DocumentStore.Proofs.Document.Stored
import DocumentStore.Proofs.Statement.Names

/-!
# Inserts into reconciled tables

An INSERT names the columns of a document's row: the keys that are reserved or declared, in their
order, and the identifier. The bookkeeping columns of a table, the declared fields that a
reconciliation adds and the keys that a row keeps come from lists of their own;
`insert_names_existing_columns` says that they agree.
-/

set_option autoImplicit false

namespace DocumentStore

open Fallible Sql Session Step

open Text (Point)

/-! ## Columns that are there -/

/-- A reserved name is a bookkeeping column. -/
theorem mem_systemColumns_of_internal {name : Value} (h : isInternal name = true) :
    name.points ∈ systemColumns.map fun c => Text.points c.1 := by
  -- the reserved names and the bookkeeping columns are two lists, and the first is part of the
  -- second
  have hcolumns : ∀ n ∈ internalFields, n ∈ systemColumns.map (·.1) := by decide
  cases name with
  | text n =>
    obtain ⟨c, hc, rfl⟩ := List.mem_map.1 (hcolumns n (List.contains_iff_mem.1 h))
    exact List.mem_map_of_mem hc
  | _ => cases h

/-- Columns with a place for every bookkeeping column and every declared field have one for every
key of a row. -/
theorem mem_columnPoints_of_hasColumn {s : FieldSchema} {columns : List Column}
    (hsystem : ∀ c ∈ systemColumns, Text.points c.1 ∈ columnPoints columns)
    (hdeclared : ∀ d ∈ s.userFields, d.name.points ∈ columnPoints columns) {e : Value × Value}
    (htext : e.1.IsText) (h : Mapper.hasColumn s e = true) : e.1.points ∈ columnPoints columns := by
  cases hinternal : isInternal e.1 with
  | true =>
    obtain ⟨c, hc, hpoints⟩ := List.mem_map.1 (mem_systemColumns_of_internal hinternal)
    rw [← hpoints]
    exact hsystem c hc
  | false =>
    have hcontains : s.contains e.1 = true := by
      simp only [Mapper.hasColumn, hinternal, Bool.false_or, Bool.and_eq_true] at h
      exact h.2.1
    obtain ⟨d, hd, hsame⟩ := List.any_eq_true.1 hcontains
    have hname : d.name = e.1 := Value.eq_of_same htext hsame
    have huser : d ∈ s.userFields := List.mem_filter.2 ⟨hd, by rw [hname, hinternal]; rfl⟩
    rw [← hname]
    exact hdeclared d huser

/-- A table that a reconciliation has created, or that had the bookkeeping columns before, has
them. -/
theorem mem_systemColumns_of_newColumns {s : FieldSchema} {columns : Option (List Column)}
    (h : ∀ there, columns = some there →
      ∀ c ∈ systemColumns, Text.points c.1 ∈ columnPoints there) :
    ∀ c ∈ systemColumns,
      Text.points c.1 ∈ columnPoints (columns.getD [] ++ s.newColumns columns) := by
  intro c hc
  rw [columnPoints, List.map_append, List.mem_append]
  cases columns with
  | none =>
    right
    rw [← columnPoints, FieldSchema.newColumns, FieldSchema.columnPoints_tableColumns]
    exact List.mem_append_left _ (List.mem_map_of_mem hc)
  | some there => exact .inl (h there rfl c hc)

/-! ## The names of an INSERT -/

/-- An INSERT of a row names the table and the keys of the row. -/
theorem names_of_compileInsert {s : FieldSchema} {collection : Value} {row : Entries}
    {st : Statement} (h : compileInsert s collection (.map row) = .ok st) :
    ∃ ts, Sql.read st.points = some ts ∧
      Sql.names ts = collection.points :: (Entries.keys row).map Value.points := by
  have hcall : (Call.insert (.map row)).compile s collection = .ok st := h
  obtain ⟨form, hform, hrenders⟩ := Call.exists_form_of_compile hcall
  cases hform
  exact ⟨_, hrenders.read, hrenders.names⟩

variable {σ ω τ : Type}

/-- A table that was absent or had the bookkeeping columns has been reconciled with a schema. Then
the INSERT of any document with different texts for keys names, behind the table, the keys that are
reserved or declared and not null, in their order, references and the identifier left out, and then
the identifier; no name comes twice, and the table has a column for each. -/
theorem insert_names_existing_columns (s : Session σ ω τ) {schemas : σ → Schemas}
    (hserves : Serves s.driver s.tableSchema schemas) {collection : Value} {source : SchemaSource}
    (hcall : (ReconcileCall.mk collection source).WellFormed) {w w₁ : World σ ω τ}
    {created : List Value}
    (hbefore : ∀ there, schemas w.link.driver s.tableSchema collection.points = some there →
      ∀ c ∈ systemColumns, Text.points c.1 ∈ columnPoints there)
    (hrun : run (reconcile s collection source) w = (.ok created, w₁)) :
    ∃ schema m there, FieldSchema.of source = .ok schema ∧ Mapper.ofSchema schema = .ok m ∧
      schemas w₁.link.driver s.tableSchema collection.points = some there ∧
      ∀ (identifier : Nat → Uuid) (j : Journal) (es row : Entries) (st : Statement),
        (∀ k ∈ Entries.keys es, k.IsText) → Entries.Distinct es →
        (m.rowOf identifier (.map es) j).1 = .ok row →
        compileInsert schema collection (.map row) = .ok st →
        ∃ ts columns, Sql.read st.points = some ts ∧ Sql.names ts = collection.points :: columns ∧
          columns = (Mapper.columnsOf schema es).map Value.points ++ [Text.points idField] ∧
          columns.Nodup ∧ (∀ p ∈ columns, p ∈ columnPoints there) ∧
          ∀ e ∈ es, e.1.points ∈ columns ↔
            e.1.same (.text idField) = true ∨ Mapper.isReference e.1 = false ∧
              (isInternal e.1 = true ∨ schema.contains e.1 = true ∧ e.2.isNull = false) := by
  rcases reconcile_cases hrun with ⟨fault, hfault, -⟩ | ⟨connection, schema, hlive,
    hschema, hvalid, -⟩
  · cases hfault
  have hfields := valid_of_ensureValid hvalid
  -- what the reconciliation has left: every bookkeeping column and every declared field has its
  -- place
  obtain ⟨schema', _, _, hschema', rfl, rfl, hthere, -, -, -, -, hdeclared⟩ :=
    (additive_of_run hserves (a := ⟨⟨collection, source⟩, w, .ok created, w₁⟩) hcall hrun).returned
      created rfl
  obtain rfl := result_unique hschema hschema'
  have hsystem := mem_systemColumns_of_newColumns (s := schema) hbefore
  refine ⟨schema, ⟨schema, jsonColumns schema⟩, _, hschema,
    Mapper.ofSchema_of_valid hfields, hthere, ?_⟩
  intro identifier j es row st htexts hdistinct hrow hst
  obtain ⟨vs, hvs, rfl⟩ := Mapper.rowOf_eq_ok hrow
  obtain ⟨ts, hread, hnames⟩ := names_of_compileInsert hst
  have hkeys : (Entries.keys (vs ++ [(.text idField, Mapper.rowId identifier es j)])).map
      Value.points = (Mapper.columnsOf schema es).map Value.points ++ [Text.points idField] := by
    rw [Entries.keys, List.map_append, ← Entries.keys, Mapper.keys_of_stored hvs, List.map_append]
    rfl
  rw [hkeys] at hnames
  refine ⟨ts, _, hread, hnames, rfl, Mapper.nodup_columnsOf schema htexts hdistinct, ?_, ?_⟩
  · intro p hp
    rcases List.mem_append.1 hp with hp | hp
    · obtain ⟨k, hk, rfl⟩ := List.mem_map.1 hp
      obtain ⟨e, he, rfl⟩ := List.mem_map.1 hk
      obtain ⟨hmem, hcolumn⟩ := List.mem_filter.1 he
      exact mem_columnPoints_of_hasColumn hsystem hdeclared (htexts _ (List.mem_map_of_mem hmem))
        hcolumn
    · rw [List.mem_singleton.1 hp]
      exact hsystem (idField, _) List.mem_cons_self
  · intro e he
    have hid : e.1.points = Text.points idField ↔ e.1.same (.text idField) = true :=
      (Value.same_iff_points_eq (b := .text idField) (htexts _ (List.mem_map_of_mem he))
        trivial).symm
    rw [List.mem_append, Mapper.mem_columnsOf_iff schema htexts hdistinct he,
      List.mem_singleton, hid]
    cases hsame : e.1.same (.text idField) <;> simp [Mapper.hasColumn, hsame]

/-- A document with an identifier, a reference, a bookkeeping field, a declared field, a declared
null and a key that is not declared. -/
def mixedDocument : Entries :=
  [(.text "a\"b", .text "x"), (.text "_refOwner", .int 1), (.text "_id", .int 7),
    (.text "_version", .null), (.text "n", .null), (.text "other", .bool true)]

theorem existing_columns_of_mixedDocument :
    ∃ created w₁ schema m row st ts there,
      run (reconcile catalogSession (.text "t") (schemaOf [("a\"b", "String"), ("n", "Number")]))
        (catalogWorld []) = (.ok created, w₁) ∧
      FieldSchema.of (schemaOf [("a\"b", "String"), ("n", "Number")]) = .ok schema ∧
      Mapper.ofSchema schema = .ok m ∧
      (m.rowOf numberedUuid (.map mixedDocument) .empty).1 = .ok row ∧
      compileInsert schema (.text "t") (.map row) = .ok st ∧ Sql.read st.points = some ts ∧
      Sql.names ts = ["t", "a\"b", "_version", "_id"].map Text.points ∧
      w₁.link.driver.schemas "public" (Text.points "t") = some there ∧
      ∀ p ∈ ["a\"b", "_version", "_id"].map Text.points, p ∈ columnPoints there := by
  have hreconciled : (run (reconcile catalogSession (.text "t")
      (schemaOf [("a\"b", "String"), ("n", "Number")])) (catalogWorld [])).1.toOption.any
        (fun _ => true) = true := by decide +kernel
  have hcompiled :
      (FieldSchema.of (schemaOf [("a\"b", "String"), ("n", "Number")]) >>= fun schema =>
      Mapper.ofSchema schema >>= fun m =>
      (m.rowOf numberedUuid (.map mixedDocument) .empty).1 >>= fun row =>
      (compileInsert schema (.text "t") (.map row)).map fun st =>
        (schema, st)).toOption.any (fun p => (Mapper.columnsOf p.1 mixedDocument).map Value.points =
          ["a\"b", "_version"].map Text.points) = true := by decide +kernel
  obtain ⟨created, hcreated, -⟩ := exists_of_check hreconciled
  obtain ⟨p, hp, hcolumns⟩ := exists_of_check hcompiled
  obtain ⟨schema, hschema, hp⟩ := bind_eq_ok.1 hp
  obtain ⟨m, hm, hp⟩ := bind_eq_ok.1 hp
  obtain ⟨row, hrow, hp⟩ := bind_eq_ok.1 hp
  obtain ⟨st, hst, rfl⟩ := map_eq_ok.1 hp
  have hcall : (ReconcileCall.mk (.text "t")
      (schemaOf [("a\"b", "String"), ("n", "Number")])).WellFormed :=
    ⟨trivial, fromMapping_schemaOf (by decide) (by decide)⟩
  obtain ⟨schema', m', there, hschema', hm', hthere, hinserts⟩ :=
    insert_names_existing_columns catalogSession (CatalogServer.serves "public") hcall
      (fun there h => by cases h) (Prod.ext hcreated rfl)
  obtain rfl := result_unique hschema hschema'
  obtain rfl := result_unique hm hm'
  have htexts : ∀ k ∈ Entries.keys mixedDocument, k.IsText := by
    simp [mixedDocument, Entries.keys, Value.IsText]
  have hdistinct : Entries.Distinct mixedDocument := by
    simp [mixedDocument, Entries.Distinct, Entries.keys, Value.same_text]
  obtain ⟨ts, columns, hread, hnames, rfl, -, hexist, -⟩ :=
    hinserts numberedUuid .empty mixedDocument row st htexts hdistinct hrow hst
  rw [of_decide_eq_true hcolumns] at hnames hexist
  exact ⟨created, _, schema, m, row, st, ts, there, Prod.ext hcreated rfl, hschema, hm,
    hrow, hst, hread, hnames, hthere, hexist⟩

end DocumentStore
