import DocumentStore.Proofs.Catalog.Definitions
import DocumentStore.Proofs.Catalog.InsertColumns

/-!
# Where tables are made and where they are looked up

Definitions and inserts name a table without a schema, and the server resolves such names in a
schema of its own, its home; the catalog is asked for the schema of the settings. On a server that
answers, what a reconciliation comes to follows from what it finds in the one and what there is in
the other (`Reconciles`). Where the two are one schema a table is found where it was made (`Found`).
Where they are not, what a reconciliation makes is never seen by another one, which says that it
makes it again and makes nothing (`Missed`).
-/

set_option autoImplicit false

namespace DocumentStore

open Fallible Sql Session Step

open Text (Point)

/-! ## Servers that answer -/

/-- A server that refuses no lookup, and no definition that it can apply. -/
structure Answers {σ : Type} (driver : Driver σ) (home : String) (schemas : σ → Schemas) :
    Prop where
  looksUp : ∀ connection schema table d, Value.IsText table →
    ∃ reply,
      (driver (.execute connection (.raw tableExistsSql [.text schema, table])) d).1 = .ok reply
  lists : ∀ connection schema table d, Value.IsText table →
    ∃ reply,
      (driver (.execute connection (.raw columnNamesSql [.text schema, table])) d).1 = .ok reply
  defines : ∀ connection sql ddl d tables, Ddl.read? (points sql) = some ddl →
    ddl.apply (schemas d home) = some tables →
    ∃ reply, (driver (.execute connection ⟨sql, []⟩) d).1 = .ok reply

/-- A definition that was applied finds nothing to do a second time. -/
theorem Ddl.apply_apply {old new : Tables} {ddl : Ddl} (h : ddl.apply old = some new) :
    ddl.apply new = some new := by
  cases ddl with
  | createTable table columns =>
    rw [apply] at h ⊢
    split at h
    · next hthere =>
      cases h
      rw [if_pos hthere]
    · split at h
      · cases h
        rw [Function.update_self, if_pos (Option.isSome_some)]
      · cases h
  | addColumn table column =>
    obtain ⟨columns, hcolumns, hnew⟩ := Option.map_eq_some_iff.1 h
    rw [apply]
    split at hnew
    · next hthere =>
      subst hnew
      rw [hcolumns, Option.map_some, if_pos hthere]
    · subst hnew
      rw [Function.update_self, Option.map_some, if_pos]
      rw [columnPoints, List.map_append]
      exact List.mem_append_right _ List.mem_cons_self

/-! ## Columns behind those that are there -/

/-- Columns with that of a field behind them, unless it is there already. -/
def withField (columns : List Column) (d : FieldDefinition) : List Column :=
  if (columnPoints columns).contains d.name.points then columns else columns ++ [d.declared]

theorem withField_of_mem {columns : List Column} {d : FieldDefinition}
    (h : d.name.points ∈ columnPoints columns) : withField columns d = columns :=
  if_pos (List.contains_iff_mem.2 h)

theorem withField_of_not_mem {columns : List Column} {d : FieldDefinition}
    (h : d.name.points ∉ columnPoints columns) : withField columns d = columns ++ [d.declared] :=
  if_neg fun hcontains => h (List.contains_iff_mem.1 hcontains)

theorem mem_columnPoints_withField {columns : List Column} {d : FieldDefinition} {p : List Point} :
    p ∈ columnPoints (withField columns d) ↔ p ∈ columnPoints columns ∨ d.name.points = p := by
  by_cases hthere : d.name.points ∈ columnPoints columns
  · rw [withField_of_mem hthere]
    refine ⟨.inl, fun h => h.elim id ?_⟩
    rintro rfl
    exact hthere
  · rw [withField_of_not_mem hthere, columnPoints, List.map_append, List.mem_append,
      List.map_singleton, List.mem_singleton, ← columnPoints]
    exact or_congr_right eq_comm

/-- Columns with those of fields behind them, unless they are there already. -/
def withFields (columns : List Column) (fields : List FieldDefinition) : List Column :=
  fields.foldl withField columns

theorem mem_columnPoints_withFields {columns : List Column} {fields : List FieldDefinition}
    {p : List Point} : p ∈ columnPoints (withFields columns fields) ↔
      p ∈ columnPoints columns ∨ ∃ d ∈ fields, d.name.points = p := by
  induction fields generalizing columns with
  | nil => simp [withFields]
  | cons d fields ih =>
    rw [withFields, List.foldl_cons, ← withFields, ih, mem_columnPoints_withField, or_assoc]
    simp

/-- Fields that all have their columns add none. -/
theorem withFields_eq_self {columns : List Column} {fields : List FieldDefinition}
    (h : ∀ d ∈ fields, d.name.points ∈ columnPoints columns) :
    withFields columns fields = columns := by
  induction fields with
  | nil => rfl
  | cons d fields ih =>
    obtain ⟨hd, hfields⟩ := List.forall_mem_cons.1 h
    rw [withFields, List.foldl_cons, withField_of_mem hd, ← withFields, ih hfields]

/-! ## What a reconciliation comes to -/

/-- What a reconciliation comes to on a server that answers, with the columns of the table that it
is shown and the tables of the server's home before and behind it. A table that is not shown is
created, and fields that are not shown are added, in the home; what cannot be written or applied
there is refused. -/
inductive Reconciles (table : Value) (schema : FieldSchema) (shown : Option (List Column))
    (old : Tables) :
    Except Fault (List Value) → Tables → Prop
  | created {sql : Sql} {new : Tables} (hshown : shown = none)
    (hsql : createTable table schema = .ok sql)
    (hnew : (Ddl.createTable table.points schema.tableColumns).apply old = some new) :
    Reconciles table schema shown old (.ok (createdColumns schema)) new
  | uncreated {fault : Fault} (hshown : shown = none)
    (hnot : ∀ sql, createTable table schema = .ok sql →
      (Ddl.createTable table.points schema.tableColumns).apply old = none) :
    Reconciles table schema shown old (.error fault) old
  | upToDate {columns : List Column} (hshown : shown = some columns)
    (hnil : schema.lacking columns = []) :
    Reconciles table schema shown old (.ok []) old
  | widened {columns there : List Column} {sqls : List Sql} (hshown : shown = some columns)
    (hlacking : schema.lacking columns ≠ [])
    (hsqls : addColumns table (schema.lacking columns) = .ok sqls)
    (hthere : old table.points = some there) :
    Reconciles table schema shown old (.ok ((schema.lacking columns).map (·.name)))
      (Function.update old table.points (some (withFields there (schema.lacking columns))))
  | unwidened {columns : List Column} {fault : Fault} (hshown : shown = some columns)
    (hlacking : schema.lacking columns ≠ [])
    (hnot : ∀ sqls, addColumns table (schema.lacking columns) = .ok sqls →
      old table.points = none) :
    Reconciles table schema shown old (.error fault) old

namespace Reconciles

variable {table : Value} {schema : FieldSchema} {shown : Option (List Column)}
  {old new new' : Tables}
  {added : List Value} {r : Except Fault (List Value)}

/-- A reconciliation that is shown the same as one before it gives the same answer, and changes
nothing. -/
theorem again (h : Reconciles table schema shown old (.ok added) new)
    (h' : Reconciles table schema shown new r new') : r = .ok added ∧ new' = new := by
  cases h with
  | created hshown hsql hnew =>
    -- the table is not shown to the second one either, though it is there by now
    have hagain := Ddl.apply_apply hnew
    cases h' with
    | created _ _ hnew' => exact ⟨rfl, Option.some.inj (hnew'.symm.trans hagain)⟩
    | uncreated _ hnot => cases (hnot _ hsql).symm.trans hagain
    | upToDate hshown' _ | widened hshown' _ _ _ | unwidened hshown' _ _ =>
      cases hshown.symm.trans hshown'
  | upToDate hshown hnil =>
    cases h' with
    | upToDate _ _ => exact ⟨rfl, rfl⟩
    | created hshown' _ _ | uncreated hshown' _ => cases hshown.symm.trans hshown'
    | widened hshown' hlacking _ _ | unwidened hshown' hlacking _ =>
      cases hshown.symm.trans hshown'
      exact absurd hnil hlacking
  | widened hshown hlacking hsqls hthere =>
    cases h' with
    | created hshown' _ _ | uncreated hshown' _ => cases hshown.symm.trans hshown'
    | upToDate hshown' hnil =>
      cases hshown.symm.trans hshown'
      exact absurd hnil hlacking
    | widened hshown' _ _ hthere' =>
      cases hshown.symm.trans hshown'
      rw [Function.update_self] at hthere'
      obtain rfl := Option.some.inj hthere'
      -- every field has got its column already
      rw [withFields_eq_self fun d hd => mem_columnPoints_withFields.2 (.inr ⟨d, hd, rfl⟩)]
      exact ⟨rfl, Function.update_idem _ _ _⟩
    | unwidened hshown' _ hnot =>
      cases hshown.symm.trans hshown'
      cases (Function.update_self _ _ _).symm.trans (hnot _ hsqls)

/-- A reconciliation that was shown the table of the home, and returned, has left a column for every
declared field. -/
theorem declared (h : Reconciles table schema (old table.points) old (.ok added) new) :
    ∃ there, new table.points = some there ∧
      ∀ d ∈ schema.userFields, d.name.points ∈ columnPoints there := by
  cases h with
  | created hshown _ hnew =>
    have hnone : ¬(old table.points).isSome = true := by
      rw [hshown]
      exact Bool.false_ne_true
    rw [Ddl.apply, if_neg hnone] at hnew
    split at hnew
    · cases hnew
      refine ⟨_, Function.update_self _ _ _, fun d hd => ?_⟩
      rw [FieldSchema.columnPoints_tableColumns]
      exact List.mem_append_right _ (List.mem_map_of_mem hd)
    · cases hnew
  | @upToDate columns hshown hnil =>
    refine ⟨columns, hshown, fun d hd => ?_⟩
    have h := List.filter_eq_nil_iff.1 hnil d hd
    simpa using h
  | @widened columns there sqls hshown _ _ hthere =>
    -- the columns that were shown are those that are there, so nothing is left out
    cases hshown.symm.trans hthere
    refine ⟨_, Function.update_self _ _ _, fun d hd => mem_columnPoints_withFields.2 ?_⟩
    by_cases hmem : d.name.points ∈ columnPoints columns
    · exact .inl hmem
    · exact .inr ⟨d, List.mem_filter.2 ⟨hd, by simpa using hmem⟩, rfl⟩

/-- A table that was not shown is there behind a reconciliation that returned, and has a name. -/
theorem created_there (h : Reconciles table schema none old (.ok added) new) :
    IsName table ∧ ∃ there, new table.points = some there := by
  cases h with
  | created _ hsql hnew =>
    obtain ⟨_, -, hrest⟩ := bind_eq_ok.1 hsql
    obtain ⟨_, hname, -⟩ := bind_eq_ok.1 hrest
    refine ⟨(nameOf_eq_ok.1 hname).1, ?_⟩
    rw [Ddl.apply] at hnew
    split at hnew
    · next hthere =>
      cases hnew
      exact Option.isSome_iff_exists.1 hthere
    · split at hnew
      · cases hnew
        exact ⟨_, Function.update_self _ _ _⟩
      · cases hnew
  | upToDate hshown _ | widened hshown _ _ _ => cases hshown

/-- A table that is shown, and that is there, is brought up to any valid schema. -/
theorem returns (h : Reconciles table schema shown old r new) (htable : IsName table)
    (hvalid : ∀ d ∈ schema.fields, d.Valid) {columns there : List Column}
    (hshown : shown = some columns) (hthere : old table.points = some there) :
    ∃ added, r = .ok added := by
  cases h with
  | created | upToDate | widened => exact ⟨_, rfl⟩
  | uncreated hnone _ => cases hshown.symm.trans hnone
  | @unwidened columns' _ _ _ hnot =>
    have hfields : ∀ d ∈ schema.lacking columns', d.Valid := fun d hd =>
      FieldSchema.valid_of_mem_userFields hvalid d (List.mem_of_mem_filter hd)
    obtain ⟨sqls, hsqls⟩ := exists_addColumns htable hfields
    cases hthere.symm.trans (hnot sqls hsqls)

/-- A table that is not shown, and that is there, is said to be created. -/
theorem recreated (h : Reconciles table schema none old r new) (htable : IsName table)
    (hvalid : ∀ d ∈ schema.fields, d.Valid) {there : List Column}
    (hthere : old table.points = some there) :
    r = .ok (createdColumns schema) ∧ new = old := by
  have happly : (Ddl.createTable table.points schema.tableColumns).apply old = some old := by
    rw [Ddl.apply, if_pos (by rw [hthere]; rfl)]
  cases h with
  | created _ _ hnew => exact ⟨rfl, Option.some.inj (hnew.symm.trans happly)⟩
  | uncreated _ hnot =>
    obtain ⟨sql, hsql⟩ := exists_createTable htable hvalid
    cases (hnot sql hsql).symm.trans happly
  | upToDate hshown _ | widened hshown _ _ _ | unwidened hshown _ _ => cases hshown

end Reconciles

/-! ## Steps on a server that answers -/

section Steps

variable {σ ω τ : Type} {s : Session σ ω τ} {home : String} {schemas : σ → Schemas}
  {w w' : World σ ω τ} {connection : Nat} {table : Value} {schema : FieldSchema}

/-- A definition comes first: it is applied in the home and gone on from, or it cannot be applied
and is refused. -/
theorem execute_bind_defined {α : Type} (hserves : Serves s.driver home schemas)
    (hanswers : Answers s.driver home schemas)
    (hlive : w.connector.live? = some connection) {sql : Sql} {ddl : Ddl}
    (hddl : Ddl.read? (points sql) = some ddl) {next : QueryResult → Step σ ω τ α}
    {r : Except Fault α} (hrun : run (execute s ⟨sql, []⟩ >>= next) w = (r, w')) :
    (∃ reply v tables, World.Behind connection [⟨sql, []⟩] w v ∧
        ddl.apply (schemas w.link.driver home) = some tables ∧
        schemas v.link.driver = Function.update (schemas w.link.driver) home tables ∧
        run (next (.ofReply reply)) v = (r, w')) ∨
      (∃ fault, r = .error fault) ∧ ddl.apply (schemas w.link.driver home) = none ∧
        schemas w'.link.driver = schemas w.link.driver := by
  rcases execute_bind_served hserves hlive hrun with
    ⟨reply, v, hbehind, hreply, hrest⟩ | ⟨message, ⟨words, hrefused⟩, -, hsame, rfl⟩
  · obtain ⟨tables, happly, hschemas⟩ := hserves.defines _ _ _ _ _ _ hddl hreply
    exact .inl ⟨reply, v, tables, hbehind, happly, hschemas, hrest⟩
  · refine .inr ⟨⟨_, rfl⟩, ?_, hsame⟩
    cases happly : ddl.apply (schemas w.link.driver home) with
    | none => rfl
    | some tables =>
      obtain ⟨reply, hreply⟩ := hanswers.defines connection sql ddl _ tables hddl happly
      cases hreply.symm.trans hrefused

/-- Whether a table exists is answered. -/
theorem tableExists_answered (hserves : Serves s.driver home schemas)
    (hanswers : Answers s.driver home schemas) (hlive : w.connector.live? = some connection)
    (htable : table.IsText) {r : Except Fault Bool} (hrun : run (tableExists s table) w = (r, w')) :
    World.Behind connection [catalogQuery s tableExistsSql table] w w' ∧
      schemas w'.link.driver = schemas w.link.driver ∧
      r = .ok (schemas w.link.driver s.tableSchema table.points).isSome := by
  obtain ⟨hbehind, hsame, hr | ⟨message, ⟨words, hrefused⟩, -⟩⟩ :=
    tableExists_served hserves hlive htable hrun
  · exact ⟨hbehind, hsame, hr⟩
  · obtain ⟨reply, hreply⟩ := hanswers.looksUp connection s.tableSchema table w.link.driver htable
    cases hreply.symm.trans hrefused

/-- The columns of a table are listed. -/
theorem existingColumns_answered (hserves : Serves s.driver home schemas)
    (hanswers : Answers s.driver home schemas) (hlive : w.connector.live? = some connection)
    (htable : table.IsText) {r : Except Fault (List Value)}
    (hrun : run (existingColumns s table) w = (r, w')) :
    World.Behind connection [catalogQuery s columnNamesSql table] w w' ∧
      schemas w'.link.driver = schemas w.link.driver ∧
      ∃ names, r = .ok names ∧ ∀ v : Value, v.IsText → ((names.any fun n => n.same v) = true ↔
        v.points ∈ columnPoints ((schemas w.link.driver s.tableSchema table.points).getD [])) := by
  obtain ⟨hbehind, hsame, hr | ⟨message, ⟨words, hrefused⟩, -⟩⟩ :=
    existingColumns_served hserves hlive htable hrun
  · exact ⟨hbehind, hsame, hr⟩
  · obtain ⟨reply, hreply⟩ := hanswers.lists connection s.tableSchema table w.link.driver htable
    cases hreply.symm.trans hrefused

/-- Columns are added to a table that is there. -/
theorem addAll_answered (hserves : Serves s.driver home schemas)
    (hanswers : Answers s.driver home schemas) (hlive : w.connector.live? = some connection)
    {fields : List FieldDefinition} {sqls : List Sql} (hsqls : addColumns table fields = .ok sqls)
    {there : List Column} (hthere : schemas w.link.driver home table.points = some there)
    {r : Except Fault Unit} (hrun : run (addAll s table sqls) w = (r, w')) :
    r = .ok () ∧
      schemas w'.link.driver = (schemas w.link.driver).set home table.points
        (withFields there fields) := by
  induction fields generalizing w there sqls with
  | nil =>
    cases hsqls
    cases hrun
    exact ⟨rfl, (Schemas.set_eq_self hthere).symm⟩
  | cons d fields ih =>
    obtain ⟨sql, rest, hsql, hrestSqls, rfl⟩ := mapM_cons_eq_ok.1 hsqls
    have happlied : (Ddl.addColumn table.points d.declared).apply (schemas w.link.driver home) =
        some (Function.update (schemas w.link.driver home) table.points
          (some (withField there d))) := by
      rw [Ddl.apply, hthere, Option.map_some]
      split
      · next hmem => rw [withField_of_mem hmem, ← hthere, Function.update_eq_self]
      · next hmem => rw [withField_of_not_mem hmem]
    rcases execute_bind_defined hserves hanswers hlive (read_addColumn hsql) hrun with
      ⟨reply, v, tables, hbehind, happly, hschemas, hrest⟩ | ⟨-, happly, -⟩
    · cases happlied.symm.trans happly
      rw [run_log_bind] at hrest
      have hvthere : schemas (v.log .debug "Column added" [(.text "table_name", table),
          (.text "ddl", .text (Sql.text sql))]).link.driver home table.points =
          some (withField there d) := by
        show schemas v.link.driver home table.points = _
        rw [hschemas]
        exact Schemas.set_self _ _ _ _
      obtain ⟨hr, hlast⟩ := ih (w := v.log _ _ _) (hbehind.live hlive) hrestSqls hvthere hrest
      refine ⟨hr, ?_⟩
      rw [hlast]
      show (schemas v.link.driver).set _ _ _ = _
      rw [hschemas]
      exact Schemas.set_set _ _ _ _ _
    · cases happly.symm.trans happlied

/-- No column is added to a table that is not there. -/
theorem addAll_refused (hserves : Serves s.driver home schemas)
    (hanswers : Answers s.driver home schemas) (hlive : w.connector.live? = some connection)
    {fields : List FieldDefinition} {sqls : List Sql} (hsqls : addColumns table fields = .ok sqls)
    (hfields : fields ≠ []) (hthere : schemas w.link.driver home table.points = none)
    {r : Except Fault Unit} (hrun : run (addAll s table sqls) w = (r, w')) :
    (∃ fault, r = .error fault) ∧ schemas w'.link.driver = schemas w.link.driver := by
  cases fields with
  | nil => exact absurd rfl hfields
  | cons d fields =>
    obtain ⟨sql, rest, hsql, -, rfl⟩ := mapM_cons_eq_ok.1 hsqls
    rcases execute_bind_defined hserves hanswers hlive (read_addColumn hsql) hrun with
      ⟨reply, v, tables, -, happly, -⟩ | ⟨hfault, -, hsame⟩
    · rw [Ddl.apply, hthere, Option.map_none] at happly
      cases happly
    · exact ⟨hfault, hsame⟩

/-- What a reconciliation does on a server that answers: it comes to what is made of the table that
is shown in the schema of the settings and of the tables of the home, it touches no other schema,
and where it returns no columns it has only looked. -/
structure Brings (s : Session σ ω τ) (home : String) (schemas : σ → Schemas) (connection : Nat)
    (table : Value) (schema : FieldSchema) (w w' : World σ ω τ) (r : Except Fault (List Value)) :
    Prop where
  reconciles : ∃ tables, Reconciles table schema (schemas w.link.driver s.tableSchema table.points)
      (schemas w.link.driver home) r tables ∧
    schemas w'.link.driver = Function.update (schemas w.link.driver) home tables
  looked : r = .ok [] → ∃ sts, World.Behind connection sts w w' ∧ ∀ st ∈ sts,
    st = catalogQuery s tableExistsSql table ∨ st = catalogQuery s columnNamesSql table

theorem createdColumns_ne_nil (schema : FieldSchema) : createdColumns schema ≠ [] :=
  List.cons_ne_nil _ _

variable (hserves : Serves s.driver home schemas) (hanswers : Answers s.driver home schemas)

include hserves hanswers

/-- A table that is not shown is created. -/
theorem createMissingTable_brings (hlive : w.connector.live? = some connection)
    (hshown : schemas w.link.driver s.tableSchema table.points = none)
    {r : Except Fault (List Value)} (hrun : run (createMissingTable s table schema) w = (r, w')) :
    Brings s home schemas connection table schema w w' r := by
  rcases demand_bind_cases hrun with ⟨sql, hsql, hrun⟩ | ⟨fault, hfault, rfl, rfl⟩
  · rcases execute_bind_defined hserves hanswers hlive (read_createTable hsql) hrun with
      ⟨reply, v, tables, hbehind, happly, hschemas, hrest⟩ | ⟨⟨fault, rfl⟩, hnone, hsame⟩
    · rw [run_log_bind] at hrest
      cases hrest
      exact ⟨⟨tables, .created hshown hsql happly, hschemas⟩,
        fun h => absurd (Except.ok.inj h) (createdColumns_ne_nil schema)⟩
    · refine ⟨⟨_, .uncreated hshown fun _ _ => hnone, ?_⟩, fun h => nomatch h⟩
      rw [hsame, Function.update_eq_self]
  · -- what cannot be written is not asked for
    refine ⟨⟨_, .uncreated hshown fun sql hsql => (nomatch hsql.symm.trans hfault), ?_⟩,
      fun h => nomatch h⟩
    rw [Function.update_eq_self]

/-- A table that is shown gets the columns that it is not shown to have. -/
theorem widenTable_brings (hlive : w.connector.live? = some connection) (htable : table.IsText)
    (hvalid : ∀ d ∈ schema.fields, d.Valid) {columns : List Column}
    (hshown : schemas w.link.driver s.tableSchema table.points = some columns)
    {r : Except Fault (List Value)} (hrun : run (widenTable s table schema) w = (r, w')) :
    Brings s home schemas connection table schema w w' r := by
  rcases Step.bind_cases hrun with ⟨listed, v, hlist, hrest⟩ | ⟨fault, hlist, rfl⟩
  swap
  · obtain ⟨-, -, names, hr, -⟩ := existingColumns_answered hserves hanswers hlive htable hlist
    cases hr
  obtain ⟨hbehind, hsame, names, hr, hnames⟩ :=
    existingColumns_answered hserves hanswers hlive htable hlist
  cases hr
  rw [hshown, Option.getD_some] at hnames
  rw [missingFields_eq_lacking hvalid hnames] at hrest
  dsimp only at hrest
  split at hrest
  · next hempty =>
    cases hrest
    refine ⟨⟨_, .upToDate hshown (List.isEmpty_iff.1 hempty), ?_⟩,
      fun _ => ⟨_, hbehind, fun st hst => ?_⟩⟩
    · rw [hsame, Function.update_eq_self]
    · exact .inr (List.mem_singleton.1 hst)
  · next hempty =>
    have hlacking : schema.lacking columns ≠ [] := fun h => hempty (List.isEmpty_iff.2 h)
    rcases demand_bind_cases hrest with ⟨sqls, hsqls, hrest⟩ | ⟨fault, hfault, rfl, rfl⟩
    swap
    · refine ⟨⟨_, .unwidened hshown hlacking fun sqls hsqls => ?_, ?_⟩, fun h => nomatch h⟩
      · cases hsqls.symm.trans hfault
      rw [hsame, Function.update_eq_self]
    -- the columns are added in the home, where the table is or is not
    cases hthere : schemas v.link.driver home table.points with
    | none =>
      rcases Step.bind_cases hrest with ⟨_, u, hadd, -⟩ | ⟨fault, hadd, rfl⟩
      · obtain ⟨⟨fault, hfault⟩, -⟩ :=
          addAll_refused hserves hanswers (hbehind.live hlive) hsqls hlacking hthere hadd
        cases hfault
      · obtain ⟨-, hunchanged⟩ :=
          addAll_refused hserves hanswers (hbehind.live hlive) hsqls hlacking hthere hadd
        rw [hsame] at hthere
        refine ⟨⟨_, .unwidened hshown hlacking fun _ _ => hthere, ?_⟩, fun h => nomatch h⟩
        rw [hunchanged, hsame, Function.update_eq_self]
    | some there =>
      rcases Step.bind_cases hrest with ⟨_, u, hadd, hlast⟩ | ⟨fault, hadd, rfl⟩
      · obtain ⟨-, hadded⟩ :=
          addAll_answered hserves hanswers (hbehind.live hlive) hsqls hthere hadd
        rw [run_log_bind] at hlast
        cases hlast
        rw [hsame] at hthere hadded
        refine ⟨⟨_, .widened hshown hlacking hsqls hthere, hadded⟩, fun h => ?_⟩
        exact absurd (List.map_eq_nil_iff.1 (Except.ok.inj h)) hlacking
      · obtain ⟨hr, -⟩ := addAll_answered hserves hanswers (hbehind.live hlive) hsqls hthere hadd
        cases hr

/-- A reconciliation with a valid schema on a live connection. -/
theorem reconcile_brings {source : SchemaSource} (hlive : w.connector.live? = some connection)
    (htable : table.IsText) (hschema : FieldSchema.of source = .ok schema)
    (hvalid : schema.ensureValid = .ok ()) {r : Except Fault (List Value)}
    (hrun : run (reconcile s table source) w = (r, w')) :
    Brings s home schemas connection table schema w w' r := by
  rw [run_reconcile s hlive hschema hvalid htable.ensureHashable] at hrun
  rcases Step.bind_cases hrun with ⟨present, v, hlook, hrest⟩ | ⟨fault, hlook, rfl⟩
  swap
  · obtain ⟨-, -, hr⟩ := tableExists_answered hserves hanswers hlive htable hlook
    cases hr
  obtain ⟨hbehind, hsame, hr⟩ := tableExists_answered hserves hanswers hlive htable hlook
  cases hr
  -- the first lookup changes nothing, and its answer is true
  have hbrings : Brings s home schemas connection table schema v w' r := by
    cases hshown : schemas w.link.driver s.tableSchema table.points with
    | none =>
      rw [hshown] at hrest
      exact createMissingTable_brings hserves hanswers (hbehind.live hlive)
        (by rw [hsame, hshown]) hrest
    | some columns =>
      rw [hshown] at hrest
      exact widenTable_brings hserves hanswers (hbehind.live hlive) htable
        (valid_of_ensureValid hvalid)
        (by rw [hsame, hshown]) hrest
  obtain ⟨hreconciles, hlooked⟩ := hbrings
  rw [hsame] at hreconciles
  refine ⟨hreconciles, fun h => ?_⟩
  obtain ⟨sts, hsts, hlookups⟩ := hlooked h
  exact ⟨_, hbehind.trans hsts, List.forall_mem_cons.2 ⟨.inl rfl, hlookups⟩⟩

end Steps

/-! ## What comes behind a reconciliation -/

section Behind

variable {σ ω τ : Type}

/-- A table is there for whoever comes next, with a column for every declared field. Lookups say so;
the same reconciliation finds nothing to do and only looks; and one with another schema gives each
of its fields a column of the table that the inserts name. -/
structure Found (s : Session σ ω τ) (home : String) (schemas : σ → Schemas) (table : Value)
    (source : SchemaSource) (schema : FieldSchema) (w : World σ ω τ) : Prop where
  present : (run (tableExists s table) w).1 = .ok true
  listed : ∃ names, (run (existingColumns s table) w).1 = .ok names ∧
    ∀ d ∈ schema.userFields, (names.any fun n => n.same d.name) = true
  again : ∃ connection sts w', run (reconcile s table source) w = (.ok [], w') ∧
    schemas w'.link.driver = schemas w.link.driver ∧ World.Behind connection sts w w' ∧
    ∀ st ∈ sts, st = catalogQuery s tableExistsSql table ∨ st = catalogQuery s columnNamesSql table
  wider : IsName table → ∀ source' wide, FieldSchema.of source' = .ok wide →
    wide.ensureValid = .ok () →
    ∃ added w' there, run (reconcile s table source') w = (.ok added, w') ∧
      (∀ d ∈ wide.userFields, d.name.points ∈ columnPoints there) ∧
      ∀ row st, compileInsert wide table (.map row) = .ok st → ∃ ts target,
        Sql.read st.points = some ts ∧
        Sql.names ts = target :: (Entries.keys row).map Value.points ∧
        schemas w'.link.driver home target = some there

/-- A table is not there for whoever comes next. The schema that is looked at is as it was; the same
reconciliation says once more that it has made what it said it had made, and makes nothing; and
where no table is looked at, lookups deny the table, and a reconciliation with any schema says that
it creates it, and adds nothing to it. -/
structure Missed (s : Session σ ω τ) (schemas : σ → Schemas) (table : Value) (source : SchemaSource)
    (added : List Value) (w v : World σ ω τ) : Prop where
  unseen : schemas v.link.driver s.tableSchema = schemas w.link.driver s.tableSchema
  again : ∃ v', run (reconcile s table source) v = (.ok added, v') ∧
    schemas v'.link.driver = schemas v.link.driver
  absent : schemas w.link.driver s.tableSchema table.points = none →
    (run (tableExists s table) v).1 = .ok false ∧
    ∀ source' wide, FieldSchema.of source' = .ok wide → wide.ensureValid = .ok () →
      ∃ v', run (reconcile s table source') v = (.ok (createdColumns wide), v') ∧
        schemas v'.link.driver = schemas v.link.driver

variable {s : Session σ ω τ} {home : String} {schemas : σ → Schemas} {w v : World σ ω τ}
  {connection : Nat} {table : Value} {source : SchemaSource} {schema : FieldSchema}
  {added : List Value}
  (hserves : Serves s.driver home schemas) (hanswers : Answers s.driver home schemas)
  (hlive : v.connector.live? = some connection) (htable : table.IsText)
  (hschema : FieldSchema.of source = .ok schema) (hvalid : schema.ensureValid = .ok ())

include hserves hanswers hlive htable hschema hvalid

/-- A table with a column for every declared field, in a home that is the schema of the settings, is
found. -/
theorem found_of_declared (hhome : s.tableSchema = home) {there : List Column}
    (hthere : schemas v.link.driver home table.points = some there)
    (hdeclared : ∀ d ∈ schema.userFields, d.name.points ∈ columnPoints there) :
    Found s home schemas table source schema v := by
  have hshown : schemas v.link.driver s.tableSchema table.points = some there := by
    rw [hhome, hthere]
  refine ⟨?present, ?listed, ?again, ?wider⟩
  case present =>
    rcases hrun : run (tableExists s table) v with ⟨r, v'⟩
    obtain ⟨-, -, rfl⟩ := tableExists_answered hserves hanswers hlive htable hrun
    rw [hshown]
    rfl
  case listed =>
    rcases hrun : run (existingColumns s table) v with ⟨r, v'⟩
    obtain ⟨-, -, names, rfl, hnames⟩ := existingColumns_answered hserves hanswers hlive htable hrun
    refine ⟨names, rfl, fun d hd => ?_⟩
    have htext := (FieldSchema.valid_of_mem_userFields (valid_of_ensureValid hvalid) d hd).isText
    rw [hnames d.name htext, hshown]
    exact hdeclared d hd
  case again =>
    rcases hrun : run (reconcile s table source) v with ⟨r, v'⟩
    obtain ⟨⟨tables, hreconciles, hschemas⟩, hlooked⟩ :=
      reconcile_brings hserves hanswers hlive htable hschema hvalid hrun
    -- a table that lacks nothing is up to date, and a reconciliation comes to one thing alone
    have hnil := FieldSchema.lacking_eq_nil hdeclared
    have hupToDate : Reconciles table schema (some there) (schemas v.link.driver home) (.ok [])
        (schemas v.link.driver home) := .upToDate rfl hnil
    rw [hshown] at hreconciles
    obtain ⟨rfl, rfl⟩ := hupToDate.again hreconciles
    obtain ⟨sts, hbehind, hlookups⟩ := hlooked rfl
    refine ⟨connection, sts, v', rfl, ?_, hbehind, hlookups⟩
    rw [hschemas, Function.update_eq_self]
  case wider =>
    intro hname source' wide hwide hwideValid
    rcases hrun : run (reconcile s table source') v with ⟨r, v'⟩
    obtain ⟨⟨tables, hreconciles, hschemas⟩, -⟩ :=
      reconcile_brings hserves hanswers hlive htable hwide hwideValid hrun
    obtain ⟨more, rfl⟩ := hreconciles.returns hname (valid_of_ensureValid hwideValid) hshown hthere
    rw [hhome] at hreconciles
    obtain ⟨columns, hcolumns, hfields⟩ := hreconciles.declared
    refine ⟨more, v', columns, rfl, hfields, fun row st hst => ?_⟩
    obtain ⟨ts, hread, hnames⟩ := names_of_compileInsert hst
    refine ⟨ts, _, hread, hnames, ?_⟩
    rw [hschemas, Function.update_self, hcolumns]

/-- A reconciliation whose home is not the schema of the settings has made what no other one
sees. -/
theorem missed_of_reconciles (hhome : s.tableSchema ≠ home) {tables : Tables}
    (hreconciles : Reconciles table schema (schemas w.link.driver s.tableSchema table.points)
      (schemas w.link.driver home) (.ok added) tables)
    (hschemas : schemas v.link.driver = Function.update (schemas w.link.driver) home tables) :
    Missed s schemas table source added w v := by
  -- only the home has changed, and that is not where a later reconciliation looks
  have hunseen : schemas v.link.driver s.tableSchema = schemas w.link.driver s.tableSchema := by
    rw [hschemas, Function.update_of_ne hhome]
  have htables : schemas v.link.driver home = tables := by
    rw [hschemas, Function.update_self]
  refine ⟨hunseen, ?again, ?absent⟩
  case again =>
    rcases hrun : run (reconcile s table source) v with ⟨r, v'⟩
    obtain ⟨⟨tables', hreconciles', hschemas'⟩, -⟩ :=
      reconcile_brings hserves hanswers hlive htable hschema hvalid hrun
    rw [hunseen, htables] at hreconciles'
    obtain ⟨rfl, rfl⟩ := hreconciles.again hreconciles'
    refine ⟨v', rfl, ?_⟩
    rw [hschemas', ← htables, Function.update_eq_self]
  case absent =>
    intro hnone
    have hvnone : schemas v.link.driver s.tableSchema table.points = none := by
      rw [hunseen, hnone]
    constructor
    · rcases hrun : run (tableExists s table) v with ⟨r, v'⟩
      obtain ⟨-, -, rfl⟩ := tableExists_answered hserves hanswers hlive htable hrun
      rw [hvnone]
      rfl
    · intro source' wide hwide hwideValid
      rw [hnone] at hreconciles
      obtain ⟨hname, there, hthere⟩ := hreconciles.created_there
      rcases hrun : run (reconcile s table source') v with ⟨r, v'⟩
      obtain ⟨⟨tables', hreconciles', hschemas'⟩, -⟩ :=
        reconcile_brings hserves hanswers hlive htable hwide hwideValid hrun
      rw [hvnone] at hreconciles'
      rw [← htables] at hthere
      obtain ⟨rfl, rfl⟩ := hreconciles'.recreated hname (valid_of_ensureValid hwideValid) hthere
      refine ⟨v', rfl, ?_⟩
      rw [hschemas', Function.update_eq_self]

end Behind

/-- Behind a reconciliation that has returned, on a server that answers, the table is found with a
column for every declared field when the schema of the settings is the home of the server, whatever
it is called, and it is missed when it is not. -/
theorem reconciled_table_found_at_home {σ ω τ : Type} (s : Session σ ω τ) {home : String}
    {schemas : σ → Schemas} (hserves : Serves s.driver home schemas)
    (hanswers : Answers s.driver home schemas) {table : Value} (htable : table.IsText)
    {source : SchemaSource} {w v : World σ ω τ} {added : List Value}
    (hrun : run (reconcile s table source) w = (.ok added, v)) :
    ∃ schema, FieldSchema.of source = .ok schema ∧
      (s.tableSchema = home → Found s home schemas table source schema v) ∧
      (s.tableSchema ≠ home → Missed s schemas table source added w v) := by
  rcases reconcile_cases hrun with ⟨fault, hfault, -⟩ | ⟨connection, schema, hlive,
    hschema, hvalid, -⟩
  · cases hfault
  obtain ⟨⟨tables, hreconciles, hschemas⟩, -⟩ :=
    reconcile_brings hserves hanswers hlive htable hschema hvalid hrun
  have hvlive : v.connector.live? = some connection := by
    have hkept := (routine_reconcile s table source).connector w
    rw [hrun] at hkept
    rw [hkept, hlive]
  refine ⟨schema, hschema, fun hhome => ?_, fun hhome => ?_⟩
  · rw [hhome] at hreconciles
    obtain ⟨there, hthere, hdeclared⟩ := hreconciles.declared
    have hvthere : schemas v.link.driver home table.points = some there := by
      rw [hschemas, Function.update_self, hthere]
    exact found_of_declared hserves hanswers hvlive htable hschema hvalid hhome hvthere hdeclared
  · exact missed_of_reconciles hserves hanswers hvlive htable hschema hvalid hhome
      hreconciles hschemas

/-! ### Sessions on a server that answers -/

/-- The driver of a server that refuses nothing that it can do. -/
def CatalogServer.willing (home : String) : Driver CatalogServer :=
  fun r d => driver home r { d with refusals := [] }

theorem CatalogServer.willing_serves (home : String) : Serves (willing home) home schemas where
  refuses r d message d' h := (serves home).refuses r { d with refusals := [] } message d' h
  looksUp connection schema table d reply d' htable h :=
    (serves home).looksUp connection schema table { d with refusals := [] } reply d' htable h
  lists connection schema table d reply d' htable h :=
    (serves home).lists connection schema table { d with refusals := [] } reply d' htable h
  defines connection sql ddl d reply d' hddl h :=
    (serves home).defines connection sql ddl { d with refusals := [] } reply d' hddl h

theorem CatalogServer.willing_execute (home : String) (connection : Nat) (st : Statement)
    (d : CatalogServer) :
    (willing home (.execute connection st) d).1 = (serve home st { d with refusals := [] }).1 := rfl

theorem CatalogServer.willing_answers (home : String) : Answers (willing home) home schemas where
  looksUp connection schema table d _ := by
    rw [willing_execute, serve, Statement.raw]
    dsimp only
    rw [if_pos rfl]
    exact ⟨_, rfl⟩
  lists connection schema table d _ := by
    rw [willing_execute, serve, Statement.raw]
    dsimp only
    rw [if_neg (by decide +kernel), if_pos rfl]
    exact ⟨_, rfl⟩
  defines connection sql ddl d tables hddl happly := by
    rw [willing_execute, serve]
    dsimp only
    rw [hddl, Option.map_some, happly]
    exact ⟨_, rfl⟩

/-- A session that looks into a schema of a server whose home is the public one. -/
def publicSession (schema : String) : Session CatalogServer LabelledObserver Labels :=
  ⟨.standard, .percentEncoding, schema, CatalogServer.willing "public", LabelledObserver.react,
    numberedUuid, echoMetadata⟩

/-- The world behind a reconciliation on an empty server. -/
def worldBehind (schema : String) : World CatalogServer LabelledObserver Labels :=
  (run (reconcile (publicSession schema) (.text "t") (schemaOf [("a\"b", "String")]))
    (catalogWorld [])).2

/-- A reconciliation of the same table behind it. -/
def reconciledBehind (schema : String) (fields : List (String × String)) :
    Except Fault (List Value) × World CatalogServer LabelledObserver Labels :=
  run (reconcile (publicSession schema) (.text "t") (schemaOf fields)) (worldBehind schema)

theorem found_in_publicSession :
    ∃ added schema,
      run (reconcile (publicSession "public") (.text "t") (schemaOf [("a\"b", "String")]))
        (catalogWorld []) = (.ok added, worldBehind "public") ∧
      FieldSchema.of (schemaOf [("a\"b", "String")]) = .ok schema ∧
      Found (publicSession "public") "public" CatalogServer.schemas (.text "t")
        (schemaOf [("a\"b", "String")]) schema (worldBehind "public") := by
  have hreconciled :
      (run (reconcile (publicSession "public") (.text "t") (schemaOf [("a\"b", "String")]))
        (catalogWorld [])).1.toOption.any (fun _ => true) = true := by decide +kernel
  obtain ⟨added, hadded, -⟩ := exists_of_check hreconciled
  have hrun : run (reconcile (publicSession "public") (.text "t") (schemaOf [("a\"b", "String")]))
      (catalogWorld []) = (.ok added, worldBehind "public") := Prod.ext hadded rfl
  have htable : (Value.text "t").IsText := trivial
  obtain ⟨schema, hschema, hfound, -⟩ := reconciled_table_found_at_home (publicSession "public")
    (CatalogServer.willing_serves "public") (CatalogServer.willing_answers "public") htable hrun
  exact ⟨added, schema, hrun, hschema, hfound rfl⟩

/-- A session that looks elsewhere denies a table that it has made, makes it a second time, and says
that it creates the columns of a wider schema that it does not add. -/
theorem missed_in_other_schema :
    (run (tableExists (publicSession "app") (.text "t")) (worldBehind "app")).1.toOption =
        some false ∧
      (reconciledBehind "app" [("a\"b", "String")]).1.toOption.map List.length = some 9 ∧
      (reconciledBehind "app" [("a\"b", "String"), ("n", "Number")]).1.toOption.map List.length =
        some 10 ∧
      ((reconciledBehind "app" [("a\"b", "String"), ("n", "Number")]).2.link.driver.schemas
        "public" (Text.points "t")).map List.length = some 9 := by
  decide +kernel

end DocumentStore
