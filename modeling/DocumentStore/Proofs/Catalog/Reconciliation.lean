import DocumentStore.Proofs.Catalog.Server
import DocumentStore.Proofs.Schema.Valid
import DocumentStore.Session.Rehearsal

/-!
# Reconciling is additive

Under a server, a reconciliation that returns has put the columns that a table lacked behind those
that it had, or has created the table, and gives the names of what it has made; one that fails has
made a first part of it (`Brought`). Over any sequence of reconciliations tables only grow, each
call touches its own table alone, and a call that repeats one that returned finds nothing to do
(`reconciliations_additive`).
-/

set_option autoImplicit false

namespace DocumentStore

open Fallible Sql Session Step

open Text (Point)

/-! ## What a table lacks -/

namespace FieldSchema

/-- The declared fields that columns have no place for. -/
def lacking (s : FieldSchema) (columns : List Column) : List FieldDefinition :=
  s.userFields.filter fun d => !(columnPoints columns).contains d.name.points

/-- The columns that a table gets: those that it lacks, or all when there is no table. -/
def newColumns (s : FieldSchema) : Option (List Column) → List Column
  | none => s.tableColumns
  | some columns => (s.lacking columns).map (·.declared)

theorem columnPoints_declared (ds : List FieldDefinition) :
    columnPoints (ds.map (·.declared)) = ds.map fun d => d.name.points := by
  rw [columnPoints, List.map_map]
  rfl

theorem columnPoints_tableColumns (s : FieldSchema) :
    columnPoints s.tableColumns =
      systemColumns.map (fun c => Text.points c.1) ++ s.userFields.map fun d => d.name.points := by
  rw [tableColumns, columnPoints, List.map_append, ← columnPoints, ← columnPoints,
    columnPoints_declared, columnPoints, List.map_map]
  rfl

/-- A table with the columns that it gets has a place for every declared field. -/
theorem mem_columnPoints_newColumns (s : FieldSchema) (columns : Option (List Column))
    {d : FieldDefinition} (hd : d ∈ s.userFields) :
    d.name.points ∈ columnPoints (columns.getD [] ++ s.newColumns columns) := by
  rw [columnPoints, List.map_append, List.mem_append, ← columnPoints, ← columnPoints]
  cases columns with
  | none =>
    right
    rw [newColumns, columnPoints_tableColumns]
    exact List.mem_append_right _ (List.mem_map_of_mem hd)
  | some columns =>
    by_cases hthere : d.name.points ∈ columnPoints columns
    · exact .inl hthere
    · right
      rw [newColumns, columnPoints_declared]
      exact List.mem_map_of_mem (List.mem_filter.2 ⟨hd, by simpa using hthere⟩)

variable {s : FieldSchema}

/-- The columns that a table gets are new, and each comes once. -/
theorem newColumns_fresh (hdistinct : s.Distinct) (hvalid : ∀ d ∈ s.fields, d.Valid)
    (columns : Option (List Column)) :
    (columnPoints (s.newColumns columns)).Nodup ∧
      ∀ p ∈ columnPoints (s.newColumns columns), p ∉ columnPoints (columns.getD []) := by
  cases columns with
  | none =>
    rw [newColumns, columnPoints_tableColumns]
    exact ⟨nodup_created hdistinct hvalid, fun p _ => List.not_mem_nil⟩
  | some columns =>
    rw [newColumns, columnPoints_declared]
    refine ⟨(nodup_userFields hdistinct hvalid).sublist (List.filter_sublist.map _), ?_⟩
    intro p hp
    obtain ⟨d, hd, rfl⟩ := List.mem_map.1 hp
    simpa using (List.mem_filter.1 hd).2

/-- Nothing is lacking where every declared field has its place. -/
theorem lacking_eq_nil {columns : List Column}
    (h : ∀ d ∈ s.userFields, d.name.points ∈ columnPoints columns) : s.lacking columns = [] := by
  rw [lacking, List.filter_eq_nil_iff]
  intro d hd
  simpa using h d hd

end FieldSchema

/-! ## The steps of a reconciliation -/

section Steps

variable {σ ω τ : Type} {s : Session σ ω τ} {home : String} {schemas : σ → Schemas}
  {w w' : World σ ω τ} {connection : Nat} {table : Value} {schema : FieldSchema}

/-- Creating a table makes all of its columns, or nothing. -/
theorem createMissingTable_served (hserves : Serves s.driver home schemas)
    (hlive : w.connector.live? = some connection) (hdistinct : schema.Distinct)
    (hvalid : ∀ d ∈ schema.fields, d.Valid)
    (habsent : schemas w.link.driver home table.points = none) {r : Except Fault (List Value)}
    (hrun : run (createMissingTable s table schema) w = (r, w')) :
    (r = .ok (createdColumns schema) ∧
        schemas w'.link.driver =
          (schemas w.link.driver).set home table.points schema.tableColumns) ∨
      ∃ fault, r = .error fault ∧ schemas w'.link.driver = schemas w.link.driver := by
  rcases demand_bind_cases hrun with ⟨sql, hsql, hrun⟩ | ⟨fault, -, rfl, rfl⟩
  swap
  · exact .inr ⟨fault, rfl, rfl⟩
  rcases execute_bind_served hserves hlive hrun with
    ⟨reply, v, -, hreply, hrest⟩ | ⟨message, -, -, hsame, rfl⟩
  · obtain ⟨tables, happly, hschemas⟩ :=
      hserves.defines _ _ _ _ _ _ (read_createTable hsql) hreply
    -- the table is not there, and no two of its columns have one name, so it is made
    have hnodup : (columnPoints schema.tableColumns).Nodup := by
      rw [FieldSchema.columnPoints_tableColumns]
      exact FieldSchema.nodup_created hdistinct hvalid
    have hnone : ¬(schemas w.link.driver home table.points).isSome = true := by
      rw [habsent]
      exact Bool.false_ne_true
    rw [Ddl.apply, if_neg hnone, if_pos hnodup] at happly
    cases happly
    rw [run_log_bind] at hrest
    cases hrest
    exact .inl ⟨rfl, hschemas⟩
  · exact .inr ⟨_, rfl, hsame⟩

/-- Adding columns makes them in order, up to the first that is refused. -/
theorem addAll_served (hserves : Serves s.driver home schemas)
    (hlive : w.connector.live? = some connection) {fields : List FieldDefinition} {sqls : List Sql}
    (hsqls : addColumns table fields = .ok sqls) {columns : List Column}
    (hcolumns : schemas w.link.driver home table.points = some columns)
    (hnodup : (fields.map fun d => d.name.points).Nodup)
    (hnew : ∀ d ∈ fields, d.name.points ∉ columnPoints columns) {r : Except Fault Unit}
    (hrun : run (addAll s table sqls) w = (r, w')) :
    ∃ made, made <+: fields ∧
      schemas w'.link.driver = (schemas w.link.driver).set home table.points
        (columns ++ made.map (·.declared)) ∧
      (r = .ok () ∧ made = fields ∨ ∃ fault, r = .error fault) := by
  induction fields generalizing w columns sqls with
  | nil =>
    cases hsqls
    cases hrun
    refine ⟨[], List.prefix_refl _, ?_, .inl ⟨rfl, rfl⟩⟩
    rw [List.map_nil, List.append_nil, Schemas.set_eq_self hcolumns]
  | cons d fields ih =>
    obtain ⟨sql, rest, hsql, hrestSqls, rfl⟩ := mapM_cons_eq_ok.1 hsqls
    obtain ⟨hdnew, hfieldsNew⟩ := List.forall_mem_cons.1 hnew
    obtain ⟨hdonce, hnodup⟩ := List.nodup_cons.1 hnodup
    rcases execute_bind_served hserves hlive hrun with
      ⟨reply, v, hbehind, hreply, hrest⟩ | ⟨message, -, -, hsame, rfl⟩
    · obtain ⟨tables, happly, hschemas⟩ :=
        hserves.defines _ _ _ _ _ _ (read_addColumn hsql) hreply
      rw [Ddl.apply, hcolumns, Option.map_some,
        if_neg (show d.declared.name ∉ columnPoints columns from hdnew)] at happly
      cases happly
      -- the others are new beside the column that has come
      have hstill : ∀ e ∈ fields, e.name.points ∉ columnPoints (columns ++ [d.declared]) := by
        intro e he hmem
        rw [columnPoints, List.map_append, List.mem_append] at hmem
        rcases hmem with hmem | hmem
        · exact hfieldsNew e he hmem
        · have heq : e.name.points = d.name.points := List.mem_singleton.1 hmem
          exact hdonce (List.mem_map.2 ⟨e, he, heq⟩)
      have hvcolumns : schemas v.link.driver home table.points =
          some (columns ++ [d.declared]) := by
        rw [hschemas]
        exact Schemas.set_self _ _ _ _
      rw [run_log_bind] at hrest
      obtain ⟨made, hmade, hschemas', hr⟩ :=
        ih (w := v.log _ _ _) (hbehind.live hlive) hrestSqls hvcolumns hnodup hstill hrest
      refine ⟨d :: made, List.cons_prefix_cons.2 ⟨rfl, hmade⟩, ?_, ?_⟩
      · rw [hschemas']
        show (schemas v.link.driver).set _ _ _ = _
        rw [hschemas, List.append_assoc]
        exact Schemas.set_set _ _ _ _ _
      · rcases hr with ⟨hr, rfl⟩ | hr
        · exact .inl ⟨hr, rfl⟩
        · exact .inr hr
    · -- the first one is refused, and nothing has been made
      refine ⟨[], List.nil_prefix, ?_, .inr ⟨_, rfl⟩⟩
      rw [hsame, List.map_nil, List.append_nil, Schemas.set_eq_self hcolumns]

/-- The fields that are added are those that the table lacks. -/
theorem missingFields_eq_lacking (hvalid : ∀ d ∈ schema.fields, d.Valid) {names : List Value}
    {columns : List Column}
    (hnames : ∀ v : Value, v.IsText → ((names.any fun n => n.same v) = true ↔
      v.points ∈ columnPoints columns)) :
    missingFields schema names = schema.lacking columns := by
  refine List.filter_congr fun d hd => ?_
  have h := hnames d.name (FieldSchema.valid_of_mem_userFields hvalid d hd).isText
  -- a name that is listed twice, or out of order, is still that of a column
  by_cases hmem : d.name.points ∈ columnPoints columns
  · simp [h.2 hmem, hmem]
  · have hnot : (names.any fun n => n.same d.name) = false := by
      rw [← Bool.not_eq_true, h]
      exact hmem
    simp [hnot, hmem]

/-- Widening a table makes the columns that it lacks in order, up to the first that is refused. -/
theorem widenTable_served (hserves : Serves s.driver s.tableSchema schemas)
    (hlive : w.connector.live? = some connection) (htable : table.IsText)
    (hdistinct : schema.Distinct) (hvalid : ∀ d ∈ schema.fields, d.Valid) {columns : List Column}
    (hcolumns : schemas w.link.driver s.tableSchema table.points = some columns)
    {r : Except Fault (List Value)} (hrun : run (widenTable s table schema) w = (r, w')) :
    (∃ made, made <+: schema.lacking columns ∧
      schemas w'.link.driver = (schemas w.link.driver).set s.tableSchema table.points
        (columns ++ made.map (·.declared)) ∧
      (r = .ok ((schema.lacking columns).map (·.name)) ∧ made = schema.lacking columns ∨
        ∃ fault, r = .error fault)) ∧
    (schema.lacking columns = [] →
      World.Behind connection [catalogQuery s columnNamesSql table] w w' ∧
      (r = .ok [] ∨ ∃ message, r = .error (.driver message))) := by
  have hnothing : schemas w.link.driver = (schemas w.link.driver).set s.tableSchema table.points
      (columns ++ ([] : List FieldDefinition).map (·.declared)) := by
    rw [List.map_nil, List.append_nil, Schemas.set_eq_self hcolumns]
  rcases Step.bind_cases hrun with ⟨names, v, hlist, hrest⟩ | ⟨fault, hlist, rfl⟩
  · obtain ⟨hbehind, hsame, ⟨names', hr, hnames⟩ | ⟨message, -, hr⟩⟩ :=
      existingColumns_served hserves hlive htable hlist
    swap
    · cases hr
    cases hr
    rw [hcolumns, Option.getD_some] at hnames
    rw [missingFields_eq_lacking hvalid hnames] at hrest
    dsimp only at hrest
    -- where nothing is lacking the list of names is all that is asked for
    split at hrest
    · next hempty =>
      have hnil : schema.lacking columns = [] := List.isEmpty_iff.1 hempty
      cases hrest
      rw [hnil]
      exact ⟨⟨[], List.prefix_refl _, hsame.trans hnothing, .inl ⟨rfl, rfl⟩⟩,
        fun _ => ⟨hbehind, .inl rfl⟩⟩
    · next hempty =>
      refine ⟨?_, fun hnil => absurd (List.isEmpty_iff.2 hnil) hempty⟩
      rcases demand_bind_cases hrest with ⟨sqls, hsqls, hrest⟩ | ⟨fault, -, rfl, rfl⟩
      swap
      · exact ⟨[], List.nil_prefix, hsame.trans hnothing, .inr ⟨fault, rfl⟩⟩
      have hfresh := FieldSchema.newColumns_fresh hdistinct hvalid (some columns)
      rw [FieldSchema.newColumns, FieldSchema.columnPoints_declared, Option.getD_some] at hfresh
      have hvcolumns : schemas v.link.driver s.tableSchema table.points = some columns := by
        rw [hsame, hcolumns]
      have hnew : ∀ d ∈ schema.lacking columns, d.name.points ∉ columnPoints columns :=
        fun d hd => hfresh.2 _ (List.mem_map_of_mem hd)
      -- the columns are added one by one: all of them, or those up to a refusal
      rcases Step.bind_cases hrest with ⟨_, u, hadd, hlast⟩ | ⟨fault, hadd, rfl⟩
      · obtain ⟨made, -, hschemas, ⟨-, rfl⟩ | ⟨fault, hfault⟩⟩ :=
          addAll_served hserves (hbehind.live hlive) hsqls hvcolumns hfresh.1 hnew hadd
        · rw [run_log_bind] at hlast
          cases hlast
          rw [hsame] at hschemas
          exact ⟨_, List.prefix_refl _, hschemas, .inl ⟨rfl, rfl⟩⟩
        · cases hfault
      · obtain ⟨made, hmade, hschemas, -⟩ :=
          addAll_served hserves (hbehind.live hlive) hsqls hvcolumns hfresh.1 hnew hadd
        rw [hsame] at hschemas
        exact ⟨made, hmade, hschemas, .inr ⟨fault, rfl⟩⟩
  · obtain ⟨hbehind, hsame, ⟨names', hr, -⟩ | ⟨message, -, hr⟩⟩ :=
      existingColumns_served hserves hlive htable hlist
    · cases hr
    · cases hr
      exact ⟨⟨[], List.nil_prefix, hsame.trans hnothing, .inr ⟨_, rfl⟩⟩,
        fun _ => ⟨hbehind, .inr ⟨message, rfl⟩⟩⟩

/-- A reconciliation, with what the server had before it and has behind it: one that returns has
made the columns that the table gets, one that fails a first part of them. -/
structure Brought (home : String) (table : Value) (schema : FieldSchema) (old new : Schemas)
    (r : Except Fault (List Value)) : Prop where
  returned : ∀ added, r = .ok added →
    new = old.set home table.points ((old home table.points).getD [] ++
      schema.newColumns (old home table.points)) ∧
    columnPoints (schema.newColumns (old home table.points)) = added.map Value.points ∧
    ∀ v ∈ added, v.IsText
  raised : ∀ fault, r = .error fault → new = old ∨ ∃ columns made,
    old home table.points = some columns ∧ made <+: schema.lacking columns ∧
    new = old.set home table.points (columns ++ made.map (·.declared))

theorem createdColumns_points (schema : FieldSchema) :
    columnPoints schema.tableColumns = (createdColumns schema).map Value.points := by
  rw [FieldSchema.columnPoints_tableColumns, createdColumns, List.map_append, List.map_map,
    List.map_map]
  rfl

theorem isText_createdColumns (hvalid : ∀ d ∈ schema.fields, d.Valid) :
    ∀ v ∈ createdColumns schema, v.IsText := by
  intro v hv
  rcases List.mem_append.1 hv with hv | hv
  · obtain ⟨c, -, rfl⟩ := List.mem_map.1 hv
    trivial
  · obtain ⟨d, hd, rfl⟩ := List.mem_map.1 hv
    exact (FieldSchema.valid_of_mem_userFields hvalid d hd).isText

/-- Bringing up a table makes what it lacks; where it lacks nothing there are only lookups. -/
theorem bringUp_served (hserves : Serves s.driver s.tableSchema schemas)
    (hlive : w.connector.live? = some connection) (htable : table.IsText)
    (hdistinct : schema.Distinct) (hvalid : ∀ d ∈ schema.fields, d.Valid)
    {r : Except Fault (List Value)} (hrun : run (bringUp s table schema) w = (r, w')) :
    Brought s.tableSchema table schema (schemas w.link.driver) (schemas w'.link.driver) r ∧
    ∀ columns, schemas w.link.driver s.tableSchema table.points = some columns →
      schema.lacking columns = [] →
      (∃ sts, World.Behind connection sts w w' ∧ ∀ st ∈ sts,
        st = catalogQuery s tableExistsSql table ∨ st = catalogQuery s columnNamesSql table) ∧
      (r = .ok [] ∨ ∃ message, r = .error (.driver message)) := by
  rcases Step.bind_cases hrun with ⟨present, v, hlook, hrest⟩ | ⟨fault, hlook, rfl⟩
  · obtain ⟨hbehind, hsame, hr | ⟨message, -, hr⟩⟩ := tableExists_served hserves hlive htable hlook
    swap
    · cases hr
    cases hr
    -- the answer is true, so the table is created where there is none, and widened otherwise
    cases htables : schemas w.link.driver s.tableSchema table.points with
    | none =>
      rw [htables] at hrest
      have habsent : schemas v.link.driver s.tableSchema table.points = none := by
        rw [hsame, htables]
      have hcreated :=
        createMissingTable_served hserves (hbehind.live hlive) hdistinct hvalid habsent
        hrest
      rw [hsame] at hcreated
      refine ⟨⟨fun added hadded => ?_, fun fault hfault => ?_⟩,
        fun columns hcolumns => (nomatch hcolumns)⟩
      · rw [htables, Option.getD_none, List.nil_append, FieldSchema.newColumns]
        rcases hcreated with ⟨hr, hschemas⟩ | ⟨fault, hr, -⟩
        · rw [hadded] at hr
          cases hr
          exact ⟨hschemas, createdColumns_points schema, isText_createdColumns hvalid⟩
        · rw [hadded] at hr
          cases hr
      · rcases hcreated with ⟨hr, -⟩ | ⟨-, -, hschemas⟩
        · rw [hfault] at hr
          cases hr
        · exact .inl hschemas
    | some columns =>
      rw [htables] at hrest
      have hvcolumns : schemas v.link.driver s.tableSchema table.points = some columns := by
        rw [hsame, htables]
      obtain ⟨⟨made, hmade, hschemas, hr⟩, hnothing⟩ :=
        widenTable_served hserves (hbehind.live hlive) htable hdistinct hvalid hvcolumns hrest
      rw [hsame] at hschemas
      refine ⟨⟨fun added hadded => ?_, fun fault hfault => ?_⟩, fun columns' hcolumns' hnil => ?_⟩
      · rw [htables, Option.getD_some, FieldSchema.newColumns]
        rcases hr with ⟨hr, rfl⟩ | ⟨fault, hr⟩
        · rw [hadded] at hr
          cases hr
          refine ⟨hschemas, ?_, fun v hv => ?_⟩
          · rw [FieldSchema.columnPoints_declared, List.map_map]
            rfl
          · obtain ⟨d, hd, rfl⟩ := List.mem_map.1 hv
            have hfield := List.mem_of_mem_filter hd
            exact (FieldSchema.valid_of_mem_userFields hvalid d hfield).isText
        · rw [hadded] at hr
          cases hr
      · exact .inr ⟨columns, made, htables, hmade, hschemas⟩
      · cases hcolumns'
        obtain ⟨hlist, hr⟩ := hnothing hnil
        refine ⟨⟨_, hbehind.trans hlist, ?_⟩, hr⟩
        intro st hst
        simpa using hst
  · -- the first lookup is refused
    obtain ⟨hbehind, hsame, hr | ⟨message, -, hr⟩⟩ := tableExists_served hserves hlive htable hlook
    · cases hr
    cases hr
    refine ⟨⟨fun added hadded => (nomatch hadded), fun _ _ => .inl hsame⟩, fun columns _ _ =>
      ⟨⟨_, hbehind, ?_⟩, .inr ⟨message, rfl⟩⟩⟩
    intro st hst
    exact .inl (List.mem_singleton.1 hst)

end Steps

/-! ## Reconciliations one after the other -/

/-- A table and what its schema is built from. -/
structure ReconcileCall where
  table : Value
  source : SchemaSource

/-- What is assumed of a call: the name of a table is a text, and the schema comes from a
mapping. -/
def ReconcileCall.WellFormed (c : ReconcileCall) : Prop := c.table.IsText ∧ c.source.FromMapping

/-- A call that was made, with its result and the worlds before and behind it. -/
structure Reconciled (σ ω τ : Type) where
  call : ReconcileCall
  before : World σ ω τ
  result : Except Fault (List Value)
  after : World σ ω τ

variable {σ ω τ : Type}

/-- A call that is made in a world. -/
def reconciled (s : Session σ ω τ) (w : World σ ω τ) (c : ReconcileCall) : Reconciled σ ω τ :=
  ⟨c, w, (run (reconcile s c.table c.source) w).1, (run (reconcile s c.table c.source) w).2⟩

/-- Calls that are made one after the other. -/
def reconciliations (s : Session σ ω τ) : World σ ω τ → List ReconcileCall → List (Reconciled σ ω τ)
  | _, [] => []
  | w, c :: cs => reconciled s w c :: reconciliations s (reconciled s w c).after cs

theorem map_call_reconciliations (s : Session σ ω τ) (w : World σ ω τ)
    (calls : List ReconcileCall) :
    (reconciliations s w calls).map (·.call) = calls := by
  induction calls generalizing w with
  | nil => rfl
  | cons c cs ih => rw [reconciliations, List.map_cons, ih]; rfl

namespace Reconciled

/-- What a reconciliation does to the schemas of a server. Nothing is taken away; only the named
table changes; one that returns has put further columns behind those of the table, has a place for
every declared field, and gives the names of the new columns in their order; one that fails has put
a first part of the lacking columns behind those of a table that there was, or has changed
nothing. -/
structure Additive (home : String) (schemas : σ → Schemas) (a : Reconciled σ ω τ) : Prop where
  extends_before : (schemas a.before.link.driver).Extends (schemas a.after.link.driver)
  others : ∀ schema table, (schema, table) ≠ (home, a.call.table.points) →
    schemas a.after.link.driver schema table = schemas a.before.link.driver schema table
  returned : ∀ added, a.result = .ok added → ∃ schema columns more,
    FieldSchema.of a.call.source = .ok schema ∧
    columns = (schemas a.before.link.driver home a.call.table.points).getD [] ∧
    more = schema.newColumns (schemas a.before.link.driver home a.call.table.points) ∧
    schemas a.after.link.driver home a.call.table.points = some (columns ++ more) ∧
    columnPoints more = added.map Value.points ∧ (∀ v ∈ added, v.IsText) ∧
    (columnPoints more).Nodup ∧ (∀ p ∈ columnPoints more, p ∉ columnPoints columns) ∧
    ∀ d ∈ schema.userFields, d.name.points ∈ columnPoints (columns ++ more)
  raised : ∀ fault, a.result = .error fault →
    schemas a.after.link.driver = schemas a.before.link.driver ∨ ∃ schema columns made,
      FieldSchema.of a.call.source = .ok schema ∧
      schemas a.before.link.driver home a.call.table.points = some columns ∧
      made <+: schema.lacking columns ∧
      schemas a.after.link.driver home a.call.table.points =
        some (columns ++ made.map (·.declared))

/-- A reconciliation that finds nothing to do: it asks what there is and sends no definition, and
nothing changes. It gives no columns, unless a lookup is refused. -/
structure Idle (s : Session σ ω τ) (schemas : σ → Schemas) (a : Reconciled σ ω τ) : Prop where
  unchanged : schemas a.after.link.driver = schemas a.before.link.driver
  lookups : ∃ (connection : Nat) (sts : List Statement),
    a.after.link.requests = a.before.link.requests ++ sts.map (.execute connection) ∧
    ∀ st ∈ sts, st = catalogQuery s tableExistsSql a.call.table ∨
      st = catalogQuery s columnNamesSql a.call.table
  result_eq : a.result = .ok [] ∨ ∃ message, a.result = .error (.driver message)

end Reconciled

section Runs

variable {s : Session σ ω τ} {schemas : σ → Schemas}

/-- One call is additive. -/
theorem additive_of_run (hserves : Serves s.driver s.tableSchema schemas) {a : Reconciled σ ω τ}
    (hcall : a.call.WellFormed)
    (hrun : run (reconcile s a.call.table a.call.source) a.before = (a.result, a.after)) :
    a.Additive s.tableSchema schemas := by
  rcases reconcile_cases hrun with ⟨fault, hfault, hafter⟩ |
    ⟨connection, schema, hlive, hschema, hvalid, hbring⟩
  · refine ⟨?_, fun _ _ _ => ?_, fun added hadded => ?_, fun _ _ => .inl ?_⟩
    · rw [hafter]
      exact Schemas.Extends.refl _
    · rw [hafter]
    · rw [hfault] at hadded
      cases hadded
    · rw [hafter]
  · have hdistinct := FieldSchema.distinct_of_mapping hcall.2 hschema
    have hfields := valid_of_ensureValid hvalid
    obtain ⟨⟨hreturned, hraised⟩, -⟩ :=
      bringUp_served hserves hlive hcall.1 hdistinct hfields hbring
    -- in every case the table is set to its columns and some more
    have hset : schemas a.after.link.driver = schemas a.before.link.driver ∨ ∃ more,
        schemas a.after.link.driver = (schemas a.before.link.driver).set s.tableSchema
          a.call.table.points
          ((schemas a.before.link.driver s.tableSchema a.call.table.points).getD [] ++ more) := by
      cases hresult : a.result with
      | ok added => exact .inr ⟨_, (hreturned added hresult).1⟩
      | error fault =>
        rcases hraised fault hresult with hsame | ⟨columns, made, hcolumns, -, hmade⟩
        · exact .inl hsame
        · exact .inr ⟨made.map (·.declared), by rw [hmade, hcolumns, Option.getD_some]⟩
    refine ⟨?_, fun name t hne => ?_, fun added hadded => ?_, fun fault hfault => ?_⟩
    · rcases hset with hsame | ⟨more, hset⟩
      · rw [hsame]
        exact Schemas.Extends.refl _
      · rw [hset]
        exact Schemas.extends_set _ _ _ _
    · rcases hset with hsame | ⟨more, hset⟩
      · rw [hsame]
      · rw [hset, Schemas.set_of_ne _ _ hne]
    · obtain ⟨hnew, hpoints, htexts⟩ := hreturned added hadded
      obtain ⟨hnodup, hfresh⟩ := FieldSchema.newColumns_fresh hdistinct hfields
        (schemas a.before.link.driver s.tableSchema a.call.table.points)
      refine ⟨schema, _, _, hschema, rfl, rfl, ?_, hpoints, htexts, hnodup, hfresh, fun d hd =>
        schema.mem_columnPoints_newColumns _ hd⟩
      rw [hnew, Schemas.set_self]
    · rcases hraised fault hfault with hsame | ⟨columns, made, hcolumns, hmade, hnew⟩
      · exact .inl hsame
      · exact .inr ⟨schema, columns, made, hschema, hcolumns, hmade, by
          rw [hnew, Schemas.set_self]⟩

/-- A call whose table has every declared field is idle. -/
theorem idle_of_run (hserves : Serves s.driver s.tableSchema schemas) {a : Reconciled σ ω τ}
    (hcall : a.call.WellFormed)
    (hrun : run (reconcile s a.call.table a.call.source) a.before = (a.result, a.after))
    {connection : Nat} (hlive : a.before.connector.live? = some connection) {schema : FieldSchema}
    (hschema : FieldSchema.of a.call.source = .ok schema) (hvalid : schema.ensureValid = .ok ())
    {columns : List Column}
    (hcolumns : schemas a.before.link.driver s.tableSchema a.call.table.points = some columns)
    (hthere : ∀ d ∈ schema.userFields, d.name.points ∈ columnPoints columns) :
    a.Idle s schemas := by
  -- nothing is lacking, so there are only lookups
  have hnil := FieldSchema.lacking_eq_nil hthere
  have hdistinct := FieldSchema.distinct_of_mapping hcall.2 hschema
  rw [run_reconcile s hlive hschema hvalid hcall.1.ensureHashable] at hrun
  obtain ⟨⟨hreturned, hraised⟩, hnothing⟩ :=
    bringUp_served hserves hlive hcall.1 hdistinct (valid_of_ensureValid hvalid) hrun
  obtain ⟨⟨sts, hbehind, hlookups⟩, hresult⟩ := hnothing columns hcolumns hnil
  refine ⟨?_, ⟨connection, sts, hbehind.requests, hlookups⟩, hresult⟩
  cases hr : a.result with
  | ok added =>
    rw [(hreturned added hr).1, hcolumns, FieldSchema.newColumns, hnil, Option.getD_some,
      List.map_nil, List.append_nil, Schemas.set_eq_self hcolumns]
  | error fault =>
    rcases hraised fault hr with hsame | ⟨columns', made, hcolumns', hmade, hnew⟩
    · exact hsame
    · rw [hcolumns] at hcolumns'
      cases hcolumns'
      rw [hnil, List.prefix_nil] at hmade
      rw [hnew, hmade, List.map_nil, List.append_nil, Schemas.set_eq_self hcolumns]

/-- Calls that are made one after the other are runs, from worlds that have grown from the first,
with its connector. -/
theorem mem_reconciliations (hserves : Serves s.driver s.tableSchema schemas)
    {calls : List ReconcileCall} (hcalls : ∀ c ∈ calls, c.WellFormed) (w : World σ ω τ) :
    ∀ a ∈ reconciliations s w calls, a.call.WellFormed ∧
      run (reconcile s a.call.table a.call.source) a.before = (a.result, a.after) ∧
      a.before.connector = w.connector ∧
      (schemas w.link.driver).Extends (schemas a.before.link.driver) := by
  induction calls generalizing w with
  | nil => exact fun a ha => absurd ha List.not_mem_nil
  | cons c cs ih =>
    obtain ⟨hc, hcs⟩ := List.forall_mem_cons.1 hcalls
    refine List.forall_mem_cons.2 ⟨⟨hc, rfl, rfl, Schemas.Extends.refl _⟩, fun a ha => ?_⟩
    -- the first call keeps the connector and lets tables grow, and so do those up to this one
    obtain ⟨hwell, hrun, hconnector, hextends⟩ := ih hcs _ a ha
    have hfirst := (additive_of_run hserves (a := reconciled s w c) hc rfl).extends_before
    have hkept := (routine_reconcile s c.table c.source).connector w
    exact ⟨hwell, hrun, hconnector.trans hkept, hfirst.trans hextends⟩

/-- A call that repeats one that returned is idle, when tables have only grown since. -/
theorem idle_of_repeated (hserves : Serves s.driver s.tableSchema schemas)
    {a b : Reconciled σ ω τ} (ha : a.call.WellFormed) (hb : b.call.WellFormed)
    (harun : run (reconcile s a.call.table a.call.source) a.before = (a.result, a.after))
    (hbrun : run (reconcile s b.call.table b.call.source) b.before = (b.result, b.after))
    (hconnector : b.before.connector = a.before.connector)
    (hextends : (schemas a.after.link.driver).Extends (schemas b.before.link.driver))
    {added : List Value} (hadded : a.result = .ok added) (htable : b.call.table = a.call.table)
    (hsource : FieldSchema.of b.call.source = FieldSchema.of a.call.source) :
    b.Idle s schemas := by
  rcases reconcile_cases harun with ⟨fault, hfault, -⟩ | ⟨connection, schema, hlive,
    hschema, hvalid, -⟩
  · rw [hfault] at hadded
    cases hadded
  obtain ⟨schema', columns, more, hschema', -, -, hafter, -, -, -, -, hthere⟩ :=
    (additive_of_run hserves ha harun).returned added hadded
  obtain rfl := result_unique hschema hschema'
  -- the columns that the first call has left are still there, with others behind them
  obtain ⟨further, hbefore⟩ := hextends _ _ _ hafter
  rw [← htable] at hbefore
  refine idle_of_run hserves hb hbrun (by rw [hconnector, hlive]) (hsource.trans hschema) hvalid
    hbefore fun d hd => ?_
  rw [columnPoints, List.map_append]
  exact List.mem_append_left _ (hthere d hd)

end Runs

/-- Reconciliations of any tables with any schemas that come from mappings, one after the other,
under a server that may refuse any statement. Each is additive; what one leaves is never taken away
by those behind it; and a call that repeats one that returned, for the same table and the same
schema, finds nothing to do. -/
theorem reconciliations_additive (s : Session σ ω τ) {schemas : σ → Schemas}
    (hserves : Serves s.driver s.tableSchema schemas) (w : World σ ω τ) {calls : List ReconcileCall}
    (hcalls : ∀ c ∈ calls, c.WellFormed) :
    (∀ a ∈ reconciliations s w calls,
      (schemas w.link.driver).Extends (schemas a.before.link.driver) ∧
      a.Additive s.tableSchema schemas) ∧
    (reconciliations s w calls).Pairwise fun a b =>
      (schemas a.after.link.driver).Extends (schemas b.before.link.driver) ∧
      ∀ added, a.result = .ok added → b.call.table = a.call.table →
        FieldSchema.of b.call.source = FieldSchema.of a.call.source → b.Idle s schemas := by
  constructor
  · intro a ha
    obtain ⟨hwell, hrun, -, hextends⟩ := mem_reconciliations hserves hcalls w a ha
    exact ⟨hextends, additive_of_run hserves hwell hrun⟩
  · induction calls generalizing w with
    | nil => exact List.Pairwise.nil
    | cons c cs ih =>
      obtain ⟨hc, hcs⟩ := List.forall_mem_cons.1 hcalls
      refine List.Pairwise.cons (fun b hb => ?_) (ih _ hcs)
      obtain ⟨hwell, hrun, hconnector, hextends⟩ := mem_reconciliations hserves hcs _ b hb
      have hkept := (routine_reconcile s c.table c.source).connector w
      refine ⟨hextends, fun added hadded htable hsource => ?_⟩
      exact idle_of_repeated hserves (a := reconciled s w c) hc hwell rfl hrun
        (hconnector.trans hkept)
        hextends hadded htable hsource

/-- A session on a server whose tables are in one schema. -/
def catalogSession : Session CatalogServer LabelledObserver Labels :=
  ⟨.standard, .percentEncoding, "public", CatalogServer.driver "public", LabelledObserver.react,
    numberedUuid, echoMetadata⟩

/-- A connected world on an empty server that refuses statements. -/
def catalogWorld (refusals : List (Option String)) : World CatalogServer LabelledObserver Labels :=
  { World.start ⟨fun _ _ => none, refusals⟩ [] with connector := ⟨.connected, some 1, some 1⟩ }

/-- A table that is created, and three times widened with two more fields. -/
def wideningCalls : List ReconcileCall :=
  let wide := schemaOf [("a\"b", "String"), ("n", "Number"), ("tags, \n)", "Mixed")]
  [⟨.text "t", schemaOf [("a\"b", "String")]⟩, ⟨.text "t", wide⟩, ⟨.text "t", wide⟩,
    ⟨.text "t", wide⟩]

/-- The server refuses the second column that the second call adds. -/
def refusingWorld : World CatalogServer LabelledObserver Labels :=
  catalogWorld [none, none, none, none, none, some "lock timeout"]

theorem additive_of_wideningCalls :
    (reconciliations catalogSession refusingWorld wideningCalls).map
        (fun a => a.result.toOption.map (·.map Value.display)) =
      [some ["_id", "_apiVersion", "_version", "_history", "_createdAt", "_createdBy",
        "_lastModifiedAt", "_lastModifiedBy", "a\"b"], none, some ["tags, \n)"], some []] ∧
    (∀ a ∈ reconciliations catalogSession refusingWorld wideningCalls,
      a.Additive "public" CatalogServer.schemas) ∧
    ∃ b, (reconciliations catalogSession refusingWorld wideningCalls)[3]? = some b ∧
      b.Idle catalogSession CatalogServer.schemas := by
  have hcalls : ∀ c ∈ wideningCalls, c.WellFormed := by
    intro c hc
    have hnarrow : (schemaOf [("a\"b", "String")]).FromMapping :=
      fromMapping_schemaOf (by decide) (by decide)
    have hwide :
        (schemaOf [("a\"b", "String"), ("n", "Number"), ("tags, \n)", "Mixed")]).FromMapping :=
      fromMapping_schemaOf (by decide) (by decide)
    simp only [wideningCalls, List.mem_cons, List.not_mem_nil, or_false] at hc
    rcases hc with rfl | rfl | rfl | rfl
    · exact ⟨trivial, hnarrow⟩
    all_goals exact ⟨trivial, hwide⟩
  have hresults : (reconciliations catalogSession refusingWorld wideningCalls).map
        (fun a => a.result.toOption.map (·.map Value.display)) =
      [some ["_id", "_apiVersion", "_version", "_history", "_createdAt", "_createdBy",
        "_lastModifiedAt", "_lastModifiedBy", "a\"b"], none, some ["tags, \n)"], some []] := by
    decide +kernel
  obtain ⟨hadditive, hlater⟩ := reconciliations_additive catalogSession
    (CatalogServer.serves "public") refusingWorld hcalls
  refine ⟨hresults, fun a ha => (hadditive a ha).2, ?_⟩
  -- the last call repeats the third, which has returned
  have hcalled := map_call_reconciliations catalogSession refusingWorld wideningCalls
  generalize reconciliations catalogSession refusingWorld wideningCalls = made
    at hresults hlater hcalled ⊢
  have hcall (i : Nat) : made[i]?.map (·.call) = wideningCalls[i]? := by
    rw [← List.getElem?_map, hcalled]
  have hresult : made[2]?.map (fun a => a.result.toOption.map (·.map Value.display)) =
      some (some ["tags, \n)"]) := by
    rw [← List.getElem?_map, hresults]
    rfl
  obtain ⟨a, ha, hacall⟩ := Option.map_eq_some_iff.1 (hcall 2)
  obtain ⟨b, hb, hbcall⟩ := Option.map_eq_some_iff.1 (hcall 3)
  rw [ha, Option.map_some] at hresult
  obtain ⟨hilt, rfl⟩ := List.getElem?_eq_some_iff.1 ha
  obtain ⟨hjlt, rfl⟩ := List.getElem?_eq_some_iff.1 hb
  obtain ⟨-, hrepeated⟩ := List.pairwise_iff_getElem.1 hlater 2 3 hilt hjlt (by decide)
  cases hadded : made[2].result with
  | error fault =>
    rw [hadded] at hresult
    cases hresult
  | ok added =>
    exact ⟨_, hb, hrepeated added hadded (by rw [hacall, hbcall]) (by rw [hacall, hbcall])⟩

end DocumentStore
