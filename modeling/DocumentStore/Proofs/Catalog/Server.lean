import DocumentStore.Proofs.Catalog.Ddl
import DocumentStore.Proofs.Session.Routine
import Mathlib.Logic.Function.Basic

/-!
# Servers with a catalog

A server has schemas, a schema has tables, and a table has its columns in order. `Serves` says what
a driver has to do with such a server: a statement that it refuses changes nothing, its answers
about tables are true, and it applies definitions of tables by their meaning, in the schema that
names without one belong to. Nothing is assumed about when it refuses.

Tables only grow under such a driver: `Schemas.Extends` is the order in which they do.
-/

set_option autoImplicit false

namespace DocumentStore

open Sql Session Step

open Text (Point)

/-! ## Tables -/

/-- The tables of a schema, by name, with their columns in order. -/
abbrev Tables := List Point → Option (List Column)

/-- The schemas of a server, by name. -/
abbrev Schemas := String → Tables

/-- The names of columns. -/
def columnPoints (columns : List Column) : List (List Point) := columns.map (·.name)

/-- Tables behind a definition, unless it cannot be applied: a table cannot have two columns of one
name, and a column needs a table. -/
def Ddl.apply (tables : Tables) : Ddl → Option Tables
  | .createTable table columns =>
    if (tables table).isSome then some tables
    else if (columnPoints columns).Nodup then some (Function.update tables table (some columns))
    else none
  | .addColumn table column =>
    (tables table).map fun columns =>
      if column.name ∈ columnPoints columns then tables
      else Function.update tables table (some (columns ++ [column]))

namespace Schemas

/-- Schemas in which a table has other columns. -/
def set (old : Schemas) (schema : String) (table : List Point) (columns : List Column) : Schemas :=
  Function.update old schema (Function.update (old schema) table (some columns))

@[simp] theorem set_self (old : Schemas) (schema : String) (table : List Point)
    (columns : List Column) : old.set schema table columns schema table = some columns := by
  simp [set]

theorem set_of_ne (old : Schemas) {schema name : String} {table t : List Point}
    (columns : List Column) (h : (name, t) ≠ (schema, table)) :
    old.set schema table columns name t = old name t := by
  by_cases hname : name = schema
  · subst hname
    have ht : t ≠ table := fun ht => h (by rw [ht])
    simp [set, ht]
  · simp [set, hname]

theorem set_set (old : Schemas) (schema : String) (table : List Point) (a b : List Column) :
    (old.set schema table a).set schema table b = old.set schema table b := by
  simp [set]

theorem set_eq_self {old : Schemas} {schema : String} {table : List Point} {columns : List Column}
    (h : old schema table = some columns) : old.set schema table columns = old := by
  -- the table is replaced by itself, and then so is its schema
  rw [set, ← h, Function.update_eq_self, Function.update_eq_self]

/-! ### Growth -/

/-- Every table keeps its columns, and others may have come behind them. -/
def Extends (old new : Schemas) : Prop :=
  ∀ schema table columns, old schema table = some columns →
    ∃ more, new schema table = some (columns ++ more)

theorem Extends.refl (old : Schemas) : Extends old old :=
  fun _ _ columns h => ⟨[], by rw [h, List.append_nil]⟩

theorem Extends.trans {a b c : Schemas} (hab : Extends a b) (hbc : Extends b c) : Extends a c := by
  intro schema table columns h
  obtain ⟨more, hb⟩ := hab schema table columns h
  obtain ⟨further, hc⟩ := hbc schema table _ hb
  exact ⟨more ++ further, by rw [hc, List.append_assoc]⟩

/-- A table that is created or gets further columns extends what was there. -/
theorem extends_set (old : Schemas) (schema : String) (table : List Point) (more : List Column) :
    Extends old (old.set schema table ((old schema table).getD [] ++ more)) := by
  intro name t columns h
  by_cases hsame : (name, t) = (schema, table)
  · cases hsame
    exact ⟨more, by rw [set_self, h, Option.getD_some]⟩
  · exact ⟨[], by rw [set_of_ne _ _ hsame, h, List.append_nil]⟩

end Schemas

/-! ## Servers -/

/-- A driver of a server whose schemas are those of its state, and which resolves names without a
schema in its home. -/
structure Serves {σ : Type} (driver : Driver σ) (home : String) (schemas : σ → Schemas) : Prop where
  refuses : ∀ r d message d', driver r d = (.error message, d') → schemas d' = schemas d
  looksUp : ∀ connection schema table d reply d', Value.IsText table →
    driver (.execute connection (.raw tableExistsSql [.text schema, table])) d = (.ok reply, d') →
    schemas d' = schemas d ∧ reply.rows = some
      [[(.text "table_exists", .bool (schemas d schema table.points).isSome)]]
  lists : ∀ connection schema table d reply d', Value.IsText table →
    driver (.execute connection (.raw columnNamesSql [.text schema, table])) d = (.ok reply, d') →
    schemas d' = schemas d ∧ ∃ names : List (List Point),
      names.Perm (columnPoints ((schemas d schema table.points).getD [])) ∧
      reply.rows = some (names.map fun n => [(.text "column_name", .ofPoints n)])
  defines : ∀ connection sql ddl d reply d', Ddl.read? (points sql) = some ddl →
    driver (.execute connection ⟨sql, []⟩) d = (.ok reply, d') →
    ∃ tables, ddl.apply (schemas d home) = some tables ∧
      schemas d' = Function.update (schemas d) home tables

/-! ### A server -/

/-- A server with its schemas, and which of the statements to come it refuses, with what words. -/
structure CatalogServer where
  schemas : Schemas
  refusals : List (Option String)

namespace CatalogServer

/-- The reply to a statement that is not refused. -/
def serve (home : String) (st : Statement) (d : CatalogServer) :
    Except String Reply × CatalogServer :=
  match st.params with
  | [] =>
    match (Ddl.read? (points st.sql)).map (·.apply (d.schemas home)) with
    | some (some tables) =>
      (.ok ⟨none, 0⟩, { d with schemas := Function.update d.schemas home tables })
    | some none => (.error "no such definition", d)
    | none => (.ok ⟨none, 0⟩, d)
  | [.text schema, table] =>
    if st.sql = [.fixed tableExistsSql] then
      (.ok ⟨some [[(.text "table_exists", .bool (d.schemas schema table.points).isSome)]], 1⟩, d)
    else if st.sql = [.fixed columnNamesSql] then
      (.ok ⟨some ((columnPoints ((d.schemas schema table.points).getD [])).map fun n =>
        [(.text "column_name", .ofPoints n)]), 1⟩, d)
    else (.ok ⟨none, 0⟩, d)
  | _ => (.ok ⟨none, 0⟩, d)

/-- The driver of a server. -/
def driver (home : String) : Driver CatalogServer
  | .execute _ st, d =>
    match d.refusals with
    | [] => serve home st d
    | none :: rest => serve home st { d with refusals := rest }
    | some message :: rest => (.error message, { d with refusals := rest })
  | _, d => (.ok ⟨none, 0⟩, d)

/-- A statement has a reply when it is not refused, and then it is served. -/
theorem driver_execute {home : String} {connection : Nat} {st : Statement} {d d' : CatalogServer}
    {reply : Reply} (h : driver home (.execute connection st) d = (.ok reply, d')) :
    ∃ refusals, serve home st { d with refusals := refusals } = (.ok reply, d') := by
  unfold driver at h
  dsimp only at h
  split at h
  · exact ⟨d.refusals, h⟩
  · next rest heq => exact ⟨rest, h⟩
  · cases h

/-- The driver of a server does as it has to. -/
theorem serves (home : String) : Serves (driver home) home schemas where
  refuses r d message d' h := by
    -- the one error of its own is that a definition cannot be applied
    have hserve (st : Statement) (d d' : CatalogServer)
        (h : serve home st d = (.error message, d')) :
        d'.schemas = d.schemas := by
      unfold serve at h
      split at h
      · split at h
        · cases h
        · cases h
          rfl
        · cases h
      · split at h
        · cases h
        · split at h
          · cases h
          · cases h
      · cases h
    cases r with
    | execute connection st =>
      unfold driver at h
      dsimp only at h
      split at h
      · exact hserve _ _ _ h
      · next rest heq => exact hserve st { d with refusals := rest } d' h
      · cases h
        rfl
    | _ => cases h
  looksUp connection schema table d reply d' _ h := by
    obtain ⟨refusals, h⟩ := driver_execute h
    unfold serve Statement.raw at h
    dsimp only at h
    rw [if_pos rfl] at h
    cases h
    exact ⟨rfl, rfl⟩
  lists connection schema table d reply d' _ h := by
    obtain ⟨refusals, h⟩ := driver_execute h
    unfold serve Statement.raw at h
    dsimp only at h
    -- the two lookups are told apart by their texts
    rw [if_neg (by decide +kernel), if_pos rfl] at h
    cases h
    exact ⟨rfl, _, List.Perm.refl _, rfl⟩
  defines connection sql ddl d reply d' hddl h := by
    obtain ⟨refusals, h⟩ := driver_execute h
    unfold serve at h
    dsimp only at h
    rw [hddl, Option.map_some] at h
    cases happly : ddl.apply (d.schemas home) with
    | none =>
      rw [happly] at h
      cases h
    | some tables =>
      rw [happly] at h
      cases h
      exact ⟨tables, rfl, rfl⟩

end CatalogServer

variable {σ ω τ : Type}

/-- A world behind statements on a connection, the connector being as it was. -/
structure World.Behind (connection : Nat) (sts : List Statement) (w w' : World σ ω τ) : Prop where
  connector : w'.connector = w.connector
  requests : w'.link.requests = w.link.requests ++ sts.map (.execute connection)

namespace World.Behind

variable {connection : Nat} {sts sts' : List Statement} {u v w : World σ ω τ}

theorem trans (h : Behind connection sts u v) (h' : Behind connection sts' v w) :
    Behind connection (sts ++ sts') u w :=
  ⟨h'.connector.trans h.connector,
    by rw [h'.requests, h.requests, List.map_append, List.append_assoc]⟩

theorem live (h : Behind connection sts v w) (hlive : v.connector.live? = some connection) :
    w.connector.live? = some connection := by
  rw [h.connector, hlive]

end World.Behind

/-! ## Statements under a server -/

section Statements

variable {s : Session σ ω τ} {home : String} {schemas : σ → Schemas} {w w' : World σ ω τ}
  {connection : Nat}

/-- The driver refuses a statement in a world. -/
def World.Refuses (d : Driver σ) (w : World σ ω τ) (connection : Nat) (st : Statement) : Prop :=
  ∃ message, (d (.execute connection st) w.link.driver).1 = .error message

/-- A statement comes first: its reply is gone on with, or it is refused, which changes nothing. -/
theorem execute_bind_served {α : Type} (hserves : Serves s.driver home schemas)
    (hlive : w.connector.live? = some connection) {st : Statement}
    {next : QueryResult → Step σ ω τ α} {r : Except Fault α}
    (hrun : run (execute s st >>= next) w = (r, w')) :
    (∃ reply v, World.Behind connection [st] w v ∧
        s.driver (.execute connection st) w.link.driver = (.ok reply, v.link.driver) ∧
        run (next (.ofReply reply)) v = (r, w')) ∨
      ∃ message, w.Refuses s.driver connection st ∧ World.Behind connection [st] w w' ∧
        schemas w'.link.driver = schemas w.link.driver ∧ r = .error (.driver message) := by
  rcases Step.bind_cases hrun with ⟨result, v, hexecute, hrest⟩ | ⟨fault, hexecute, rfl⟩
  · obtain ⟨hconnector, hrequests, ⟨reply, hreply, hresult⟩ | ⟨message, -, hresult⟩⟩ :=
      execute_cases hlive hexecute
    · cases hresult
      exact .inl ⟨reply, v, ⟨hconnector, hrequests⟩, hreply, hrest⟩
    · cases hresult
  · obtain ⟨hconnector, hrequests, ⟨reply, -, hresult⟩ | ⟨message, hmessage, hresult⟩⟩ :=
      execute_cases hlive hexecute
    · cases hresult
    · cases hresult
      exact .inr ⟨message, ⟨message, by rw [hmessage]⟩, ⟨hconnector, hrequests⟩,
        hserves.refuses _ _ _ _ hmessage, rfl⟩

theorem cell_singleton (column : String) (v : Value) : cell [(.text column, v)] column = .ok v := by
  simp [cell, Entries.getText?, Entries.get?, Value.same_text]

/-- Whether a table exists is answered by the server. -/
theorem tableExists_served (hserves : Serves s.driver home schemas)
    (hlive : w.connector.live? = some connection) {table : Value} (htable : table.IsText)
    {r : Except Fault Bool} (hrun : run (tableExists s table) w = (r, w')) :
    World.Behind connection [catalogQuery s tableExistsSql table] w w' ∧
      schemas w'.link.driver = schemas w.link.driver ∧
      (r = .ok (schemas w.link.driver s.tableSchema table.points).isSome ∨
        ∃ message, w.Refuses s.driver connection (catalogQuery s tableExistsSql table) ∧
          r = .error (.driver message)) := by
  rcases execute_bind_served hserves hlive hrun with
    ⟨reply, v, hbehind, hreply, hrest⟩ | ⟨message, hrefused, hbehind, hsame, rfl⟩
  · obtain ⟨hsame, hrows⟩ := hserves.looksUp _ _ _ _ _ _ htable hreply
    rw [QueryResult.ofReply, hrows] at hrest
    dsimp only at hrest
    rw [cell_singleton] at hrest
    cases hrest
    exact ⟨hbehind, hsame, .inl rfl⟩
  · exact ⟨hbehind, hsame, .inr ⟨message, hrefused, rfl⟩⟩

/-- A text is hashable. -/
theorem Value.IsText.ensureHashable {v : Value} (h : v.IsText) : v.ensureHashable = .ok () := by
  cases v with
  | text t | torn t => rfl
  | _ => exact h.elim

/-- Rows of the catalog are read as the names that they hold. -/
theorem columnNames_rows (names : List (List Point)) {found : List Value}
    (hfound : ∀ v ∈ found, v.IsText) :
    ∃ read, columnNames (names.map fun n => [(.text "column_name", .ofPoints n)]) found = .ok read ∧
      ∀ v : Value, v.IsText → ((read.any fun n => n.same v) = true ↔
        (found.any fun n => n.same v) = true ∨ v.points ∈ names) := by
  induction names generalizing found with
  | nil => exact ⟨found, rfl, fun v _ => by simp⟩
  | cons name names ih =>
    have hname := Value.isText_ofPoints name
    have hsame (v : Value) (hv : v.IsText) :
        (Value.ofPoints name).same v = true ↔ v.points = name := by
      rw [Value.same_iff_points_eq hname hv, Value.points_ofPoints]
      exact eq_comm
    -- a name that was found already is not taken again
    generalize hnext : (if found.any fun n => n.same (.ofPoints name) then found
      else found ++ [.ofPoints name]) = next
    have hmember (v : Value) (hv : v.IsText) : (next.any fun n => n.same v) = true ↔
        (found.any fun n => n.same v) = true ∨ v.points = name := by
      rw [← hnext]
      split
      · next hany =>
        refine ⟨.inl, fun h => h.elim id fun h => ?_⟩
        -- what has the new name has that of the one found before
        obtain ⟨n, hn, hsame'⟩ := List.any_eq_true.1 hany
        refine List.any_eq_true.2 ⟨n, hn, ?_⟩
        rw [Value.same_iff_points_eq (hfound n hn) hname, Value.points_ofPoints] at hsame'
        rw [Value.same_iff_points_eq (hfound n hn) hv, hsame', h]
      · rw [List.any_append, Bool.or_eq_true, List.any_cons, List.any_nil,
          Bool.or_false, hsame v hv]
    have hnextText : ∀ v ∈ next, v.IsText := by
      intro v hv
      rw [← hnext] at hv
      split at hv
      · exact hfound v hv
      · rcases List.mem_append.1 hv with hv | hv
        · exact hfound v hv
        · rw [List.mem_singleton.1 hv]
          exact hname
    obtain ⟨read, hread, hany⟩ := ih hnextText
    refine ⟨read, ?_, fun v hv => ?_⟩
    · rw [List.map_cons, columnNames, cell_singleton]
      show (Value.ofPoints name).ensureHashable >>= _ = _
      rw [hname.ensureHashable]
      show columnNames _ (if _ then _ else _) = _
      rw [hnext, hread]
    · rw [hany v hv, hmember v hv, List.mem_cons, or_assoc]

/-- The columns of a table are listed by the server. -/
theorem existingColumns_served (hserves : Serves s.driver home schemas)
    (hlive : w.connector.live? = some connection) {table : Value} (htable : table.IsText)
    {r : Except Fault (List Value)} (hrun : run (existingColumns s table) w = (r, w')) :
    World.Behind connection [catalogQuery s columnNamesSql table] w w' ∧
      schemas w'.link.driver = schemas w.link.driver ∧
      ((∃ names, r = .ok names ∧ ∀ v : Value, v.IsText → ((names.any fun n => n.same v) = true ↔
          v.points ∈ columnPoints ((schemas w.link.driver s.tableSchema table.points).getD []))) ∨
        ∃ message, w.Refuses s.driver connection (catalogQuery s columnNamesSql table) ∧
          r = .error (.driver message)) := by
  rcases execute_bind_served hserves hlive hrun with
    ⟨reply, v, hbehind, hreply, hrest⟩ | ⟨message, hrefused, hbehind, hsame, rfl⟩
  · obtain ⟨hsame, names, hperm, hrows⟩ := hserves.lists _ _ _ _ _ _ htable hreply
    obtain ⟨read, hread, hany⟩ := columnNames_rows names fun v hv => absurd hv List.not_mem_nil
    rw [QueryResult.ofReply, hrows, run_demand] at hrest
    dsimp only at hrest
    rw [hread] at hrest
    cases hrest
    -- the order of the names is the server's own, and membership does not depend on it
    refine ⟨hbehind, hsame, .inl ⟨read, rfl, fun v hv => ?_⟩⟩
    rw [hany v hv, hperm.mem_iff]
    simp
  · exact ⟨hbehind, hsame, .inr ⟨message, hrefused, rfl⟩⟩

end Statements

end DocumentStore
