import DocumentStore.Proofs.Catalog.Definitions
import DocumentStore.Proofs.Schema.Findings
import DocumentStore.Proofs.Session.Storing

/-!
# What a reconciliation fails of

A schema with a problem is refused before any statement. One without can be written under any name,
so whatever makes a reconciliation fail behind that is on the driver's side: a refusal, or an answer
of the catalog that does not hold what was asked for (`Exchange.Accounts`). Steps that fail of
nothing else are made of such steps (`Step.FailsOutside`).

Validation is complete in this sense as long as the problems can be put into words
(`validation_precedes_statements`); a name with a surrogate without a partner is refused as well,
but not as a problem of the schema (`torn_name_is_no_finding`), and so is a type with an integer too
long for a numeral.
-/

set_option autoImplicit false

namespace DocumentStore

open Fallible Session Step

variable {σ ω τ α β : Type}

/-! ## What accounts for a fault -/

/-- The lookups of the catalog, each with the column that the rows of its answer must have. -/
def catalogLookups : List (String × String) :=
  [(tableExistsSql, "table_exists"), (columnNamesSql, "column_name")]

/-- An exchange that accounts for a fault of a reconciliation: the driver refuses, or the answer to
a lookup has a row without the expected column, or one that holds there what cannot be a name. -/
inductive Exchange.Accounts (s : Session σ ω τ) (table : Value) : Exchange → Fault → Prop
  | refused (request : Request) (message : String) :
    Accounts s table ⟨request, .error message⟩ (.driver message)
  | lacking {sql column : String} {connection : Nat} {reply : Reply} {row : Entries}
    (hlookup : (sql, column) ∈ catalogLookups) (hrow : row ∈ (QueryResult.ofReply reply).rows)
    (hlacking : Entries.getText? row column = none) :
    Accounts s table ⟨.execute connection (catalogQuery s sql table), .ok reply⟩
      (.missingKey (.text column))
  | nameless {connection : Nat} {reply : Reply} {row : Entries} {name : Value}
    (hrow : row ∈ (QueryResult.ofReply reply).rows)
    (hname : Entries.getText? row "column_name" = some name) (hkey : name.hashable = false) :
    Accounts s table ⟨.execute connection (catalogQuery s columnNamesSql table), .ok reply⟩
      (.kind (.unhashable name.unhashablePart.kind))

/-- A fault that an exchange accounts for, of those that lead from one world to another. -/
def World.FailedOutside (s : Session σ ω τ) (table : Value) (w w' : World σ ω τ) (fault : Fault) :
    Prop :=
  ∃ es, w.Stored s.driver w' es ∧ ∃ e ∈ es, e.Accounts s table fault

/-- A step that on a live connection fails of nothing but what an exchange accounts for. -/
structure Step.FailsOutside (s : Session σ ω τ) (table : Value) (a : Step σ ω τ α) : Prop where
  accounted : ∀ {w w' : World σ ω τ} {connection : Nat} {fault : Fault},
    w.connector.live? = some connection → run a w = (.error fault, w') →
    w.FailedOutside s table w' fault

namespace Step.FailsOutside

variable {s : Session σ ω τ} {table : Value}

theorem pure (x : α) : FailsOutside s table (Pure.pure x : Step σ ω τ α) :=
  ⟨fun _ hrun => (nomatch congrArg Prod.fst hrun)⟩

theorem log (level : Level) (event : String) (fields : Entries) :
    FailsOutside s table (Step.log level event fields : Step σ ω τ Unit) :=
  ⟨fun _ hrun => (nomatch congrArg Prod.fst hrun)⟩

/-- Steps one after the other fail of nothing else when neither does. -/
theorem bind {a : Step σ ω τ α} {next : α → Step σ ω τ β} (ha : FailsOutside s table a)
    (hstores : Stores s a) (hnext : ∀ x, FailsOutside s table (next x)) :
    FailsOutside s table (a >>= next) := by
  constructor
  intro w w' connection fault hlive hrun
  rcases bind_cases hrun with ⟨x, v, hfirst, hrest⟩ | ⟨_, hfirst, hfault⟩
  · obtain ⟨es, hstored⟩ := hstores.stored w
    rw [hfirst] at hstored
    -- the exchanges of the first step come before those of the second, which fails
    obtain ⟨es', hstored', e, he, haccounts⟩ :=
      (hnext x).accounted (hstored.connector ▸ hlive) hrest
    exact ⟨es ++ es', hstored.trans hstored', e, List.mem_append_right _ he, haccounts⟩
  · cases hfault
    exact ha.accounted hlive hfirst

/-- A statement fails of a refusal. -/
theorem execute (statement : Statement) : FailsOutside s table (Session.execute s statement) := by
  constructor
  intro w w' connection fault hlive hrun
  obtain ⟨reply, hstored, ⟨answer, -, hr⟩ | ⟨message, rfl, hr⟩⟩ :=
    Stores.execute_exchange s hlive hrun
  · cases hr
  · cases hr
    exact ⟨_, hstored, _, List.mem_singleton_self _, .refused _ message⟩

/-- A lookup fails of a refusal, or of an answer that accounts for it. -/
theorem lookup {sql : String} {next : QueryResult → Step σ ω τ α}
    (hnext : ∀ (connection : Nat) (reply : Reply) (w : World σ ω τ),
      (∃ x, run (next (.ofReply reply)) w = (.ok x, w)) ∨ ∃ fault,
        run (next (.ofReply reply)) w = (.error fault, w) ∧
        Exchange.Accounts s table ⟨.execute connection (catalogQuery s sql table),
          .ok reply⟩ fault) :
    FailsOutside s table (Session.execute s (catalogQuery s sql table) >>= next) := by
  constructor
  intro w w' connection fault hlive hrun
  rcases bind_cases hrun with ⟨result, v, hfirst, hrest⟩ | ⟨_, hfirst, hfault⟩
  · obtain ⟨reply, hstored, ⟨answer, rfl, hr⟩ | ⟨message, -, hr⟩⟩ :=
      Stores.execute_exchange s hlive hfirst
    · cases hr
      rcases hnext connection answer v with ⟨x, hx⟩ | ⟨fault', hfault, haccounts⟩
      · rw [hx] at hrest
        cases hrest
      · rw [hfault] at hrest
        cases hrest
        exact ⟨_, hstored, _, List.mem_singleton_self _, haccounts⟩
    · cases hr
  · cases hfault
    exact (execute _).accounted hlive hfirst

end Step.FailsOutside

/-! ## The steps of a reconciliation -/

/-- Names are read from rows unless one of these has none, or what cannot be one. -/
theorem columnNames_eq_error {rows : List Entries} {found : List Value} {fault : Fault}
    (h : columnNames rows found = .error fault) :
    ∃ row ∈ rows,
      (Entries.getText? row "column_name" = none ∧ fault = .missingKey (.text "column_name")) ∨
      ∃ name, Entries.getText? row "column_name" = some name ∧ name.hashable = false ∧
        fault = .kind (.unhashable name.unhashablePart.kind) := by
  induction rows generalizing found with
  | nil => cases h
  | cons row rows ih =>
    rcases bind_eq_error.1 h with hcell | ⟨name, hcell, h⟩
    · unfold cell at hcell
      split at hcell
      · cases hcell
      · next hlacking =>
        cases hcell
        exact ⟨row, List.mem_cons_self, .inl ⟨hlacking, rfl⟩⟩
    rcases bind_eq_error.1 h with hkey | ⟨_, -, h⟩
    · unfold cell at hcell
      split at hcell
      · next hname =>
        cases hcell
        unfold Value.ensureHashable at hkey
        split at hkey
        · cases hkey
        · next hhashable =>
          cases hkey
          exact ⟨row, List.mem_cons_self, .inr ⟨name, hname, by simpa using hhashable, rfl⟩⟩
      · cases hcell
    · obtain ⟨row', hrow', hcause⟩ := ih h
      exact ⟨row', List.mem_cons_of_mem _ hrow', hcause⟩

section Steps

variable (s : Session σ ω τ) (table : Value)

theorem failsOutside_tableExists : FailsOutside s table (tableExists s table) := by
  refine FailsOutside.lookup fun connection reply w => ?_
  cases hrows : (QueryResult.ofReply reply).rows with
  | nil => exact .inl ⟨false, rfl⟩
  | cons row rows =>
    dsimp only
    cases hcell : Entries.getText? row "table_exists" with
    | none =>
      refine .inr ⟨.missingKey (.text "table_exists"), ?_,
        .lacking List.mem_cons_self (hrows ▸ List.mem_cons_self) hcell⟩
      rw [cell, hcell]
      rfl
    | some v =>
      refine .inl ⟨v.truthy, ?_⟩
      rw [cell, hcell]
      rfl

theorem failsOutside_existingColumns : FailsOutside s table (existingColumns s table) := by
  refine FailsOutside.lookup fun connection reply w => ?_
  cases hnames : columnNames (QueryResult.ofReply reply).rows [] with
  | ok names => exact .inl ⟨names, rfl⟩
  | error fault =>
    refine .inr ⟨fault, rfl, ?_⟩
    obtain ⟨row, hrow, ⟨hlacking, rfl⟩ | ⟨name, hname, hkey, rfl⟩⟩ := columnNames_eq_error hnames
    · exact .lacking (List.mem_cons_of_mem _ List.mem_cons_self) hrow hlacking
    · exact .nameless hrow hname hkey

theorem failsOutside_addAll (sqls : List Sql) : FailsOutside s table (addAll s table sqls) := by
  induction sqls with
  | nil => exact .pure ()
  | cons sql sqls ih =>
    exact (FailsOutside.execute _).bind (.execute _) fun _ =>
      (FailsOutside.log _ _ _).bind (.log _ _ _) fun _ => ih

/-- What a valid schema lacks can be written, so adding it fails of the statements alone. -/
theorem failsOutside_addFields {missing : List FieldDefinition} (hvalid : ∀ d ∈ missing, d.Valid)
    (htable : IsName table) : FailsOutside s table (addFields s table missing) := by
  obtain ⟨sqls, hsqls⟩ := exists_addColumns htable hvalid
  rw [addFields, hsqls]
  show FailsOutside s table (addAll s table sqls >>= _)
  exact (failsOutside_addAll s table sqls).bind (stores_addAll s table sqls) fun _ =>
    FailsOutside.bind (.log _ _ _) (.log _ _ _) fun _ => .pure _

theorem failsOutside_bringUp {schema : FieldSchema} (hvalid : ∀ d ∈ schema.fields, d.Valid)
    (htable : IsName table) : FailsOutside s table (bringUp s table schema) := by
  have hwiden : FailsOutside s table (widenTable s table schema) := by
    refine (failsOutside_existingColumns s table).bind (stores_existingColumns s table)
      fun names => ?_
    dsimp only
    split
    · exact .pure _
    · exact failsOutside_addFields s table
        (fun d hd => hvalid d (List.mem_of_mem_filter (List.mem_of_mem_filter hd))) htable
  have hcreate : FailsOutside s table (createMissingTable s table schema) := by
    obtain ⟨sql, hsql⟩ := exists_createTable htable hvalid
    rw [createMissingTable, hsql]
    show FailsOutside s table (Session.execute s ⟨sql, []⟩ >>= _)
    exact (FailsOutside.execute _).bind (.execute _) fun _ =>
      FailsOutside.bind (.log _ _ _) (.log _ _ _) fun _ => .pure _
  refine (failsOutside_tableExists s table).bind (stores_tableExists s table) fun found => ?_
  split
  · exact hwiden
  · exact hcreate

end Steps

/-! ## Validation first -/

/-- Validation comes before any statement, and it is complete. It finds all problems of a schema
whose names can be encoded and whose unknown types can be written, and refuses the schema when there
are any, with the fault that reports the first of them; any other schema is refused, too. What it
refuses is refused by a reconciliation with the same fault, and nothing has happened. What it
accepts can be written, under any name of a table and with any of its fields to be added; and then a
reconciliation fails of nothing but what an exchange with the driver accounts for. -/
theorem validation_precedes_statements {s : FieldSchema} (hnames : ∀ d ∈ s.fields, d.name.IsText) :
    (s.Reportable → ∃ findings, Finding.ofSchema s = .ok findings ∧
      ((∃ fault, s.ensureValid = .error fault) ↔ findings ≠ []) ∧
      ∀ f rest, findings = f :: rest → ∃ fault, s.ensureValid = .error fault ∧
        f.Reports s.fields.zipIdx fault ∧
        ∀ index problem, f = .name index problem → fault.message = f.path ++ ": " ++ f.message) ∧
    (¬s.Reportable →
      (∃ d ∈ s.fields, ∃ cause, d.Obstacle cause ∧ Finding.ofSchema s = .error cause) ∧
      ∃ fault, s.ensureValid = .error fault) ∧
    (s.ensureValid = .ok () → ∀ table, IsName table → (∃ sql, createTable table s = .ok sql) ∧
      ∀ fields, fields ⊆ s.fields → ∃ sqls, addColumns table fields = .ok sqls) ∧
    ∀ {σ ω τ : Type} (session : Session σ ω τ) {source : SchemaSource} {w : World σ ω τ}
      {connection : Nat}, FieldSchema.of source = .ok s → w.connector.live? = some connection →
      (∀ fault, s.ensureValid = .error fault → ∀ table,
        run (reconcile session table source) w = (.error fault, w)) ∧
      (s.ensureValid = .ok () → ∀ table, IsName table → ∀ fault w',
        run (reconcile session table source) w = (.error fault, w') →
        w.FailedOutside session table w' fault) := by
  refine ⟨?found, ?obstacle, ?written, ?reconciled⟩
  case found =>
    intro hreportable
    obtain ⟨findings, hfindings⟩ := exists_findings 0 hreportable
    have hfirst := ensureDefinitions_of_findings hfindings
    refine ⟨findings, hfindings, ?_, ?_⟩
    · rcases hfirst with ⟨rfl, hok⟩ | ⟨f, rest, fault, rfl, herror, -⟩
      · rw [FieldSchema.ensureValid, hok]
        exact ⟨fun ⟨_, h⟩ => (nomatch h), fun h => absurd rfl h⟩
      · exact ⟨fun _ => List.cons_ne_nil _ _, fun _ => ⟨fault, herror⟩⟩
    · intro f rest hlist
      rcases hfirst with ⟨rfl, -⟩ | ⟨g, later, fault, rfl, herror, hreports⟩
      · cases hlist
      · cases hlist
        refine ⟨fault, herror, hreports, ?_⟩
        intro index problem hname
        subst hname
        exact hreports.message_eq
  case obstacle =>
    intro hobstacle
    exact ofDefinitions_of_obstacle 0 hnames hobstacle
  case written =>
    intro hvalid table htable
    have hfields := valid_of_ensureValid hvalid
    refine ⟨exists_createTable htable hfields, ?_⟩
    intro fields hsubset
    exact exists_addColumns htable fun d hd => hfields d (hsubset hd)
  case reconciled =>
    intro σ ω τ session source w connection hsource hlive
    constructor
    · intro fault hfault table
      -- the schema is looked at before the first request
      rw [reconcile, run_bind, run_requireConnected hlive]
      dsimp only
      rw [run_bind, run_demand, hsource]
      dsimp only
      rw [run_bind, run_demand, hfault]
    · intro hvalid table htable fault w' hrun
      rw [run_reconcile session hlive hsource hvalid htable.isText.ensureHashable] at hrun
      exact (failsOutside_bringUp session table (valid_of_ensureValid hvalid) htable).accounted
        hlive hrun

/-- A schema with problems of names and of types. -/
def misdeclaredSchema : FieldSchema :=
  ⟨[⟨.text "title", .text "String", true⟩, ⟨.text "a\x00", .text "Array", false⟩,
    ⟨.text " ", .list [], false⟩]⟩

theorem misdeclared_refused_first :
    (∀ d ∈ misdeclaredSchema.fields, d.name.IsText) ∧ misdeclaredSchema.Reportable ∧
      (∃ f rest, Finding.ofSchema misdeclaredSchema = .ok (f :: rest) ∧
        f.path = "fields[1].name" ∧ rest.map Finding.path =
          ["fields[1].type", "fields[2].name", "fields[2].type"] ∧
        f.Reports misdeclaredSchema.fields.zipIdx (.invalidName 1 .containsNul)) ∧
      run (reconcile catalogSession (.text "t") (.built misdeclaredSchema)) (catalogWorld []) =
        (.error (.invalidName 1 .containsNul), catalogWorld []) := by
  have hreportable : misdeclaredSchema.Reportable := by
    simp [FieldSchema.Reportable, FieldDefinition.Reportable, misdeclaredSchema, Value.writable,
      Value.writableItems]
  have hnames : ∀ d ∈ misdeclaredSchema.fields, d.name.IsText := by
    intro d hd
    obtain ⟨⟨n, hn⟩, -⟩ := hreportable d hd
    rw [hn]
    trivial
  have hfault : misdeclaredSchema.ensureValid = .error (.invalidName 1 .containsNul) := rfl
  obtain ⟨hfound, -, -, hruns⟩ := validation_precedes_statements hnames
  refine ⟨hnames, hreportable, ?_, (hruns catalogSession rfl rfl).1 _ hfault _⟩
  obtain ⟨findings, hfindings, -, hfirst⟩ := hfound hreportable
  have hlist : Finding.ofSchema misdeclaredSchema = .ok
      [.name 1 .containsNul, .type 1 (.text "Array"), .name 2 .required, .type 2 (.list [])] := rfl
  obtain rfl := result_unique hfindings hlist
  obtain ⟨fault, herror, hreports, -⟩ := hfirst _ _ rfl
  rw [hfault] at herror
  cases herror
  exact ⟨_, _, hlist, by decide, by decide, hreports⟩

/-- A schema with a name that holds a surrogate without a partner, and a NUL. -/
def tornSchema : FieldSchema := ⟨[⟨.ofPoints [.lone 0, .char '\x00'], .text "String", false⟩]⟩

/-- A name that cannot be encoded makes no finding, and it is refused, though not as a problem of
the schema. -/
theorem torn_name_is_no_finding :
    (∀ d ∈ tornSchema.fields, d.name.IsText) ∧
      (∃ fault, tornSchema.ensureValid = .error fault ∧ fault.isRefusal = false) ∧
      ¬∃ findings, Finding.ofSchema tornSchema = .ok findings := by
  have hname : nameProblems (.ofPoints [.lone 0, .char '\x00']) =
      .error (.unencodable ⟨[.lone 0, .char '\x00'], rfl⟩) := rfl
  refine ⟨fun d hd => ?_, ⟨.unencodable ⟨[.lone 0, .char '\x00'], rfl⟩, rfl, rfl⟩, ?_⟩
  · rw [List.mem_singleton.1 hd]
    exact Value.isText_ofPoints [.lone 0, .char '\x00']
  · rintro ⟨findings, hfindings⟩
    rw [Finding.ofSchema, tornSchema, Finding.ofDefinitions, Finding.ofDefinition,
      hname] at hfindings
    cases hfindings

end DocumentStore
