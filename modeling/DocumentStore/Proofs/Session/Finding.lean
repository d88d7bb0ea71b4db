import DocumentStore.Proofs.Session.Routine
import DocumentStore.Proofs.Statement.Call
import DocumentStore.Proofs.Statement.Restriction
import DocumentStore.Session.Rehearsal
import DocumentStore.Session.Store

/-!
# Pages and totals

A find sends a SELECT for its page and then a count for its total. Both have the WHERE clause of the
filter with the same parameters, and whenever there is a SELECT there is a count
(`compileCount_of_compileFindWith`), so a find that has sent its SELECT cannot fail for want of the
count; a find without a SELECT sends nothing (`find_pages_what_it_counts`).
-/

set_option autoImplicit false

namespace DocumentStore

open Sql Fallible
open Text (Point)

variable {σ ω τ : Type}

/-! ## The two statements -/

/-- The text of a SELECT: what it projects, with the WHERE clause of its filter, its sort and the
clauses that are there. -/
theorem points_of_find {s : FieldSchema} {collection : Value} (columns : List Value)
    (cs : List Condition) (order : List (Value × Bool)) (limit skip : Bool)
    (hcollection : IsName collection) :
    Sql.points ((Form.find columns (cs.map Condition.form) order limit skip).sql s.naming
        (pieceOf collection)) =
      Text.points "SELECT " ++ Sql.points (projectionSql s.naming columns) ++
        Text.points " FROM " ++ quoted collection.points ++ restriction s cs ++
          Sql.points (orderSql s.naming order) ++
        Sql.points (clauseSql " LIMIT " limit (cs.length + 1 : Nat)) ++
        Sql.points (clauseSql " OFFSET " skip (cs.length + limit.toNat + 1 : Nat)) := by
  simp only [Form.sql, points_cons, points_append, piecePoints_pieceOf hcollection,
    List.append_assoc, List.length_map]
  rfl

/-- Whenever there is a SELECT there is a count with its WHERE clause and the parameters of that
clause. -/
theorem compileCount_of_compileFindWith {s : FieldSchema} {collection filter : Value}
    {o : QueryOptions} {select : Statement}
    (h : compileFindWith s collection filter o = .ok select) :
    ∃ counted cs projection order, compileCount s collection filter = .ok counted ∧
      Condition.ofFilter filter = .ok cs ∧ compileProjection o.fields = .ok projection ∧
      compileOrderBy (sortOf o cs) = .ok order ∧
      counted.points = Text.points "SELECT COUNT(*) AS count FROM " ++ quoted collection.points ++
        restriction s cs ∧
      select.points = Text.points "SELECT " ++ Sql.points projection ++ Text.points " FROM " ++
        quoted collection.points ++ restriction s cs ++ Sql.points order ++
        Sql.points (clauseSql " LIMIT " (!o.limit.isNull) (counted.params.length + 1 : Nat)) ++
        Sql.points (clauseSql " OFFSET " (!o.skip.isNull)
          (counted.params.length + (presentValue o.limit).length + 1 : Nat)) ∧
      select.params = counted.params ++ presentValue o.limit ++ presentValue o.skip := by
  obtain ⟨cs, vs, columns, es, hcs, hvs, hcolumns, hnames, hcollection, hes, hkeys, rfl⟩ :=
    compileFindWith_eq_ok.1 h
  refine ⟨_, cs, _, _, compileCount_eq_ok.2 ⟨cs, vs, hcs, hvs, hcollection, rfl⟩, hcs,
    (compileProjection_eq_ok (s := s)).2 ⟨columns, hcolumns, hnames, rfl⟩,
    (compileOrderBy_eq_ok (s := s)).2 ⟨es, hes, hkeys, rfl⟩,
    points_of_compileCount hcollection, ?_, rfl⟩
  dsimp only
  rw [length_of_mapM hvs, length_presentValue]
  exact points_of_find columns cs (sortKeys es) _ _ hcollection

namespace Session

open Step

/-! ## The run -/

/-- The SELECT of a find. Its options and its schema are read first. -/
def selectOf (filter collection : Value) (options : OptionsSource) (source : SchemaSource) :
    Except Fault Statement := do
  let o ← QueryOptions.of options
  let schema ← FieldSchema.of source
  compileFindWith schema collection filter o

theorem selectOf_eq {filter collection : Value} {options : OptionsSource} {source : SchemaSource}
    {o : QueryOptions} {schema : FieldSchema} (ho : QueryOptions.of options = .ok o)
    (hschema : FieldSchema.of source = .ok schema) :
    selectOf filter collection options source = compileFindWith schema collection filter o := by
  rw [selectOf, ho, hschema]
  rfl

/-- The part of a find behind its SELECT. -/
def findTotal (s : Session σ ω τ) (filter collection : Value) (o : QueryOptions)
    (schema : FieldSchema) (response : QueryResult) : Step σ ω τ Entries := do
  let counting ← demand (compileCount schema collection filter)
  let counted ← execute s counting
  let total ← demand (countOf counted)
  let documents ← demand (documentsOfRows schema response.rows)
  let metadata ← metadataOf s (.built o) (.int total)
  return [(.text "results", documents), (.text "metadata", metadata)]

variable {s : Session σ ω τ} {filter collection : Value} {options : OptionsSource}
  {source : SchemaSource}
  {w w' : World σ ω τ} {connection : Nat} {r : Except Fault Entries}

/-- A find on a live connection fails before any request, or it sends its SELECT first. -/
theorem find_cases (hlive : w.connector.live? = some connection)
    (h : run (find s filter collection options source) w = (r, w')) :
    (∃ fault, selectOf filter collection options source = .error fault ∧ r = .error fault ∧
        w'.link = w.link) ∨
      ∃ o schema select v, QueryOptions.of options = .ok o ∧ FieldSchema.of source = .ok schema ∧
        compileFindWith schema collection filter o = .ok select ∧ v.connector = w.connector ∧
        v.link = w.link ∧
        run (execute s select >>= findTotal s filter collection o schema) v = (r, w') := by
  rw [find, run_bind, run_requireConnected hlive] at h
  dsimp only at h
  unfold selectOf
  rcases demand_bind_cases h with ⟨o, ho, h⟩ | ⟨fault, ho, rfl, rfl⟩
  · rw [ho]
    rcases demand_bind_cases h with ⟨schema, hschema, h⟩ | ⟨fault, hschema, rfl, rfl⟩
    · rw [hschema]
      rw [run_log_bind] at h
      rcases demand_bind_cases h with ⟨select, hselect, h⟩ | ⟨fault, hselect, rfl, rfl⟩
      · refine .inr ⟨o, schema, select, _, rfl, rfl, hselect, ?_, ?_, h⟩
        · rfl
        · rfl
      · exact .inl ⟨fault, hselect, rfl, rfl⟩
    · rw [hschema]
      exact .inl ⟨fault, rfl, rfl, rfl⟩
  · rw [ho]
    exact .inl ⟨fault, rfl, rfl, rfl⟩

theorem run_metadataOf (s : Session σ ω τ) (o : QueryOptions) (count : Value) (w : World σ ω τ) :
    run (metadataOf s (.built o) count) w = (s.metadata o count, w) := rfl

/-- Behind the SELECT there is the count, and no further request. -/
theorem requests_findTotal {o : QueryOptions} {schema : FieldSchema} {response : QueryResult}
    {counted : Statement} (hlive : w.connector.live? = some connection)
    (hcounted : compileCount schema collection filter = .ok counted)
    (h : run (findTotal s filter collection o schema response) w = (r, w')) :
    w'.link.requests = w.link.requests ++ [.execute connection counted] := by
  rw [findTotal, hcounted, run_bind, run_demand] at h
  dsimp only at h
  rcases bind_cases h with ⟨result, v, hexecute, h⟩ | ⟨fault, hexecute, -⟩
  · rw [← (execute_cases hlive hexecute).2.1]
    -- what is left only computes
    rcases demand_bind_cases h with ⟨_, -, h⟩ | ⟨_, -, -, rfl⟩
    · rcases demand_bind_cases h with ⟨_, -, h⟩ | ⟨_, -, -, rfl⟩
      · rw [run_bind, run_metadataOf] at h
        generalize s.metadata o _ = metadata at h
        cases metadata with
        | ok metadata =>
          cases h
          rfl
        | error fault =>
          cases h
          rfl
      · rfl
    · rfl
  · exact (execute_cases hlive hexecute).2.1

/-- A find that has a SELECT and a count sends the SELECT, and the count unless the driver refuses
the SELECT. -/
theorem requests_find {o : QueryOptions} {schema : FieldSchema} {select counted : Statement}
    (hlive : w.connector.live? = some connection) (ho : QueryOptions.of options = .ok o)
    (hschema : FieldSchema.of source = .ok schema)
    (hselect : compileFindWith schema collection filter o = .ok select)
    (hcounted : compileCount schema collection filter = .ok counted)
    (h : run (find s filter collection options source) w = (r, w')) :
    (∃ message, (s.driver (.execute connection select) w.link.driver).1 = .error message ∧
        r = .error (.driver message) ∧
        w'.link.requests = w.link.requests ++ [.execute connection select]) ∨
      ∃ reply, (s.driver (.execute connection select) w.link.driver).1 = .ok reply ∧
        w'.link.requests =
          w.link.requests ++ [.execute connection select, .execute connection counted] := by
  rcases find_cases hlive h with ⟨_, hfault, -, -⟩ |
    ⟨o', schema', select', v, ho', hschema', hselect', hconnector, hlink, h⟩
  · rw [selectOf_eq ho hschema, hselect] at hfault
    cases hfault
  obtain rfl := result_unique ho ho'
  obtain rfl := result_unique hschema hschema'
  obtain rfl := result_unique hselect hselect'
  rw [← hconnector] at hlive
  rw [← hlink]
  rcases bind_cases h with ⟨response, v', hexecute, h⟩ | ⟨fault, hexecute, rfl⟩
  · obtain ⟨hconnector', hrequests, ⟨reply, hreply, -⟩ | ⟨_, -, hr⟩⟩ := execute_cases hlive hexecute
    · rw [← hconnector'] at hlive
      refine .inr ⟨reply, by rw [hreply], ?_⟩
      rw [requests_findTotal hlive hcounted h, hrequests, List.append_assoc]
      rfl
    · cases hr
  · obtain ⟨-, hrequests, ⟨_, -, hr⟩ | ⟨message, hreply, hr⟩⟩ := execute_cases hlive hexecute
    · cases hr
    · cases hr
      exact .inl ⟨message, by rw [hreply], rfl, hrequests⟩

/-- A find on a live connection. When its options or its schema cannot be read, or there is no
SELECT, it fails with that fault and sends nothing. Otherwise there is a count, and one WHERE clause
that the SELECT and the count have with the same parameters, to which the SELECT adds those of its
limit and of its skip. The SELECT is sent first; the find fails with the driver when the driver
refuses it, and otherwise the count is the one further statement that is sent. -/
theorem find_pages_what_it_counts (s : Session σ ω τ) (filter collection : Value)
    (options : OptionsSource) (source : SchemaSource) {w : World σ ω τ} {connection : Nat}
    (hlive : w.connector.live? = some connection) :
    (∀ fault, selectOf filter collection options source = .error fault →
      ∃ w', run (find s filter collection options source) w = (.error fault, w') ∧
        w'.link = w.link) ∧
    ∀ o schema select, QueryOptions.of options = .ok o → FieldSchema.of source = .ok schema →
      compileFindWith schema collection filter o = .ok select →
      ∃ counted clause projection order cs, compileCount schema collection filter = .ok counted ∧
        Condition.ofFilter filter = .ok cs ∧ compileProjection o.fields = .ok projection ∧
        compileOrderBy (sortOf o cs) = .ok order ∧
        counted.points = Text.points "SELECT COUNT(*) AS count FROM " ++ quoted collection.points ++
          clause ∧
        select.points = Text.points "SELECT " ++ Sql.points projection ++ Text.points " FROM " ++
          quoted collection.points ++ clause ++ Sql.points order ++
          Sql.points (clauseSql " LIMIT " (!o.limit.isNull) (counted.params.length + 1 : Nat)) ++
          Sql.points (clauseSql " OFFSET " (!o.skip.isNull)
            (counted.params.length + (presentValue o.limit).length + 1 : Nat)) ∧
        select.params = counted.params ++ presentValue o.limit ++ presentValue o.skip ∧
        ((∃ message, (s.driver (.execute connection select) w.link.driver).1 = .error message ∧
            ∃ w', run (find s filter collection options source) w = (.error (.driver message), w') ∧
              w'.link.requests = w.link.requests ++ [.execute connection select]) ∨
          ∃ reply, (s.driver (.execute connection select) w.link.driver).1 = .ok reply ∧
            ∃ r w', run (find s filter collection options source) w = (r, w') ∧
              w'.link.requests =
                w.link.requests ++ [.execute connection select, .execute connection counted]) := by
  generalize hrun : run (find s filter collection options source) w = answer
  obtain ⟨r, w'⟩ := answer
  constructor
  · intro fault hfault
    rcases find_cases hlive hrun with ⟨_, hfault', rfl, hlink⟩ |
      ⟨o, schema, select, -, ho, hschema, hselect, -⟩
    · rw [hfault] at hfault'
      cases hfault'
      exact ⟨w', rfl, hlink⟩
    · rw [selectOf_eq ho hschema, hselect] at hfault
      cases hfault
  · intro o schema select ho hschema hselect
    obtain ⟨counted, cs, projection, order, hcounted, hcs, hprojection, horder, hcount,
      hfind, hparams⟩ :=
      compileCount_of_compileFindWith hselect
    refine ⟨counted, restriction schema cs, projection, order, cs, hcounted, hcs,
      hprojection, horder, hcount, hfind, hparams, ?_⟩
    rcases requests_find hlive ho hschema hselect hcounted hrun with
      ⟨message, hrefused, rfl, hrequests⟩ | ⟨reply, hreply, hrequests⟩
    · exact .inl ⟨message, hrefused, w', rfl, hrequests⟩
    · exact .inr ⟨reply, hreply, r, w', rfl, hrequests⟩

/-- A rehearsal that is connected. -/
def liveRehearsal : Rehearsal := { Rehearsal.start with connector := ⟨.connected, some 1, some 1⟩ }

/-- Options of a page of two. -/
def pageOfTwo : QueryOptions := ⟨.null, .null, .int 2, .null, .null⟩

theorem pages_of_quotingFilter :
    (∃ select counted r w', liveRehearsal.connector.live? = some 1 ∧
      compileFindWith .empty (.text "t") quotingFilter pageOfTwo = .ok select ∧
      compileCount .empty (.text "t") quotingFilter = .ok counted ∧
      select.params = counted.params ++ [.int 2] ∧
      run (find (rehearse .standard none echoMetadata) quotingFilter (.text "t") (.built pageOfTwo)
        (.built .empty)) liveRehearsal = (r, w') ∧
      w'.link.requests = [.execute 1 select, .execute 1 counted]) ∧
    ∃ fault w',
      selectOf quotingFilter (.text "t") (.value (.int 2)) (.built .empty) = .error fault ∧
        run (find (rehearse .standard none echoMetadata) quotingFilter (.text "t") (.value (.int 2))
          (.built .empty)) liveRehearsal = (.error fault, w') ∧ w'.link.requests = [] := by
  constructor
  · have hok : (compileFindWith .empty (.text "t") quotingFilter pageOfTwo).toOption.any
        (fun _ => true) = true := by decide +kernel
    obtain ⟨select, hselect, -⟩ := exists_of_check hok
    obtain ⟨counted, _, _, _, _, hcounted, -, -, -, -, -, hparams, hrun⟩ :=
      (find_pages_what_it_counts (rehearse .standard none echoMetadata) quotingFilter (.text "t")
        (.built pageOfTwo) (.built .empty) (w := liveRehearsal) rfl).2 _ _ select rfl rfl hselect
    have hpage : select.params = counted.params ++ [.int 2] := by
      rw [hparams, List.append_assoc]
      rfl
    rcases hrun with ⟨message, hrefused, -⟩ | ⟨reply, -, r, w', hfind, hrequests⟩
    · cases hrefused
    · exact ⟨select, counted, r, w', rfl, hselect, hcounted, hpage, hfind, hrequests⟩
  · have hfault : selectOf quotingFilter (.text "t") (.value (.int 2)) (.built .empty) =
        .error (.noMember (Value.int 2).kind "get") := rfl
    obtain ⟨w', hfind, hlink⟩ :=
      (find_pages_what_it_counts (rehearse .standard none echoMetadata) quotingFilter (.text "t")
        (.value (.int 2)) (.built .empty) (w := liveRehearsal) rfl).1 _ hfault
    exact ⟨_, w', hfault, hfind, by rw [hlink]; rfl⟩

end Session

end DocumentStore
