import DocumentStore.Proofs.Statement.Compiled

/-!
# Calls

A call is one of the five operations with its arguments, apart from the collection. Its form is
settled without any schema and before any value is looked at. When a call compiles, its statement is
the text of that form, under names that can be written, with one parameter for each placeholder
(`Call.exists_form_of_compile`).
-/

set_option autoImplicit false

namespace DocumentStore

open Sql Fallible

/-- A call of a compiling operation. -/
inductive Call where
  | find (filter : Value) (options : OptionsSource)
  | count (filter : Value)
  | insert (values : Value)
  | update (filter change : Value)
  | delete (filter : Value)

namespace Call

/-- The statement of a call on a collection. -/
def compile (s : FieldSchema) (collection : Value) : Call → Except Fault Statement
  | .find filter options => compileFind s collection filter options
  | .count filter => compileCount s collection filter
  | .insert values => compileInsert s collection values
  | .update filter change => compileUpdate s collection filter change
  | .delete filter => compileDelete s collection filter

/-- The entries of a mapping. -/
def entriesOf : Value → Except Fault Entries
  | .map es => .ok es
  | v => .error (.noMember v.kind "items")

/-- The form of a call. -/
def form : Call → Except Fault (Form Value)
  | .find filter options => do
    let o ← QueryOptions.of options
    let conditions ← Condition.ofFilter filter
    let columns ← projectedColumns o.fields
    let order ← entriesOf (sortOf o conditions)
    return .find columns (conditions.map Condition.form) (sortKeys order) (!o.limit.isNull)
      (!o.skip.isNull)
  | .count filter => do
    let conditions ← Condition.ofFilter filter
    return .count (conditions.map Condition.form)
  | .insert values => do
    let row ← entriesOf values
    return .insert (Entries.keys row)
  | .update filter change => do
    let assignments ← Assignments.ofUpdate change
    let conditions ← Condition.ofFilter filter
    return .update assignments.forms (conditions.map Condition.form)
  | .delete filter => do
    let conditions ← Condition.ofFilter filter
    return .delete (conditions.map Condition.form)

end Call

/-- A statement that is the text of a form on a collection, under names that can be written, with as
many parameters as the form binds values. -/
structure Renders (s : FieldSchema) (collection : Value) (form : Form Value) (st : Statement) :
    Prop where
  sql : st.sql = form.sql s.naming (pieceOf collection)
  isName : ∀ c ∈ form.names collection, IsName c
  arity : st.params.length = form.arity

/-- Conditions that are written have names for fields. -/
theorem isName_of_parameters {s : FieldSchema} {cs : List Condition} {vs : List Value}
    (h : parameters s cs = .ok vs) : ∀ c ∈ (cs.map Condition.form).map (·.column), IsName c := by
  intro column hcolumn
  rw [List.map_map] at hcolumn
  obtain ⟨c, hc, rfl⟩ := List.mem_map.1 hcolumn
  obtain ⟨v, -, hv⟩ := exists_of_mapM h hc
  exact (Condition.parameter_eq_ok.1 hv).1

theorem keys_sortKeys (es : Entries) : (sortKeys es).map (·.1) = Entries.keys es := by
  rw [sortKeys, List.map_map]
  rfl

theorem length_presentValue (v : Value) : (presentValue v).length = (!v.isNull).toNat := by
  cases v <;> rfl

/-- The columns of assignments that are written are names. -/
theorem isName_of_assignments {as : Assignments} (h : ∀ e ∈ as, IsName e.1) :
    ∀ c ∈ as.forms.flatMap (fun a => if a.sets then [a.column] else [a.column, a.column]),
      IsName c := by
  intro c hc
  obtain ⟨a, ha, hac⟩ := List.mem_flatMap.1 hc
  obtain ⟨e, he, rfl⟩ := List.mem_map.1 ha
  have hcolumn : c = e.1 := by
    split at hac
    · exact List.mem_singleton.1 hac
    · rcases List.mem_cons.1 hac with rfl | hac
      · rfl
      · exact List.mem_singleton.1 hac
  exact hcolumn ▸ h e he

/-- A call that compiles renders its form. -/
theorem Call.exists_form_of_compile {s : FieldSchema} {collection : Value} {call : Call}
    {st : Statement} (h : call.compile s collection = .ok st) :
    ∃ form, call.form = .ok form ∧ Renders s collection form st := by
  cases call with
  | find filter options =>
    obtain ⟨o, ho, h⟩ := bind_eq_ok.1 h
    obtain ⟨cs, vs, columns, es, hcs, hvs, hcolumns, hprojected, hcollection, hsort, hkeys, rfl⟩ :=
      compileFindWith_eq_ok.1 h
    refine ⟨_, bind_eq_ok.2 ⟨o, ho, bind_eq_ok.2 ⟨cs, hcs, bind_eq_ok.2 ⟨columns, hcolumns,
      bind_eq_ok.2 ⟨es, ?_, rfl⟩⟩⟩⟩, rfl, ?_, ?_⟩
    · rw [hsort]
      rfl
    · rw [Form.names, keys_sortKeys]
      simp only [List.forall_mem_append, List.forall_mem_cons]
      exact ⟨⟨hprojected, hcollection, isName_of_parameters hvs⟩, hkeys⟩
    · simp only [List.length_append, length_presentValue, length_of_mapM hvs, Form.arity,
        List.length_map]
  | count filter =>
    obtain ⟨cs, vs, hcs, hvs, hcollection, rfl⟩ := compileCount_eq_ok.1 h
    refine ⟨_, bind_eq_ok.2 ⟨cs, hcs, rfl⟩, rfl, ?_, ?_⟩
    · exact List.forall_mem_cons.2 ⟨hcollection, isName_of_parameters hvs⟩
    · rw [Form.arity, List.length_map]
      exact length_of_mapM hvs
  | insert values =>
    obtain ⟨row, vs, rfl, -, hkeys, hcollection, hvs, rfl⟩ := compileInsert_eq_ok.1 h
    refine ⟨_, rfl, rfl, List.forall_mem_cons.2 ⟨hcollection, hkeys⟩, ?_⟩
    rw [Form.arity, Entries.keys, List.length_map]
    exact length_of_mapM hvs
  | update filter change =>
    obtain ⟨as, params, cs, vs, has, -, hnames, hparams, hcs, -, hvs, hcollection, rfl⟩ :=
      compileUpdate_eq_ok.1 h
    refine ⟨_, bind_eq_ok.2 ⟨as, has, bind_eq_ok.2 ⟨cs, hcs, rfl⟩⟩, rfl, ?_, ?_⟩
    · simp only [Form.names, List.forall_mem_append, List.forall_mem_cons]
      exact ⟨⟨hcollection, isName_of_assignments hnames⟩, isName_of_parameters hvs⟩
    · simp only [List.length_append, Assignments.length_parameters hparams, length_of_mapM hvs,
        Form.arity, List.length_map]
  | delete filter =>
    obtain ⟨cs, vs, hcs, -, hvs, hcollection, rfl⟩ := compileDelete_eq_ok.1 h
    refine ⟨_, bind_eq_ok.2 ⟨cs, hcs, rfl⟩, rfl, ?_, ?_⟩
    · exact List.forall_mem_cons.2 ⟨hcollection, isName_of_parameters hvs⟩
    · rw [Form.arity, List.length_map]
      exact length_of_mapM hvs

/-- What renders a form reads back as the tokens of the form. -/
theorem Renders.read {s : FieldSchema} {collection : Value} {form : Form Value} {st : Statement}
    (h : Renders s collection form st) :
    Sql.read st.points = some (tokens (form.sql s.naming (pieceOf collection))) := by
  rw [Statement.points, h.sql]
  exact read_points (Form.spaced_sql s.tidy_naming (s.tidy_naming collection) form)

end DocumentStore
