import DocumentStore.Proofs.Statement.Call
import DocumentStore.Proofs.Statement.Changes
import DocumentStore.Proofs.Statement.FormRoles

/-!
# Placeholders and parameters

The placeholders of a statement are numbered from one in the order of the text, one for each
parameter, and each parameter is the value that belongs next to its placeholder. `Call.bindings` are
the values of a call with what they are for, taken from its arguments: the operands of its
conditions, the values and increments of its columns, its limit and the rows to skip, each coerced
for its column.
-/

set_option autoImplicit false

namespace DocumentStore

open Sql Fallible
open Text (Point)

/-! ## The values of a call -/

/-- What the operand of a condition is for. -/
def Condition.role (c : Condition) : Role :=
  .operand c.field.points (Text.points (c.operator.getD .eq).lead)

/-- The operands of conditions. -/
def conditionBindings (s : FieldSchema) (cs : List Condition) :
    Except Fault (List (Role × Value)) :=
  cs.mapM fun c => (c.parameter s).map fun v => (c.role, v)

/-- An optional value of a find, null for none. -/
def presentBinding (role : Role) (v : Value) : List (Role × Value) :=
  (presentValue v).map fun v => (role, v)

/-- The values of a row. -/
def rowBindings (s : FieldSchema) (row : Entries) : Except Fault (List (Role × Value)) :=
  row.mapM fun e => (columnValue s e.1 e.2).map fun v => (.value e.1.points, v)

/-- What changes add to a column. -/
def incrementBindings (cs : List Change) (name : List Point) : List (Role × Value) :=
  (Change.increments cs name).map fun v => (.increment name, v)

/-- What changes do to a column: the last value that they set, when they set one, and what they
add. -/
def targetBindings (s : FieldSchema) (cs : List Change) (name : List Point) :
    Except Fault (List (Role × Value)) :=
  match Change.lastSet? cs name with
  | some v => (setParameter s (Value.ofPoints name) v).map fun param =>
      (.value name, param) :: incrementBindings cs name
  | none => .ok (incrementBindings cs name)

/-- What changes do to each column, in order of first appearance. -/
def changeBindings (s : FieldSchema) (cs : List Change) : Except Fault (List (Role × Value)) :=
  ((Change.targets cs).mapM (targetBindings s cs)).map List.flatten

/-- The values of a call with what they are for, in the order in which its statement binds them. -/
def Call.bindings (s : FieldSchema) : Call → Except Fault (List (Role × Value))
  | .find filter options => do
    let o ← QueryOptions.of options
    let conditions ← Condition.ofFilter filter
    let operands ← conditionBindings s conditions
    return operands ++ presentBinding .limit o.limit ++ presentBinding .skip o.skip
  | .count filter => do
    let conditions ← Condition.ofFilter filter
    conditionBindings s conditions
  | .insert (.map row) => rowBindings s row
  | .insert _ => .ok []
  | .update filter change => do
    let assigned ← changeBindings s (Change.ofUpdate change)
    let conditions ← Condition.ofFilter filter
    let operands ← conditionBindings s conditions
    return assigned ++ operands
  | .delete filter => do
    let conditions ← Condition.ofFilter filter
    conditionBindings s conditions

/-! ## The values in order -/

/-- The name that a piece is read as. -/
def Sql.nameOfPiece : Piece → List Point
  | .name s => Text.points s
  | .tornName t => t.points
  | _ => []

theorem FieldSchema.tokens_naming (s : FieldSchema) (v : Value) :
    pieceTokens (s.naming.piece v) = [.name (nameOfPiece (pieceOf v))] := by
  cases v <;> rfl

theorem nameOfPiece_pieceOf {v : Value} (h : v.IsText) : nameOfPiece (pieceOf v) = v.points := by
  cases v with
  | text t => rfl
  | torn t => rfl
  | _ => exact absurd h id

/-- The roles of a form under its own names. -/
def Form.ownRoles (form : Form Value) : List Role := form.roles fun v => nameOfPiece (pieceOf v)

/-- Values that are told apart by what they are for: the roles and the parameters of a statement. -/
def Binds (bs : List (Role × Value)) (roles : List Role) (params : List Value) : Prop :=
  bs.map Prod.fst = roles ∧ bs.map Prod.snd = params

theorem Binds.append {bs cs : List (Role × Value)} {rs qs : List Role} {vs ws : List Value}
    (hb : Binds bs rs vs) (hc : Binds cs qs ws) : Binds (bs ++ cs) (rs ++ qs) (vs ++ ws) := by
  refine ⟨?_, ?_⟩
  · rw [List.map_append, hb.1, hc.1]
  · rw [List.map_append, hb.2, hc.2]

/-- The operands of conditions stand where the forms of the conditions have them. -/
theorem conditionBindings_of_parameters {s : FieldSchema} {cs : List Condition} {vs : List Value}
    (h : parameters s cs = .ok vs) :
    ∃ bs, conditionBindings s cs = .ok bs ∧
      Binds bs ((cs.map Condition.form).map
        (ConditionForm.role fun v => nameOfPiece (pieceOf v))) vs := by
  obtain ⟨bs, hbs, hroles, hvalues⟩ := mapM_tagged Condition.role h
  refine ⟨bs, hbs, ?_, hvalues⟩
  rw [hroles, List.map_map]
  refine List.map_congr_left fun c hc => ?_
  obtain ⟨v, -, hv⟩ := exists_of_mapM h hc
  have hname := nameOfPiece_pieceOf (Condition.parameter_eq_ok.1 hv).1.isText
  show Role.operand c.field.points _ = Role.operand (nameOfPiece (pieceOf c.field)) _
  rw [hname]
  rfl

theorem presentBinding_binds (role : Role) (v : Value) :
    Binds (presentBinding role v) (if !v.isNull then [role] else []) (presentValue v) := by
  cases v <;> exact ⟨rfl, rfl⟩

/-- The values of a row stand where its form has them. -/
theorem rowBindings_of_parameters {s : FieldSchema} {row : Entries} {vs : List Value}
    (h : rowParameters s row = .ok vs) (hnames : ∀ c ∈ Entries.keys row, IsName c) :
    ∃ bs, rowBindings s row = .ok bs ∧
      Binds bs ((Entries.keys row).map fun c => .value (nameOfPiece (pieceOf c))) vs := by
  obtain ⟨bs, hbs, hroles, hvalues⟩ :=
    mapM_tagged (fun e : Value × Value => Role.value e.1.points) h
  refine ⟨bs, hbs, ?_, hvalues⟩
  rw [hroles, Entries.keys, List.map_map]
  refine List.map_congr_left fun e he => ?_
  have hname := nameOfPiece_pieceOf (hnames e.1 (List.mem_map_of_mem he)).isText
  show Role.value e.1.points = Role.value (nameOfPiece (pieceOf e.1))
  rw [hname]

theorem incrementBindings_binds (cs : List Change) (name : List Point) :
    Binds (incrementBindings cs name)
      (List.replicate (Change.increments cs name).length (.increment name))
      (Change.increments cs name) := by
  refine ⟨?_, ?_⟩
  · rw [incrementBindings, List.map_map]
    exact List.map_const'
  · rw [incrementBindings, List.map_map]
    exact List.map_id _

/-- What is done to one column stands where the form of its assignment has it. -/
theorem targetBindings_of_parameters {s : FieldSchema} {cs : List Change} {name : List Point}
    {vs : List Value} (h : (assigned cs name).parameters s (Value.ofPoints name) = .ok vs) :
    ∃ bs, targetBindings s cs name = .ok bs ∧
      Binds bs (((assigned cs name).form (Value.ofPoints name)).roles
        fun v => nameOfPiece (pieceOf v)) vs := by
  have hname : nameOfPiece (pieceOf (Value.ofPoints name)) = name := by
    rw [nameOfPiece_pieceOf (Value.isText_ofPoints name), Value.points_ofPoints]
  have hincrements := incrementBindings_binds cs name
  unfold Assignment.parameters at h
  rw [targetBindings, AssignmentForm.roles, Assignment.form]
  simp only [assigned, hname] at h ⊢
  cases hset : Change.lastSet? cs name with
  | some v =>
    -- the value that is set comes before what is added
    rw [hset] at h
    obtain ⟨param, hparam, rfl⟩ := map_eq_ok.1 h
    have hvalue : Binds [(.value name, param)] [.value name] [param] := ⟨rfl, rfl⟩
    exact ⟨_, map_eq_ok.2 ⟨param, hparam, rfl⟩, hvalue.append hincrements⟩
  | none =>
    rw [hset] at h
    cases h
    exact ⟨_, rfl, hincrements⟩

/-- What changes do stands where the forms of their assignments have it. -/
theorem changeBindings_of_parameters {s : FieldSchema} {cs : List Change} {vs : List Value}
    (h : (gathered cs).parameters s = .ok vs) :
    ∃ bs, changeBindings s cs = .ok bs ∧
      Binds bs ((gathered cs).forms.flatMap
        (AssignmentForm.roles fun v => nameOfPiece (pieceOf v))) vs := by
  rw [gathered] at h ⊢
  rw [changeBindings]
  generalize Change.targets cs = names at h ⊢
  induction names generalizing vs with
  | nil =>
    cases h
    exact ⟨[], rfl, rfl, rfl⟩
  | cons name names ih =>
    obtain ⟨head, tail, hhead, htail, rfl⟩ := Assignments.parameters_cons_eq_ok.1 h
    obtain ⟨bs, hbs, hbinds⟩ := targetBindings_of_parameters hhead
    obtain ⟨cs', hcs', hrest⟩ := ih htail
    obtain ⟨bss, hbss, rfl⟩ := map_eq_ok.1 hcs'
    exact ⟨_, map_eq_ok.2 ⟨_, mapM_cons_eq_ok.2 ⟨bs, bss, hbs, hbss, rfl⟩, rfl⟩,
      hbinds.append hrest⟩

/-- A call that compiles is the text of a form, and its values stand where the form has them. -/
theorem Call.exists_bindings {s : FieldSchema} {collection : Value} {call : Call} {st : Statement}
    (h : call.compile s collection = .ok st) :
    ∃ (form : Form Value) (bs : List (Role × Value)),
      st.sql = form.sql s.naming (pieceOf collection) ∧ call.bindings s = .ok bs ∧
        Binds bs form.ownRoles st.params := by
  cases call with
  | find filter options =>
    obtain ⟨o, ho, h⟩ := bind_eq_ok.1 h
    obtain ⟨cs, vs, columns, es, hcs, hvs, -, -, -, -, -, rfl⟩ := compileFindWith_eq_ok.1 h
    obtain ⟨bs, hbs, hbinds⟩ := conditionBindings_of_parameters hvs
    refine ⟨.find columns (cs.map Condition.form) (sortKeys es) (!o.limit.isNull) (!o.skip.isNull),
      _, rfl, bind_eq_ok.2 ⟨o, ho, bind_eq_ok.2 ⟨cs, hcs, bind_eq_ok.2 ⟨bs, hbs, rfl⟩⟩⟩, ?_⟩
    exact (hbinds.append (presentBinding_binds .limit o.limit)).append
      (presentBinding_binds .skip o.skip)
  | count filter =>
    obtain ⟨cs, vs, hcs, hvs, -, rfl⟩ := compileCount_eq_ok.1 h
    obtain ⟨bs, hbs, hbinds⟩ := conditionBindings_of_parameters hvs
    refine ⟨.count (cs.map Condition.form), bs, rfl, bind_eq_ok.2 ⟨cs, hcs, hbs⟩, ?_⟩
    exact hbinds
  | insert values =>
    obtain ⟨row, vs, rfl, -, hkeys, -, hvs, rfl⟩ := compileInsert_eq_ok.1 h
    obtain ⟨bs, hbs, hbinds⟩ := rowBindings_of_parameters hvs hkeys
    refine ⟨.insert (Entries.keys row), bs, rfl, hbs, ?_⟩
    exact hbinds
  | update filter change =>
    obtain ⟨as, params, cs, vs, has, -, -, hparams, hcs, -, hvs, -, rfl⟩ := compileUpdate_eq_ok.1 h
    rw [Assignments.ofUpdate_eq_gathered has] at hparams ⊢
    obtain ⟨assigned, hassigned, hbinds⟩ := changeBindings_of_parameters hparams
    obtain ⟨bs, hbs, hoperands⟩ := conditionBindings_of_parameters hvs
    refine ⟨.update (gathered (Change.ofUpdate change)).forms (cs.map Condition.form), _, rfl,
      bind_eq_ok.2 ⟨assigned, hassigned, bind_eq_ok.2 ⟨cs, hcs, bind_eq_ok.2 ⟨bs, hbs, rfl⟩⟩⟩, ?_⟩
    exact hbinds.append hoperands
  | delete filter =>
    obtain ⟨cs, vs, hcs, -, hvs, -, rfl⟩ := compileDelete_eq_ok.1 h
    obtain ⟨bs, hbs, hbinds⟩ := conditionBindings_of_parameters hvs
    refine ⟨.delete (cs.map Condition.form), bs, rfl, bind_eq_ok.2 ⟨cs, hcs, hbs⟩, ?_⟩
    exact hbinds

/-! ## Placeholders beside parameters -/

/-- The placeholders of a statement are numbered from one in the order of the text, as many as there
are parameters, and the parameter of each is the value of the call that belongs where it stands. A
WHERE clause by itself, numbered from any integer on, has one placeholder for each condition and its
operand for it. -/
theorem Call.placeholders_of_compile :
    (∀ (s : FieldSchema) (collection : Value) (call : Call) (st : Statement),
      call.compile s collection = .ok st →
      ∃ ts bs, Sql.read st.points = some ts ∧ numbers ts = upFrom 1 st.params.length ∧
        call.bindings s = .ok bs ∧ Sql.roles ts = bs.map Prod.fst ∧ st.params = bs.map Prod.snd) ∧
    ∀ (s : FieldSchema) (cs : List Condition) (start : Int) (sql : Sql) (params : List Value),
      compileWhere s cs start = .ok (sql, params) →
      ∃ ts bs, Sql.read (Sql.points sql) = some ts ∧ numbers ts = upFrom start cs.length ∧
        conditionBindings s cs = .ok bs ∧ Sql.roles ts = bs.map Prod.fst ∧
        params = bs.map Prod.snd := by
  constructor
  · intro s collection call st h
    obtain ⟨form, bs, hsql, hbs, hroles, hparams⟩ := Call.exists_bindings h
    refine ⟨tokens (form.sql s.naming (pieceOf collection)), bs, ?_, ?_, hbs, ?_, hparams.symm⟩
    · rw [Statement.points, hsql]
      exact read_points (Form.spaced_sql s.tidy_naming (s.tidy_naming collection) form)
    · -- each parameter has a role, and each role is bound once
      have hlength : st.params.length = form.arity := by
        rw [← hparams, List.length_map, ← List.length_map (f := Prod.fst), hroles]
        exact Form.length_roles _ form
      rw [hlength]
      exact Form.numbers_sql s.tidy_naming (s.tidy_naming collection) form
    · rw [hroles]
      exact Form.roles_sql s.tokens_naming collection form
  · intro s cs start sql params h
    obtain ⟨hparams, rfl⟩ := compileWhere_eq_ok.1 h
    obtain ⟨bs, hbs, hroles, hvalues⟩ := conditionBindings_of_parameters hparams
    refine ⟨_, bs, read_points (spaced_where s.tidy_naming _ start), ?_, hbs, ?_, hvalues.symm⟩
    · rw [numbers_where s.tidy_naming, List.length_map]
    · rw [hroles]
      exact roles_where s.tokens_naming Site.start _ start

/-- An update that sets a column, adds to it and to another, on a column whose name is a
placeholder. -/
def countingUpdate : Call :=
  .update (.map [(.text "$1", .int 7)])
    (.map [(.text "$set", .map [(.text "n", .int 1)]),
      (.text "inc", .map [(.text "n", .int 2), (.text "m", .int 3)])])

theorem placeholders_of_countingUpdate :
    (∃ st ts, countingUpdate.compile .empty (.text "t") = .ok st ∧ Sql.read st.points = some ts ∧
      numbers ts = [1, 2, 3, 4] ∧
      Sql.roles ts = [.value (Text.points "n"), .increment (Text.points "n"),
        .increment (Text.points "m"), .operand (Text.points "$1") (Text.points " = ")]) ∧
    ∃ sql params ts,
      compileWhere .empty [⟨some .lt, .text "a", .int 0⟩, ⟨some .isIn, .text "b", .null⟩] (-1) =
        .ok (sql, params) ∧ Sql.read (Sql.points sql) = some ts ∧ numbers ts = [-1, 0] := by
  constructor
  · have hcompiled : (countingUpdate.compile .empty (.text "t")).toOption.any
        (fun st => st.params.length = 4) = true := by decide +kernel
    have hbound : (countingUpdate.bindings .empty).toOption.any (fun bs => bs.map Prod.fst =
        [.value (Text.points "n"), .increment (Text.points "n"), .increment (Text.points "m"),
          .operand (Text.points "$1") (Text.points " = ")]) = true := by decide +kernel
    obtain ⟨st, hst, hlength⟩ := exists_of_check hcompiled
    obtain ⟨bs, hbs, hroles⟩ := exists_of_check hbound
    obtain ⟨ts, bs', hread, hnumbers, hbs', htold, -⟩ := Call.placeholders_of_compile.1 _ _ _ st hst
    rw [hbs] at hbs'
    cases hbs'
    refine ⟨st, ts, hst, hread, ?_, htold.trans (of_decide_eq_true hroles)⟩
    rw [hnumbers, of_decide_eq_true hlength]
    decide
  · have hcompiled : (compileWhere .empty [⟨some .lt, .text "a", .int 0⟩,
        ⟨some .isIn, .text "b", .null⟩] (-1)).toOption.any (fun _ => true) = true := by
      decide +kernel
    obtain ⟨⟨sql, params⟩, hwhere, -⟩ := exists_of_check hcompiled
    obtain ⟨ts, bs, hread, hnumbers, -⟩ := Call.placeholders_of_compile.2 _ _ _ _ _ hwhere
    exact ⟨sql, params, ts, hwhere, hread, hnumbers.trans (by decide)⟩

end DocumentStore
