import DocumentStore.Proofs.Fallible
import DocumentStore.Proofs.Statement.FormReading
import DocumentStore.Proofs.Writing

/-!
# What compiling gives

Each compiling function is the text of a form together with the parameters of its values. The text
is the same whatever the values are; only the parameters are computed from values, and only they,
the names and the operators can be refused. There is one equation for each function; nothing else
opens them.
-/

set_option autoImplicit false

namespace DocumentStore

open Sql Fallible

/-! ## Names -/

/-- The piece of a name. -/
def Sql.pieceOf : Value → Piece
  | .text s => .name s
  | .torn t => .tornName t
  | _ => .name ""

/-- A value that can be written as a name. -/
def IsName (v : Value) : Prop := Sql.nameOf v = .ok (pieceOf v)

theorem nameOf_eq_ok {v : Value} {p : Piece} : Sql.nameOf v = .ok p ↔ IsName v ∧ p = pieceOf v := by
  constructor
  · intro h
    have hp : p = pieceOf v := by
      unfold Sql.nameOf at h
      split at h
      · split at h
        · cases h
        · split at h
          · cases h
          · cases h
            rfl
      · split at h
        · cases h
        · cases h
          rfl
      · cases h
    subst hp
    exact ⟨h, rfl⟩
  · rintro ⟨h, rfl⟩
    exact h

/-- Names are texts or torn texts. -/
theorem IsName.cases {v : Value} (h : IsName v) : (∃ s, v = .text s) ∨ ∃ t, v = .torn t := by
  unfold IsName Sql.nameOf at h
  split at h
  · exact .inl ⟨_, rfl⟩
  · exact .inr ⟨_, rfl⟩
  · cases h

theorem IsName.isText {v : Value} (h : IsName v) : v.IsText := by
  rcases h.cases with ⟨s, rfl⟩ | ⟨t, rfl⟩
  · trivial
  · trivial

theorem mapM_nameOf_eq_ok {vs : List Value} {ps : List Piece} :
    vs.mapM Sql.nameOf = .ok ps ↔ (∀ v ∈ vs, IsName v) ∧ ps = vs.map pieceOf := by
  induction vs generalizing ps with
  | nil =>
    constructor
    · intro h
      cases h
      exact ⟨fun v hv => absurd hv List.not_mem_nil, rfl⟩
    · rintro ⟨-, rfl⟩
      rfl
  | cons v vs ih =>
    rw [mapM_cons_eq_ok]
    constructor
    · rintro ⟨p, rest, hp, hrest, rfl⟩
      obtain ⟨hv, rfl⟩ := nameOf_eq_ok.1 hp
      obtain ⟨hvs, rfl⟩ := ih.1 hrest
      exact ⟨List.forall_mem_cons.2 ⟨hv, hvs⟩, rfl⟩
    · rintro ⟨h, rfl⟩
      obtain ⟨hv, hvs⟩ := List.forall_mem_cons.1 h
      exact ⟨_, _, nameOf_eq_ok.2 ⟨hv, rfl⟩, ih.2 ⟨hvs, rfl⟩, rfl⟩

/-- How the columns of a schema are written. -/
def FieldSchema.naming (s : FieldSchema) : Naming Value := ⟨pieceOf, s.kindOf⟩

theorem FieldSchema.tidy_naming (s : FieldSchema) (v : Value) : Tidy (s.naming.piece v) := by
  cases v <;> trivial

theorem FieldSchema.marked_naming (s : FieldSchema) (v : Value) :
    marked (s.naming.piece v) = mark := by
  cases v <;> rfl

/-- A name is read as it was given. -/
theorem FieldSchema.namesOf_naming (s : FieldSchema) {v : Value} (h : IsName v) :
    s.naming.namesOf v = [v.points] := by
  rcases h.cases with ⟨t, rfl⟩ | ⟨t, rfl⟩
  · rfl
  · rfl

theorem FieldSchema.flatMap_namesOf_naming (s : FieldSchema) {columns : List Value}
    (h : ∀ c ∈ columns, IsName c) :
    columns.flatMap s.naming.namesOf = columns.map Value.points := by
  induction columns with
  | nil => rfl
  | cons c columns ih =>
    obtain ⟨hc, hcolumns⟩ := List.forall_mem_cons.1 h
    rw [List.flatMap_cons, ih hcolumns, s.namesOf_naming hc]
    rfl

/-! ## Kinds -/

/-- A timestamp column is never a DateTime field, whatever a schema declares. -/
theorem isDateTime_of_isNamed (s : FieldSchema) {column : Value}
    (h : isNamed timestampFields column = true) : s.isDateTime column = false := by
  -- timestamp columns are reserved, and a reserved column has no declared type
  have hinternal : isInternal column = true := by
    cases column with
    | text t =>
      simp only [isNamed, timestampFields, List.contains_eq_mem, List.mem_cons, List.not_mem_nil,
        or_false, decide_eq_true_eq] at h
      rcases h with rfl | rfl <;> decide
    | _ => cases h
  simp [FieldSchema.isDateTime, FieldSchema.columnType, hinternal]

/-- The three kinds of columns, in the terms by which columns are written. -/
theorem FieldSchema.kindOf_cases (s : FieldSchema) (column : Value) :
    (isNamed timestampFields column = true ∧ s.isDateTime column = false ∧
        s.kindOf column = .timestamp) ∨
      (isNamed timestampFields column = false ∧ s.isDateTime column = true ∧
        s.kindOf column = .dateTime) ∨
      (isNamed timestampFields column = false ∧ s.isDateTime column = false ∧
        s.kindOf column = .plain) := by
  rw [FieldSchema.kindOf]
  cases hnamed : isNamed timestampFields column with
  | true => exact .inl ⟨rfl, isDateTime_of_isNamed s hnamed, rfl⟩
  | false =>
    cases hdate : s.isDateTime column with
    | true => exact .inr (.inl ⟨rfl, rfl, rfl⟩)
    | false => exact .inr (.inr ⟨rfl, rfl, rfl⟩)

/-- The placeholder of an operand has the cast of its column's kind. -/
theorem filterPlaceholder_eq (s : FieldSchema) (column : Value) (index : Int) (many : Bool) :
    filterPlaceholder s column index many =
      .placeholder index ::
        (if many then (s.kindOf column).castMany else (s.kindOf column).castOne) := by
  rw [filterPlaceholder]
  rcases s.kindOf_cases column with ⟨hnamed, hdate, hkind⟩ | ⟨hnamed, hdate, hkind⟩ |
    ⟨hnamed, hdate, hkind⟩ <;> rw [hnamed, hdate, hkind] <;> cases many <;> rfl

/-- The placeholder of a column value has the cast of its column's kind. -/
theorem columnPlaceholder_eq (s : FieldSchema) (column : Value) (index : Int) :
    columnPlaceholder s column index = valueSql s.naming column index := by
  show columnPlaceholder s column index = .placeholder index :: (s.kindOf column).castOne
  rw [columnPlaceholder]
  rcases s.kindOf_cases column with ⟨-, hdate, hkind⟩ | ⟨-, hdate, hkind⟩ | ⟨-, hdate, hkind⟩ <;>
    rw [hdate, hkind] <;> rfl

/-- The expression of a value that is set follows the kind of its column. -/
theorem setExpression_eq (s : FieldSchema) (column : Value) (index : Int) :
    setExpression s column index = setSql s.naming column index := by
  have hkind' : s.naming.kind column = s.kindOf column := rfl
  rw [setExpression, setSql]
  rw [columnPlaceholder_eq, valueSql, hkind']
  rcases s.kindOf_cases column with ⟨hnamed, -, hkind⟩ | ⟨hnamed, -, hkind⟩ | ⟨hnamed, -, hkind⟩ <;>
    rw [hnamed, hkind] <;> rfl

/-! ## Conditions -/

/-- The form of a condition. -/
def Condition.form (c : Condition) : ConditionForm Value := ⟨c.field, c.operator.getD .eq⟩

/-- The parameter of an operand: a pattern for a match, a list for a membership test, and otherwise
the operand itself, coerced for its column. -/
def operandParameter (s : FieldSchema) (column operand : Value) : Operator → Except Fault Value
  | .regex => operand.written (Value.ofPoints (Pattern.contains operand.points))
  | .isIn => ((memberOperands operand).mapM (filterValue s column)).map .list
  | .containsAny => ((memberOperands operand).mapM (filterValue s column)).map .list
  | _ => filterValue s column operand

/-- The parameter of a condition, when its field can be written and its operator has a meaning. -/
def Condition.parameter (s : FieldSchema) (c : Condition) : Except Fault Value := do
  let _ ← Sql.nameOf c.field
  match c.operator with
  | some o => operandParameter s c.field c.operand o
  | none =>
    let _ ← filterValue s c.field c.operand
    throw (.unsupportedOperator "Condition" c.field)

theorem compileMembership_eq (s : FieldSchema) (c : Condition) (name : Piece) (index : Int) :
    compileMembership s c name index =
      (((memberOperands c.operand).mapM (filterValue s c.field)).map .list).map fun v =>
        ([name, .fixed " = ANY(", .placeholder index] ++
          ((s.kindOf c.field).castMany ++ [.fixed ")"]), v) := by
  rw [compileMembership]
  rw [filterPlaceholder_eq]
  cases (memberOperands c.operand).mapM (filterValue s c.field) with
  | error e => rfl
  | ok vs => simp [bind, Except.bind, pure, Except.pure, Except.map]

theorem compileComparison_eq (s : FieldSchema) (c : Condition) (name : Piece) (index : Int)
    {o : Operator} (ho : c.operator = some o) {sign : String} (hsign : o.sign? = some sign) :
    compileComparison s c name index =
      (filterValue s c.field c.operand).map fun v =>
        ([name, .fixed (" " ++ sign ++ " "), .placeholder index] ++ (s.kindOf c.field).castOne,
          v) := by
  rw [compileComparison]
  rw [filterPlaceholder_eq, ho, Option.bind_some, hsign]
  cases filterValue s c.field c.operand with
  | error e => rfl
  | ok v => rfl

/-- The text of a condition does not depend on its operand. -/
theorem compileCondition_eq (s : FieldSchema) (c : Condition) (index : Int) :
    compileCondition s c index =
      (c.parameter s).map fun v => (c.form.sql s.naming index, v) := by
  rw [compileCondition, Condition.parameter]
  cases hname : Sql.nameOf c.field with
  | error e => rfl
  | ok p =>
    obtain ⟨-, rfl⟩ := nameOf_eq_ok.1 hname
    cases ho : c.operator with
    | none =>
      -- a bare condition has no sign: its operand is coerced, and then it is refused
      show compileComparison s c (pieceOf c.field) index = _
      rw [compileComparison]
      rw [ho]
      cases filterValue s c.field c.operand <;> rfl
    | some o =>
      have hform : c.form = ⟨c.field, o⟩ := by
        rw [Condition.form, ho]
        rfl
      have hcompared (sign : String) (hsign : o.sign? = some sign) :=
        compileComparison_eq s c (pieceOf c.field) index ho hsign
      rw [hform]
      -- what has a sign is a comparison; the others write their operand in their own way
      cases o with
      | regex =>
        show (do
            let pattern ← c.operand.written c.operand.points
            pure _) = (c.operand.written _).map _
        rw [Value.written, Value.written]
        split <;> rfl
      | isIn => exact compileMembership_eq s c (pieceOf c.field) index
      | containsAny => exact compileMembership_eq s c (pieceOf c.field) index
      | eq => exact hcompared "=" rfl
      | ne => exact hcompared "<>" rfl
      | lt => exact hcompared "<" rfl
      | lte => exact hcompared "<=" rfl
      | gt => exact hcompared ">" rfl
      | gte => exact hcompared ">=" rfl

/-- The parameter of a condition that is written in a statement, by its operator. -/
theorem Condition.parameter_eq_ok {s : FieldSchema} {c : Condition} {v : Value} :
    c.parameter s = .ok v ↔
      IsName c.field ∧ ∃ o, c.operator = some o ∧
        operandParameter s c.field c.operand o = .ok v := by
  rw [Condition.parameter, bind_eq_ok]
  constructor
  · rintro ⟨p, hp, h⟩
    refine ⟨(nameOf_eq_ok.1 hp).1, ?_⟩
    cases ho : c.operator with
    | some o => exact ⟨o, rfl, by rwa [ho] at h⟩
    | none =>
      rw [ho] at h
      obtain ⟨w, -, hthrow⟩ := bind_eq_ok.1 h
      cases hthrow
  · rintro ⟨hname, o, ho, h⟩
    exact ⟨pieceOf c.field, hname, by rwa [ho]⟩

/-- The parameters of conditions. -/
def parameters (s : FieldSchema) (cs : List Condition) : Except Fault (List Value) :=
  cs.mapM (Condition.parameter s)

/-- The texts of conditions do not depend on their operands. -/
theorem compileConditions_eq_ok {s : FieldSchema} {cs : List Condition} {start : Int}
    {compiled : List (Sql × Value)} :
    compileConditions s cs start = .ok compiled ↔
      ∃ vs, parameters s cs = .ok vs ∧
        compiled = (conditionsSql s.naming (cs.map Condition.form) start).zip vs := by
  induction cs generalizing start compiled with
  | nil =>
    constructor
    · intro h
      cases h
      exact ⟨[], rfl, rfl⟩
    · rintro ⟨vs, -, rfl⟩
      rfl
  | cons c cs ih =>
    rw [compileConditions]
    rw [compileCondition_eq, bind_eq_ok]
    constructor
    · rintro ⟨head, hhead, h⟩
      obtain ⟨v, hv, rfl⟩ := map_eq_ok.1 hhead
      obtain ⟨tail, htail, hcompiled⟩ := bind_eq_ok.1 h
      obtain ⟨vs, hvs, rfl⟩ := ih.1 htail
      cases hcompiled
      exact ⟨v :: vs, mapM_cons_eq_ok.2 ⟨v, vs, hv, hvs, rfl⟩, rfl⟩
    · rintro ⟨ws, hws, rfl⟩
      obtain ⟨v, vs, hv, hvs, rfl⟩ := mapM_cons_eq_ok.1 hws
      exact ⟨_, map_eq_ok.2 ⟨v, hv, rfl⟩, bind_eq_ok.2 ⟨_, ih.2 ⟨vs, hvs, rfl⟩, rfl⟩⟩

theorem length_numbered {α : Type} (arity : α → Nat) (sql : α → Int → Sql) (as : List α) (i : Int) :
    (numbered arity sql as i).length = as.length := by
  induction as generalizing i with
  | nil => rfl
  | cons a as ih => rw [numbered, List.length_cons, ih, List.length_cons]

/-- A WHERE clause is the text of the conditions' forms; its parameters are those of the
conditions. -/
theorem compileWhere_eq_ok {s : FieldSchema} {cs : List Condition} {start : Int} {sql : Sql}
    {vs : List Value} :
    compileWhere s cs start = .ok (sql, vs) ↔
      parameters s cs = .ok vs ∧ sql = whereSql s.naming (cs.map Condition.form) start := by
  have hresult {ws : List Value} (hws : parameters s cs = .ok ws) :
      compileWhere s cs start = .ok (whereSql s.naming (cs.map Condition.form) start, ws) := by
    -- the texts and the parameters of the conditions are told apart again
    have hcompiled := compileConditions_eq_ok.2 ⟨ws, hws, (rfl : _ = (conditionsSql s.naming
      (cs.map Condition.form) start).zip ws)⟩
    have hlength : (conditionsSql s.naming (cs.map Condition.form) start).length = ws.length := by
      rw [length_of_mapM hws, conditionsSql, length_numbered, List.length_map]
    have hfst := List.map_fst_zip (Nat.le_of_eq hlength)
    have hsnd := List.map_snd_zip (Nat.le_of_eq hlength.symm)
    rw [compileWhere]
    rw [hcompiled]
    cases cs with
    | nil =>
      cases hws
      rfl
    | cons c cs =>
      -- with a condition there is a parameter, so neither list is empty
      obtain ⟨v, rest, -, -, rfl⟩ := mapM_cons_eq_ok.1 hws
      show Except.ok (Piece.fixed " WHERE " :: join " AND " (List.map Prod.fst _),
        List.map Prod.snd _) = _
      rw [hfst, hsnd]
      rfl
  constructor
  · intro h
    obtain ⟨compiled, hcompiled, -⟩ := bind_eq_ok.1 h
    obtain ⟨ws, hws, -⟩ := compileConditions_eq_ok.1 hcompiled
    rw [hresult hws] at h
    cases h
    exact ⟨hws, rfl⟩
  · rintro ⟨hvs, rfl⟩
    exact hresult hvs

/-- Only equalities are accepted, and the first other condition is refused for its operator. -/
theorem ensureEqualities_cases (cs : List Condition) :
    (ensureEqualities cs = .ok () ∧ ∀ c ∈ cs, c.operator = some .eq) ∨
      ∃ c ∈ cs, c.operator ≠ some .eq ∧ ∃ name,
        ensureEqualities cs = .error (.naming [c.field] (.unsupportedOperator name c.field)) := by
  induction cs with
  | nil => exact .inl ⟨rfl, fun c hc => absurd hc List.not_mem_nil⟩
  | cons c cs ih =>
    by_cases hc : c.operator = some .eq
    · -- an equality is passed over, and the rest decides
      have hrest : ensureEqualities (c :: cs) = ensureEqualities cs := by
        rw [ensureEqualities, hc]
      rw [hrest]
      rcases ih with ⟨hok, hall⟩ | ⟨d, hd, hne, herror⟩
      · exact .inl ⟨hok, List.forall_mem_cons.2 ⟨hc, hall⟩⟩
      · exact .inr ⟨d, List.mem_cons_of_mem c hd, hne, herror⟩
    · refine .inr ⟨c, List.mem_cons_self, hc, ?_⟩
      rw [ensureEqualities]
      split
      · next ho => exact absurd ho hc
      · next o _ _ => exact ⟨_, rfl⟩
      · exact ⟨_, rfl⟩

theorem ensureEqualities_eq_ok {cs : List Condition} :
    ensureEqualities cs = .ok () ↔ ∀ c ∈ cs, c.operator = some .eq := by
  rcases ensureEqualities_cases cs with ⟨hok, hall⟩ | ⟨c, hc, hne, name, herror⟩
  · exact ⟨fun _ => hall, fun _ => hok⟩
  · constructor
    · intro h
      rw [herror] at h
      cases h
    · intro h
      exact absurd (h c hc) hne

/-- A filter of equalities is the WHERE clause of its conditions. -/
theorem compileEqualityWhere_eq_ok {s : FieldSchema} {filter : Value} {start : Int} {sql : Sql}
    {vs : List Value} :
    compileEqualityWhere s filter start = .ok (sql, vs) ↔
      ∃ cs, Condition.ofFilter filter = .ok cs ∧ (∀ c ∈ cs, c.operator = some .eq) ∧
        parameters s cs = .ok vs ∧ sql = whereSql s.naming (cs.map Condition.form) start := by
  rw [compileEqualityWhere, bind_eq_ok]
  constructor
  · rintro ⟨cs, hcs, h⟩
    obtain ⟨⟨⟩, hequalities, hwhere⟩ := bind_eq_ok.1 h
    obtain ⟨hvs, hsql⟩ := compileWhere_eq_ok.1 hwhere
    exact ⟨cs, hcs, ensureEqualities_eq_ok.1 hequalities, hvs, hsql⟩
  · rintro ⟨cs, hcs, hequalities, hvs, hsql⟩
    exact ⟨cs, hcs, bind_eq_ok.2
      ⟨(), ensureEqualities_eq_ok.2 hequalities, compileWhere_eq_ok.2 ⟨hvs, hsql⟩⟩⟩

/-! ## Reading statements -/

/-- The columns that a projection asks for, the identifier first; none when it asks for all. -/
def projectedColumns (fields : Value) : Except Fault (List Value) :=
  if fields.truthy then
    fields.items.map fun asked => .text idField :: asked.filter fun f => !f.same (.text idField)
  else .ok []

theorem compileProjection_eq_ok {s : FieldSchema} {fields : Value} {sql : Sql} :
    compileProjection fields = .ok sql ↔
      ∃ columns, projectedColumns fields = .ok columns ∧ (∀ c ∈ columns, IsName c) ∧
        sql = projectionSql s.naming columns := by
  rw [compileProjection, projectedColumns]
  split
  · rw [bind_eq_ok]
    constructor
    · rintro ⟨asked, hasked, h⟩
      obtain ⟨names, hnames, hsql⟩ := bind_eq_ok.1 h
      obtain ⟨hall, rfl⟩ := mapM_nameOf_eq_ok.1 hnames
      cases hsql
      refine ⟨_, map_eq_ok.2 ⟨asked, hasked, rfl⟩, hall, ?_⟩
      rw [List.map_map]
      rfl
    · rintro ⟨columns, hcolumns, hall, rfl⟩
      obtain ⟨asked, hasked, rfl⟩ := map_eq_ok.1 hcolumns
      refine ⟨asked, hasked, bind_eq_ok.2 ⟨_, mapM_nameOf_eq_ok.2 ⟨hall, rfl⟩, ?_⟩⟩
      rw [List.map_map]
      rfl
  · constructor
    · intro h
      cases h
      exact ⟨[], rfl, fun c hc => absurd hc List.not_mem_nil, rfl⟩
    · rintro ⟨columns, hcolumns, -, rfl⟩
      cases hcolumns
      rfl

/-- The keys of a sort with whether they are ascending. -/
def sortKeys (es : Entries) : List (Value × Bool) := es.map fun e => (e.1, e.2.same (.int 1))

theorem compileOrderBy_eq_ok {s : FieldSchema} {sort : Value} {sql : Sql} :
    compileOrderBy sort = .ok sql ↔
      ∃ es, sort = .map es ∧ (∀ c ∈ Entries.keys es, IsName c) ∧
        sql = orderSql s.naming (sortKeys es) := by
  have hkey (e : Value × Value) (q : Sql) : compileSortKey e.1 e.2 = .ok q ↔
      IsName e.1 ∧ q = sortKeySql s.naming (e.1, e.2.same (.int 1)) := by
    rw [compileSortKey, bind_eq_ok]
    constructor
    · rintro ⟨p, hp, h⟩
      obtain ⟨hname, rfl⟩ := nameOf_eq_ok.1 hp
      cases h
      exact ⟨hname, rfl⟩
    · rintro ⟨hname, rfl⟩
      exact ⟨_, hname, rfl⟩
  have hkeys (es : Entries) (qs : List Sql) :
      es.mapM (fun e => compileSortKey e.1 e.2) = .ok qs ↔
        (∀ c ∈ Entries.keys es, IsName c) ∧ qs = (sortKeys es).map (sortKeySql s.naming) := by
    induction es generalizing qs with
    | nil =>
      constructor
      · intro h
        cases h
        exact ⟨fun c hc => absurd hc List.not_mem_nil, rfl⟩
      · rintro ⟨-, rfl⟩
        rfl
    | cons e es ih =>
      rw [mapM_cons_eq_ok]
      constructor
      · rintro ⟨q, rest, hq, hrest, rfl⟩
        obtain ⟨hname, rfl⟩ := (hkey e q).1 hq
        obtain ⟨hnames, rfl⟩ := (ih rest).1 hrest
        exact ⟨List.forall_mem_cons.2 ⟨hname, hnames⟩, rfl⟩
      · rintro ⟨hnames, rfl⟩
        obtain ⟨hname, hrest⟩ := List.forall_mem_cons.1 hnames
        exact ⟨_, _, (hkey e _).2 ⟨hname, rfl⟩, (ih _).2 ⟨hrest, rfl⟩, rfl⟩
  unfold compileOrderBy
  split
  · next es =>
    rw [bind_eq_ok]
    constructor
    · rintro ⟨qs, hqs, h⟩
      obtain ⟨hnames, rfl⟩ := (hkeys es qs).1 hqs
      cases h
      exact ⟨es, rfl, hnames, rfl⟩
    · rintro ⟨_, hes, hnames, rfl⟩
      cases hes
      exact ⟨_, (hkeys es _).2 ⟨hnames, rfl⟩, rfl⟩
  · next v hv =>
    constructor
    · intro h
      cases h
    · rintro ⟨es, rfl, -⟩
      exact absurd rfl (hv es)

/-- A value as a parameter, when it is there. -/
def presentValue (v : Value) : List Value := if v.isNull then [] else [v]

theorem bindClause_eq (keyword : String) (v : Value) (built : Sql × List Value) :
    bindClause keyword v built =
      (built.1 ++ clauseSql keyword (!v.isNull) (built.2.length + 1 : Nat),
        built.2 ++ presentValue v) := by
  rw [bindClause, clauseSql, presentValue]
  cases v.isNull with
  | true => simp
  | false => simp

/-- The sort of a find: the one it was given, or by the fields of its filter. -/
def sortOf (o : QueryOptions) (cs : List Condition) : Value := o.sort.orElse (.map (defaultSort cs))

/-- A SELECT is the text of its form: the projection, the conditions of its filter, its sort and the
clauses that are there. -/
theorem compileFindWith_eq_ok {s : FieldSchema} {collection filter : Value} {o : QueryOptions}
    {st : Statement} :
    compileFindWith s collection filter o = .ok st ↔
      ∃ cs vs columns es, Condition.ofFilter filter = .ok cs ∧ parameters s cs = .ok vs ∧
        projectedColumns o.fields = .ok columns ∧ (∀ c ∈ columns, IsName c) ∧ IsName collection ∧
        sortOf o cs = .map es ∧ (∀ c ∈ Entries.keys es, IsName c) ∧
        st = ⟨(Form.find columns (cs.map Condition.form) (sortKeys es) (!o.limit.isNull)
            (!o.skip.isNull)).sql s.naming (pieceOf collection),
          vs ++ presentValue o.limit ++ presentValue o.skip⟩ := by
  -- the clauses are appended to a text and parameters that grow together
  have hresult {cs : List Condition} {vs : List Value} (hvs : parameters s cs = .ok vs)
      {columns : List Value} {es : Entries} :
      bindClause " OFFSET " o.skip (bindClause " LIMIT " o.limit
          ([.fixed "SELECT "] ++ projectionSql s.naming columns ++
            [.fixed " FROM ", pieceOf collection] ++
            whereSql s.naming (cs.map Condition.form) 1 ++ orderSql s.naming (sortKeys es), vs)) =
        ((Form.find columns (cs.map Condition.form) (sortKeys es) (!o.limit.isNull)
            (!o.skip.isNull)).sql s.naming (pieceOf collection),
          vs ++ presentValue o.limit ++ presentValue o.skip) := by
    have hlength := length_of_mapM hvs
    have hlimit : (vs ++ presentValue o.limit).length =
        (cs.map Condition.form).length + (!o.limit.isNull).toNat := by
      rw [List.length_append, hlength, List.length_map]
      cases o.limit <;> rfl
    simp only [bindClause_eq, hlimit, hlength, Form.sql, List.length_map, List.append_assoc,
      List.cons_append, List.nil_append]
  rw [compileFindWith, bind_eq_ok]
  constructor
  · rintro ⟨cs, hcs, h⟩
    obtain ⟨⟨restriction, vs⟩, hwhere, h⟩ := bind_eq_ok.1 h
    obtain ⟨projection, hprojection, h⟩ := bind_eq_ok.1 h
    obtain ⟨table, htable, h⟩ := bind_eq_ok.1 h
    obtain ⟨order, horder, h⟩ := bind_eq_ok.1 h
    obtain ⟨hvs, rfl⟩ := compileWhere_eq_ok.1 hwhere
    obtain ⟨columns, hcolumns, hnames, rfl⟩ := (compileProjection_eq_ok (s := s)).1 hprojection
    obtain ⟨hcollection, rfl⟩ := nameOf_eq_ok.1 htable
    obtain ⟨es, hes, hkeys, rfl⟩ := (compileOrderBy_eq_ok (s := s)).1 horder
    refine ⟨cs, vs, columns, es, hcs, hvs, hcolumns, hnames, hcollection, hes, hkeys, ?_⟩
    dsimp only at h
    rw [hresult hvs] at h
    cases h
    rfl
  · rintro ⟨cs, vs, columns, es, hcs, hvs, hcolumns, hnames, hcollection, hes, hkeys, rfl⟩
    have hprojection := (compileProjection_eq_ok (s := s)).2 ⟨columns, hcolumns, hnames, rfl⟩
    have horder := (compileOrderBy_eq_ok (s := s)).2 ⟨es, hes, hkeys, rfl⟩
    refine ⟨cs, hcs, bind_eq_ok.2 ⟨_, compileWhere_eq_ok.2 ⟨hvs, rfl⟩, bind_eq_ok.2
      ⟨_, hprojection, bind_eq_ok.2 ⟨_, nameOf_eq_ok.2 ⟨hcollection, rfl⟩, bind_eq_ok.2
      ⟨_, horder, ?_⟩⟩⟩⟩⟩
    dsimp only
    rw [hresult hvs]
    rfl

/-- A count is the text of its form with the parameters of its filter. -/
theorem compileCount_eq_ok {s : FieldSchema} {collection filter : Value} {st : Statement} :
    compileCount s collection filter = .ok st ↔
      ∃ cs vs, Condition.ofFilter filter = .ok cs ∧ parameters s cs = .ok vs ∧ IsName collection ∧
        st = ⟨(Form.count (cs.map Condition.form)).sql s.naming (pieceOf collection), vs⟩ := by
  rw [compileCount, bind_eq_ok]
  constructor
  · rintro ⟨cs, hcs, h⟩
    obtain ⟨⟨restriction, vs⟩, hwhere, h⟩ := bind_eq_ok.1 h
    obtain ⟨table, htable, h⟩ := bind_eq_ok.1 h
    obtain ⟨hvs, rfl⟩ := compileWhere_eq_ok.1 hwhere
    obtain ⟨hcollection, rfl⟩ := nameOf_eq_ok.1 htable
    cases h
    exact ⟨cs, vs, hcs, hvs, hcollection, rfl⟩
  · rintro ⟨cs, vs, hcs, hvs, hcollection, rfl⟩
    exact ⟨cs, hcs, bind_eq_ok.2 ⟨_, compileWhere_eq_ok.2 ⟨hvs, rfl⟩,
      bind_eq_ok.2 ⟨_, nameOf_eq_ok.2 ⟨hcollection, rfl⟩, rfl⟩⟩⟩

/-! ## Writing statements -/

/-- The parameters of a row. -/
def rowParameters (s : FieldSchema) (row : Entries) : Except Fault (List Value) :=
  row.mapM fun e => columnValue s e.1 e.2

theorem insertPlaceholders_eq (s : FieldSchema) (columns : List Value) (index : Int) :
    insertPlaceholders s columns index =
      numbered (fun _ => 1) (valueSql s.naming) columns index := by
  induction columns generalizing index with
  | nil => rfl
  | cons column columns ih =>
    rw [insertPlaceholders, columnPlaceholder_eq, ih]
    rfl

/-- An INSERT is the text of its form with the parameters of its row. -/
theorem compileInsert_eq_ok {s : FieldSchema} {collection values : Value} {st : Statement} :
    compileInsert s collection values = .ok st ↔
      ∃ row vs, values = .map row ∧ row ≠ [] ∧ (∀ c ∈ Entries.keys row, IsName c) ∧
        IsName collection ∧ rowParameters s row = .ok vs ∧
        st = ⟨(Form.insert (Entries.keys row)).sql s.naming (pieceOf collection), vs⟩ := by
  have hrow (row : Entries) : compileInsertRow s collection row = .ok st ↔
      ∃ vs, (∀ c ∈ Entries.keys row, IsName c) ∧ IsName collection ∧ rowParameters s row = .ok vs ∧
        st = ⟨(Form.insert (Entries.keys row)).sql s.naming (pieceOf collection), vs⟩ := by
    have hsql : ([.fixed "INSERT INTO ", pieceOf collection, .fixed "("] : Sql) ++
        join ", " (((Entries.keys row).map pieceOf).map ([·])) ++ [.fixed ") VALUES("] ++
        join ", " (insertPlaceholders s (Entries.keys row) 1) ++ [.fixed ") RETURNING *"] =
        (Form.insert (Entries.keys row)).sql s.naming (pieceOf collection) := by
      simp only [Form.sql, insertPlaceholders_eq, List.map_map, List.append_assoc,
        List.cons_append, List.nil_append]
      rfl
    rw [compileInsertRow, bind_eq_ok]
    constructor
    · rintro ⟨columns, hcolumns, h⟩
      obtain ⟨table, htable, h⟩ := bind_eq_ok.1 h
      obtain ⟨vs, hvs, h⟩ := bind_eq_ok.1 h
      obtain ⟨hnames, rfl⟩ := mapM_nameOf_eq_ok.1 hcolumns
      obtain ⟨hcollection, rfl⟩ := nameOf_eq_ok.1 htable
      rw [hsql] at h
      cases h
      exact ⟨vs, hnames, hcollection, hvs, rfl⟩
    · rintro ⟨vs, hnames, hcollection, hvs, rfl⟩
      refine ⟨_, mapM_nameOf_eq_ok.2 ⟨hnames, rfl⟩, bind_eq_ok.2
        ⟨_, nameOf_eq_ok.2 ⟨hcollection, rfl⟩, bind_eq_ok.2 ⟨vs, hvs, ?_⟩⟩⟩
      rw [hsql]
      rfl
  unfold compileInsert
  -- what is empty is refused first, then what is no mapping
  constructor
  · intro h
    split at h
    · next htruthy =>
      split at h
      · next row =>
        obtain ⟨vs, hnames, hcollection, hvs, hst⟩ := (hrow row).1 h
        refine ⟨row, vs, rfl, ?_, hnames, hcollection, hvs, hst⟩
        rintro rfl
        cases htruthy
      · cases h
    · cases h
  · rintro ⟨row, vs, rfl, hne, hnames, hcollection, hvs, hst⟩
    cases row with
    | nil => exact absurd rfl hne
    | cons e row => exact (hrow _).2 ⟨vs, hnames, hcollection, hvs, hst⟩

/-- The form of an assignment. -/
def Assignment.form (column : Value) (a : Assignment) : AssignmentForm Value :=
  ⟨column, a.setValue.isSome, a.deltas.length⟩

/-- The forms of assignments. -/
def Assignments.forms (as : Assignments) : List (AssignmentForm Value) :=
  as.map fun e => e.2.form e.1

/-- The parameters of an assignment: the value set, coerced for its column, and what is added. -/
def Assignment.parameters (s : FieldSchema) (column : Value) (a : Assignment) :
    Except Fault (List Value) :=
  match a.setValue with
  | some v => (setParameter s column v).map (· :: a.deltas)
  | none => .ok a.deltas

/-- The parameters of assignments. -/
def Assignments.parameters (s : FieldSchema) (as : Assignments) : Except Fault (List Value) :=
  (as.mapM fun (e : Value × Assignment) => e.2.parameters s e.1).map List.flatten

theorem compileDeltas_eq (vs : List Value) (index : Int) :
    compileDeltas vs index = incrementsSql vs.length index := by
  induction vs generalizing index with
  | nil => rfl
  | cons v vs ih => rw [compileDeltas, ih, List.length_cons, incrementsSql]

/-- The text of an assignment does not depend on its values. -/
theorem compileAssignment_eq_ok {s : FieldSchema} {column : Value} {a : Assignment} {index : Int}
    {compiled : Sql × List Value} :
    compileAssignment s column a index = .ok compiled ↔
      IsName column ∧ ∃ vs, a.parameters s column = .ok vs ∧
        compiled = ((a.form column).sql s.naming index, vs) := by
  have hsets (v : Value) (hv : a.setValue = some v) : (a.form column).sql s.naming index =
      [pieceOf column, .fixed " = "] ++ setExpression s column index ++
        compileDeltas a.deltas (index + 1) := by
    rw [AssignmentForm.sql, Assignment.form, hv, setExpression_eq, compileDeltas_eq]
    rfl
  have hkeeps (hv : a.setValue = none) : (a.form column).sql s.naming index =
      [pieceOf column, .fixed " = ", pieceOf column] ++ compileDeltas a.deltas index := by
    rw [AssignmentForm.sql, Assignment.form, hv, compileDeltas_eq]
    rfl
  rw [compileAssignment, Assignment.parameters]
  rw [bind_eq_ok]
  constructor
  · rintro ⟨p, hp, h⟩
    obtain ⟨hname, rfl⟩ := nameOf_eq_ok.1 hp
    refine ⟨hname, ?_⟩
    cases hv : a.setValue with
    | some v =>
      rw [hv] at h
      obtain ⟨param, hparam, h⟩ := bind_eq_ok.1 h
      cases h
      exact ⟨_, map_eq_ok.2 ⟨param, hparam, rfl⟩, by rw [hsets v hv]⟩
    | none =>
      rw [hv] at h
      cases h
      exact ⟨_, rfl, by rw [hkeeps hv]⟩
  · rintro ⟨hname, vs, hvs, rfl⟩
    refine ⟨_, nameOf_eq_ok.2 ⟨hname, rfl⟩, ?_⟩
    cases hv : a.setValue with
    | some v =>
      rw [hv] at hvs
      obtain ⟨param, hparam, rfl⟩ := map_eq_ok.1 hvs
      rw [hsets v hv]
      exact bind_eq_ok.2 ⟨param, hparam, rfl⟩
    | none =>
      rw [hv] at hvs
      cases hvs
      rw [hkeeps hv]
      rfl

/-- An assignment has as many parameters as its form binds values. -/
theorem Assignment.length_parameters {s : FieldSchema} {column : Value} {a : Assignment}
    {vs : List Value} (h : a.parameters s column = .ok vs) : vs.length = (a.form column).arity := by
  unfold Assignment.parameters at h
  rw [Assignment.form, AssignmentForm.arity]
  cases hv : a.setValue with
  | some v =>
    rw [hv] at h
    obtain ⟨param, -, rfl⟩ := map_eq_ok.1 h
    exact Nat.add_comm _ _
  | none =>
    rw [hv] at h
    cases h
    exact (Nat.zero_add _).symm

theorem Assignments.parameters_cons_eq_ok {s : FieldSchema} {e : Value × Assignment}
    {as : Assignments} {vs : List Value} :
    parameters s (e :: as) = .ok vs ↔
      ∃ head tail, e.2.parameters s e.1 = .ok head ∧ parameters s as = .ok tail ∧
        vs = head ++ tail := by
  rw [parameters]
  rw [map_eq_ok]
  constructor
  · rintro ⟨vss, hvss, rfl⟩
    obtain ⟨head, rest, hhead, hrest, rfl⟩ := mapM_cons_eq_ok.1 hvss
    exact ⟨head, rest.flatten, hhead, map_eq_ok.2 ⟨rest, hrest, rfl⟩, rfl⟩
  · rintro ⟨head, tail, hhead, htail, rfl⟩
    obtain ⟨rest, hrest, rfl⟩ := map_eq_ok.1 htail
    exact ⟨head :: rest, mapM_cons_eq_ok.2 ⟨head, rest, hhead, hrest, rfl⟩, rfl⟩

/-- Assignments have as many parameters as their forms bind values. -/
theorem Assignments.length_parameters {s : FieldSchema} {as : Assignments} {vs : List Value}
    (h : parameters s as = .ok vs) : vs.length = assignmentsArity as.forms := by
  induction as generalizing vs with
  | nil =>
    cases h
    rfl
  | cons e as ih =>
    obtain ⟨head, tail, hhead, htail, rfl⟩ := parameters_cons_eq_ok.1 h
    rw [List.length_append, Assignment.length_parameters hhead, ih htail]
    rfl

/-- The texts of assignments do not depend on their values. -/
theorem compileAssignments_eq_ok {s : FieldSchema} {as : Assignments} {index : Int}
    {compiled : List Sql × List Value} :
    compileAssignments s as index = .ok compiled ↔
      (∀ e ∈ as, IsName e.1) ∧ ∃ vs, as.parameters s = .ok vs ∧
        compiled = (numbered AssignmentForm.arity (AssignmentForm.sql s.naming) as.forms index,
          vs) := by
  induction as generalizing index compiled with
  | nil =>
    constructor
    · intro h
      cases h
      exact ⟨fun e he => absurd he List.not_mem_nil, [], rfl, rfl⟩
    · rintro ⟨-, vs, hvs, rfl⟩
      cases hvs
      rfl
  | cons e as ih =>
    rw [List.forall_mem_cons, compileAssignments, bind_eq_ok]
    constructor
    · rintro ⟨head, hhead, h⟩
      obtain ⟨hname, params, hparams, rfl⟩ := compileAssignment_eq_ok.1 hhead
      obtain ⟨rest, hrest, h⟩ := bind_eq_ok.1 h
      obtain ⟨hnames, more, hmore, rfl⟩ := ih.1 hrest
      cases h
      refine ⟨⟨hname, hnames⟩, _,
        Assignments.parameters_cons_eq_ok.2 ⟨params, more, hparams, hmore, rfl⟩, ?_⟩
      -- the next number is counted from parameters here and from the form there
      rw [Assignment.length_parameters hparams]
      rfl
    · rintro ⟨⟨hname, hnames⟩, vs, hvs, rfl⟩
      obtain ⟨params, more, hparams, hmore, rfl⟩ := Assignments.parameters_cons_eq_ok.1 hvs
      refine ⟨_, compileAssignment_eq_ok.2 ⟨hname, params, hparams, rfl⟩, bind_eq_ok.2
        ⟨_, ih.2 ⟨hnames, more, hmore, rfl⟩, ?_⟩⟩
      rw [Assignment.length_parameters hparams]
      rfl

/-- An UPDATE is the text of its form: what its document assigns, and the conditions of its filter,
all of them equalities. The parameters of the assignments come first. -/
theorem compileUpdate_eq_ok {s : FieldSchema} {collection filter update : Value} {st : Statement} :
    compileUpdate s collection filter update = .ok st ↔
      ∃ as params cs vs, Assignments.ofUpdate update = .ok as ∧ as ≠ [] ∧ (∀ e ∈ as, IsName e.1) ∧
        as.parameters s = .ok params ∧ Condition.ofFilter filter = .ok cs ∧
        (∀ c ∈ cs, c.operator = some .eq) ∧ parameters s cs = .ok vs ∧ IsName collection ∧
        st = ⟨(Form.update as.forms (cs.map Condition.form)).sql s.naming (pieceOf collection),
          params ++ vs⟩ := by
  have hsql {as : Assignments} {params : List Value} (hparams : as.parameters s = .ok params)
      (cs : List Condition) : ([.fixed "UPDATE ", pieceOf collection, .fixed " SET "] : Sql) ++
      join ", " (numbered AssignmentForm.arity (AssignmentForm.sql s.naming) as.forms 1) ++
      whereSql s.naming (cs.map Condition.form) (params.length + 1 : Nat) ++
      [.fixed " RETURNING *"] =
      (Form.update as.forms (cs.map Condition.form)).sql s.naming (pieceOf collection) := by
    simp only [Form.sql, Assignments.length_parameters hparams, List.append_assoc,
      List.cons_append, List.nil_append]
  rw [compileUpdate, bind_eq_ok]
  constructor
  · rintro ⟨as, has, h⟩
    -- an update that assigns nothing is refused
    cases as with
    | nil => cases h
    | cons e as =>
      obtain ⟨⟨sqls, params⟩, hassignments, h⟩ := bind_eq_ok.1 h
      obtain ⟨⟨restriction, vs⟩, hwhere, h⟩ := bind_eq_ok.1 h
      obtain ⟨table, htable, h⟩ := bind_eq_ok.1 h
      obtain ⟨hnames, params, hparams, hcompiled⟩ := compileAssignments_eq_ok.1 hassignments
      cases hcompiled
      obtain ⟨cs, hcs, hequalities, hvs, rfl⟩ := compileEqualityWhere_eq_ok.1 hwhere
      obtain ⟨hcollection, rfl⟩ := nameOf_eq_ok.1 htable
      rw [hsql hparams] at h
      cases h
      exact ⟨_, params, cs, vs, has, List.cons_ne_nil e as, hnames, hparams, hcs, hequalities, hvs,
        hcollection, rfl⟩
  · rintro ⟨as, params, cs, vs, has, hne, hnames, hparams, hcs, hequalities, hvs, hcollection, rfl⟩
    refine ⟨as, has, ?_⟩
    cases as with
    | nil => exact absurd rfl hne
    | cons e as =>
      refine bind_eq_ok.2
        ⟨_, compileAssignments_eq_ok.2 ⟨hnames, params, hparams, rfl⟩, bind_eq_ok.2
        ⟨_, compileEqualityWhere_eq_ok.2 ⟨cs, hcs, hequalities, hvs, rfl⟩, bind_eq_ok.2
        ⟨_, nameOf_eq_ok.2 ⟨hcollection, rfl⟩, ?_⟩⟩⟩
      rw [hsql hparams]
      rfl

/-- A DELETE is the text of its form: the conditions of its filter, all of them equalities. -/
theorem compileDelete_eq_ok {s : FieldSchema} {collection filter : Value} {st : Statement} :
    compileDelete s collection filter = .ok st ↔
      ∃ cs vs, Condition.ofFilter filter = .ok cs ∧ (∀ c ∈ cs, c.operator = some .eq) ∧
        parameters s cs = .ok vs ∧ IsName collection ∧
        st = ⟨(Form.delete (cs.map Condition.form)).sql s.naming (pieceOf collection), vs⟩ := by
  rw [compileDelete, bind_eq_ok]
  constructor
  · rintro ⟨⟨restriction, vs⟩, hwhere, h⟩
    obtain ⟨table, htable, h⟩ := bind_eq_ok.1 h
    obtain ⟨cs, hcs, hequalities, hvs, rfl⟩ := compileEqualityWhere_eq_ok.1 hwhere
    obtain ⟨hcollection, rfl⟩ := nameOf_eq_ok.1 htable
    cases h
    exact ⟨cs, vs, hcs, hequalities, hvs, hcollection, rfl⟩
  · rintro ⟨cs, vs, hcs, hequalities, hvs, hcollection, rfl⟩
    exact ⟨_, compileEqualityWhere_eq_ok.2 ⟨cs, hcs, hequalities, hvs, rfl⟩,
      bind_eq_ok.2 ⟨_, nameOf_eq_ok.2 ⟨hcollection, rfl⟩, rfl⟩⟩

end DocumentStore
