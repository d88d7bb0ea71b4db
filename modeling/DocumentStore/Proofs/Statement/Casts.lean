import DocumentStore.Proofs.Document.Stored
import DocumentStore.Proofs.Statement.Bindings
import DocumentStore.Proofs.Statement.Coercion

/-!
# Casts and parameters

The text of a statement decides by a column's kind how a placeholder is cast, and the values decide
by it what is bound there; filters, inserts and sets each do so in their own way. What a placeholder
stands for (`Sql.Role`) tells its column and use. By these the text writes it (`Form.spellings_eq`)
and by these a value is bound (`Call.takes_of_bindings`), so the cast and the parameter agree
wherever they meet.
-/

set_option autoImplicit false

namespace DocumentStore

open Sql Fallible
open Text (Point)

/-! ## What the text has for a role -/

/-- The column and the use of a placeholder. A pattern is no operand of its column, and neither
increments nor limits are values of one. -/
def Sql.Role.use? (inserts : Bool) : Role → Option (List Point × Use)
  | .operand column comparison =>
    if comparison = Text.points " ILIKE " then none
    else some (column, if comparison = Text.points " = ANY(" then .member else .compared)
  | .value column => some (column, if inserts then .inserted else .set)
  | _ => none

/-- Whether a call inserts. -/
def Call.inserts : Call → Bool
  | .insert _ => true
  | _ => false

/-- How a placeholder is written that stands for a role. -/
def Sql.Role.spelling (s : FieldSchema) (inserts : Bool) (r : Role) : Spelling :=
  match r.use? inserts with
  | some (column, use) => use.spelling (s.kindOf (.ofPoints column))
  | none => .bare

/-- Whether a form inserts. -/
def Form.inserts {ν : Type} : Form ν → Bool
  | .insert _ => true
  | _ => false

theorem Call.inserts_form {call : Call} {form : Form Value} (h : call.form = .ok form) :
    form.inserts = call.inserts := by
  cases call with
  | find filter options =>
    obtain ⟨o, -, h⟩ := bind_eq_ok.1 h
    obtain ⟨cs, -, h⟩ := bind_eq_ok.1 h
    obtain ⟨columns, -, h⟩ := bind_eq_ok.1 h
    obtain ⟨order, -, h⟩ := bind_eq_ok.1 h
    cases h
    rfl
  | count filter =>
    obtain ⟨cs, -, h⟩ := bind_eq_ok.1 h
    cases h
    rfl
  | insert values =>
    obtain ⟨row, -, h⟩ := bind_eq_ok.1 h
    cases h
    rfl
  | update filter change =>
    obtain ⟨as, -, h⟩ := bind_eq_ok.1 h
    obtain ⟨cs, -, h⟩ := bind_eq_ok.1 h
    cases h
    rfl
  | delete filter =>
    obtain ⟨cs, -, h⟩ := bind_eq_ok.1 h
    cases h
    rfl

/-- The use of an operand of a condition. -/
theorem use?_operand (inserts : Bool) (column : List Point) (o : Operator) :
    (Role.operand column (Text.points o.lead)).use? inserts =
      match o with
      | .regex => none
      | .isIn => some (column, .member)
      | .containsAny => some (column, .member)
      | _ => some (column, .compared) := by
  have hpattern (o : Operator) : Text.points o.lead = Text.points " ILIKE " ↔ o = .regex := by
    cases o <;> decide
  have hmember (o : Operator) :
      Text.points o.lead = Text.points " = ANY(" ↔ o = .isIn ∨ o = .containsAny := by
    cases o <;> decide
  cases o <;> simp [Role.use?, hpattern, hmember]

section Forms

variable (s : FieldSchema)

theorem ofPoints_label {c : Value} (h : IsName c) :
    Value.ofPoints (nameOfPiece (pieceOf c)) = c := by
  rw [nameOfPiece_pieceOf h.isText, Value.ofPoints_points h.isText]

theorem spellings_conditions (inserts : Bool) {cs : List (ConditionForm Value)}
    (h : ∀ c ∈ cs.map (·.column), IsName c) :
    cs.map (ConditionForm.spelling s.kindOf) =
      (cs.map (ConditionForm.role fun v => nameOfPiece (pieceOf v))).map
        (Role.spelling s inserts) := by
  rw [List.map_map]
  refine List.map_congr_left fun c hc => ?_
  have hname := ofPoints_label (h c.column (List.mem_map_of_mem hc))
  rw [Function.comp_apply, Role.spelling, ConditionForm.role, use?_operand, ConditionForm.spelling]
  cases c.operator <;> simp only [Operator.spelling, Use.spelling, hname]

/-- The placeholders of a form are written for what they stand for. -/
theorem Form.spellings_eq {collection : Value} {form : Form Value}
    (h : ∀ c ∈ form.names collection, IsName c) :
    form.spellings s.kindOf = form.ownRoles.map (Role.spelling s form.inserts) := by
  have hpresent (present inserts : Bool) (role : Role) (hrole : role.use? inserts = none) :
      (if present then [Spelling.bare] else []) =
        (if present then [role] else []).map (Role.spelling s inserts) := by
    cases present with
    | false => rfl
    | true => simp [Role.spelling, hrole]
  cases form with
  | find columns conditions order limit skip =>
    have hconditions : ∀ c ∈ conditions.map (·.column), IsName c := fun c hc =>
      h c (by simp only [Form.names, List.mem_append, List.mem_cons]; exact .inl (.inr (.inr hc)))
    rw [Form.spellings, Form.ownRoles, Form.roles, List.map_append, List.map_append,
      spellings_conditions s _ hconditions, ← hpresent limit _ .limit rfl,
      ← hpresent skip _ .skip rfl]
  | count conditions =>
    exact spellings_conditions s _ fun c hc => h c (List.mem_cons_of_mem _ hc)
  | insert columns =>
    rw [Form.spellings, Form.ownRoles, Form.roles, List.map_map]
    refine List.map_congr_left fun c hc => ?_
    have hname := ofPoints_label (h c (List.mem_cons_of_mem _ hc))
    show (s.kindOf c).one = (s.kindOf (.ofPoints (nameOfPiece (pieceOf c)))).one
    rw [hname]
  | update assignments conditions =>
    have hconditions : ∀ c ∈ conditions.map (·.column), IsName c := fun c hc =>
      h c (by simp only [Form.names, List.mem_append, List.mem_cons]; exact .inr hc)
    have hassigned : ∀ a ∈ assignments, IsName a.column := fun a ha => by
      refine h a.column
        (List.mem_append_left _ (List.mem_cons_of_mem _ (List.mem_flatMap.2 ⟨a, ha, ?_⟩)))
      cases a.sets <;> simp
    rw [Form.spellings, Form.ownRoles, Form.roles, List.map_append,
      spellings_conditions s _ hconditions, List.map_flatMap]
    congr 1
    refine List.flatMap_congr fun a ha => ?_
    have hname := ofPoints_label (hassigned a ha)
    rw [AssignmentForm.spellings, AssignmentForm.roles, List.map_append, List.map_replicate]
    congr 1
    cases a.sets with
    | false => rfl
    | true =>
      show [(s.kindOf a.column).toSet] =
        [(s.kindOf (.ofPoints (nameOfPiece (pieceOf a.column)))).toSet]
      rw [hname]
  | delete conditions =>
    exact spellings_conditions s _ fun c hc => h c (List.mem_cons_of_mem _ hc)

end Forms

/-! ## What is bound for a role -/

/-- A value that is bound for a role is one for the column and the use of the role. -/
def Takes (s : FieldSchema) (inserts : Bool) (b : Role × Value) : Prop :=
  ∀ column use, b.1.use? inserts = some (column, use) →
    use.Takes (s.kindOf (.ofPoints column)) (s.isEncoded (.ofPoints column)) b.2

theorem takes_of_conditions {s : FieldSchema} {inserts : Bool} {cs : List Condition}
    {bs : List (Role × Value)} (h : conditionBindings s cs = .ok bs) :
    ∀ b ∈ bs, Takes s inserts b := by
  intro b hb column use huse
  obtain ⟨c, -, hc⟩ := exists_of_mem_mapM h hb
  obtain ⟨param, hparam, rfl⟩ := map_eq_ok.1 hc
  obtain ⟨hname, o, ho, hoperand⟩ := Condition.parameter_eq_ok.1 hparam
  have hrole : c.role = .operand c.field.points (Text.points o.lead) := by
    rw [Condition.role, ho]; rfl
  have hcolumn := Value.ofPoints_points hname.isText
  rw [hrole, use?_operand] at huse
  cases o with
  | regex => cases huse
  | isIn =>
    cases huse
    rw [hcolumn]
    exact takes_of_members _ hoperand
  | containsAny =>
    cases huse
    rw [hcolumn]
    exact takes_of_members _ hoperand
  | _ =>
    cases huse
    rw [hcolumn]
    exact takes_of_filterValue _ hoperand

theorem takes_of_increments (s : FieldSchema) (inserts : Bool) (cs : List Change)
    (name : List Point) :
    ∀ b ∈ incrementBindings cs name, Takes s inserts b := by
  intro b hb column use huse
  obtain ⟨v, -, rfl⟩ := List.mem_map.1 hb
  cases huse

theorem takes_of_changes {s : FieldSchema} {cs : List Change} {bs : List (Role × Value)}
    (h : changeBindings s cs = .ok bs) : ∀ b ∈ bs, Takes s false b := by
  intro b hb
  obtain ⟨bss, hbss, rfl⟩ := map_eq_ok.1 h
  obtain ⟨target, htarget, hbt⟩ := List.mem_flatten.1 hb
  obtain ⟨name, -, hname⟩ := exists_of_mem_mapM hbss htarget
  have hincrements := takes_of_increments s false cs name b
  unfold targetBindings at hname
  split at hname
  · obtain ⟨param, hparam, rfl⟩ := map_eq_ok.1 hname
    rcases List.mem_cons.1 hbt with rfl | hbt
    · intro column use huse
      cases huse
      exact takes_of_setParameter hparam
    · exact hincrements hbt
  · cases hname
    exact hincrements hbt

/-- The timestamps of a row that comes of a document have been read as such. -/
theorem naiveOrNull_of_rowOf {identifier : Nat → Uuid} {m : Mapper} {document : Value} {j : Journal}
    {row : Entries} (h : (m.rowOf identifier document j).1 = .ok row) :
    ∀ e ∈ row, isNamed timestampFields e.1 = true → NaiveOrNull e.2 := by
  intro e he hstamp
  cases document with
  | map es =>
    obtain ⟨vs, hvs, rfl⟩ := Mapper.rowOf_eq_ok h
    rcases List.mem_append.1 he with he | he
    · obtain ⟨given, -, hgiven⟩ := exists_of_mem_mapM hvs he
      obtain ⟨v, hv, rfl⟩ := map_eq_ok.1 hgiven
      obtain ⟨hinternal, -, -⟩ := reserved_of_timestamp hstamp
      obtain ⟨n, -, hn⟩ := exists_of_isNamed hstamp
      have hn : given.1 = .text n := hn
      have hcoerced : Mapper.coerceInternal given.1 given.2 =
          (toTimestamp given.2).map Value.ofMoment := by
        rw [hn] at hstamp ⊢
        show (if isNamed timestampFields (.text n) then _ else _) = _
        rw [if_pos hstamp]
      rw [if_pos hinternal, hcoerced] at hv
      exact naiveOrNull_ofMoment hv
    · rw [List.mem_singleton.1 he] at hstamp
      cases hstamp
  | _ => cases h

theorem takes_of_row {s : FieldSchema} {row : Entries} {bs : List (Role × Value)}
    (hkeys : ∀ c ∈ Entries.keys row, IsName c)
    (hstamps : ∀ e ∈ row, isNamed timestampFields e.1 = true → NaiveOrNull e.2)
    (h : rowBindings s row = .ok bs) : ∀ b ∈ bs, Takes s true b := by
  intro b hb column use huse
  obtain ⟨e, he, hbound⟩ := exists_of_mem_mapM h hb
  obtain ⟨param, hparam, rfl⟩ := map_eq_ok.1 hbound
  have hcolumn := Value.ofPoints_points (hkeys e.1 (List.mem_map_of_mem he)).isText
  cases huse
  rw [hcolumn]
  exact takes_of_columnValue hparam (hstamps e he)

/-- Rows are inserted that come of documents. -/
def Call.InsertsDocument : Call → Prop
  | .insert values => ∃ (m : Mapper) (identifier : Nat → Uuid) (document : Value) (j : Journal)
      (row : Entries), (m.rowOf identifier document j).1 = .ok row ∧ values = .map row
  | _ => True

/-- Whatever a call binds for a role is for the column and the use of the role. -/
theorem Call.takes_of_bindings {s : FieldSchema} {collection : Value} {call : Call} {st : Statement}
    (hcompiled : call.compile s collection = .ok st) (hdocument : call.InsertsDocument)
    {bs : List (Role × Value)} (h : call.bindings s = .ok bs) :
    ∀ b ∈ bs, Takes s call.inserts b := by
  have hpresent (role : Role) (hrole : role.use? false = none) (v : Value) :
      ∀ b ∈ presentBinding role v, Takes s false b := by
    intro b hb column use huse
    obtain ⟨w, -, rfl⟩ := List.mem_map.1 hb
    rw [hrole] at huse
    cases huse
  cases call with
  | find filter options =>
    obtain ⟨o, -, h⟩ := bind_eq_ok.1 h
    obtain ⟨cs, -, h⟩ := bind_eq_ok.1 h
    obtain ⟨operands, hoperands, h⟩ := bind_eq_ok.1 h
    cases h
    simp only [List.forall_mem_append]
    exact ⟨⟨takes_of_conditions hoperands, hpresent .limit rfl o.limit⟩, hpresent .skip rfl o.skip⟩
  | count filter =>
    obtain ⟨cs, -, h⟩ := bind_eq_ok.1 h
    exact takes_of_conditions h
  | insert values =>
    obtain ⟨m, identifier, document, j, row, hrow, rfl⟩ := hdocument
    obtain ⟨row', -, hrow', -, hkeys, -⟩ := compileInsert_eq_ok.1 hcompiled
    cases hrow'
    exact takes_of_row hkeys (naiveOrNull_of_rowOf hrow) h
  | update filter change =>
    obtain ⟨assigned, hassigned, h⟩ := bind_eq_ok.1 h
    obtain ⟨cs, -, h⟩ := bind_eq_ok.1 h
    obtain ⟨operands, hoperands, h⟩ := bind_eq_ok.1 h
    cases h
    simp only [List.forall_mem_append]
    exact ⟨takes_of_changes hassigned, takes_of_conditions hoperands⟩
  | delete filter =>
    obtain ⟨cs, -, h⟩ := bind_eq_ok.1 h
    exact takes_of_conditions h

/-! ## Placeholders beside parameters -/

/-- The placeholders of a compiled statement are numbered in order, and stand for the roles of what
is bound, each written as its role is. -/
theorem Call.exists_spelled_bindings {s : FieldSchema} {collection : Value} {call : Call}
    {st : Statement} (hcompiled : call.compile s collection = .ok st) :
    ∃ ts bs, Sql.read st.points = some ts ∧ numbers ts = upFrom 1 st.params.length ∧
      call.bindings s = .ok bs ∧ bs.map Prod.snd = st.params ∧ Sql.roles ts = bs.map Prod.fst ∧
      Sql.spellings [] ts = (bs.map Prod.fst).map (Role.spelling s call.inserts) := by
  obtain ⟨form, hform, hrenders⟩ := Call.exists_form_of_compile hcompiled
  obtain ⟨form', bs, hsql, hbs, hroles', hparams⟩ := Call.exists_bindings hcompiled
  have hroles : Sql.roles (tokens (form.sql s.naming (pieceOf collection))) = bs.map Prod.fst := by
    rw [← hrenders.sql, hsql, hroles']
    exact Form.roles_sql s.tokens_naming collection form'
  have hown : form.ownRoles = bs.map Prod.fst :=
    (Form.roles_sql s.tokens_naming collection form).symm.trans hroles
  refine ⟨_, bs, hrenders.read, ?_, hbs, hparams, hroles, ?_⟩
  · rw [hrenders.arity]
    exact Form.numbers_sql s.tidy_naming (s.tidy_naming collection) form
  · rw [← hown, ← Call.inserts_form hform, ← Form.spellings_eq s hrenders.isName]
    exact Form.spellings_sql s.tokens_naming collection form

/-- In every statement that is compiled with a schema of a mapping, each placeholder that stands for
an operand or a value of a column is written with the cast for the value that is bound to its
number, and that value is of the kind which the cast asks for. -/
theorem Call.casts_agree_of_compile {source : SchemaSource} {s : FieldSchema}
    (hsource : source.FromMapping) (hschema : FieldSchema.of source = .ok s) (collection : Value)
    {call : Call} {st : Statement} (hcompiled : call.compile s collection = .ok st)
    (hdocument : call.InsertsDocument) :
    ∃ ts, Sql.read st.points = some ts ∧ numbers ts = upFrom 1 st.params.length ∧
      (Sql.roles ts).length = st.params.length ∧ (Sql.spellings [] ts).length = st.params.length ∧
      ∀ (k : Nat) (role : Role) (spelling : Spelling) (param : Value)
        (column : List Point) (use : Use), (Sql.roles ts)[k]? = some role →
        (Sql.spellings [] ts)[k]? = some spelling → st.params[k]? = some param →
        role.use? call.inserts = some (column, use) → Agrees s column use spelling param := by
  have hdistinct := FieldSchema.distinct_of_mapping hsource hschema
  obtain ⟨ts, bs, hread, hnumbers, hbs, hparams, hroles, hspellings⟩ :=
    Call.exists_spelled_bindings hcompiled
  refine ⟨ts, hread, hnumbers, ?_, ?_, ?_⟩
  · rw [hroles, ← hparams, List.length_map, List.length_map]
  · rw [hspellings, ← hparams, List.length_map, List.length_map, List.length_map]
  · intro k role spelling param column use hrole hspelling hparam huse
    rw [hroles, List.getElem?_map] at hrole
    rw [hspellings, List.map_map, List.getElem?_map] at hspelling
    rw [← hparams, List.getElem?_map] at hparam
    obtain ⟨b, hb, rfl⟩ := Option.map_eq_some_iff.1 hrole
    rw [hb] at hspelling hparam
    cases hspelling
    cases hparam
    have htakes :=
      Call.takes_of_bindings hcompiled hdocument hbs b (List.mem_of_getElem? hb) column use huse
    have hspelled : b.1.spelling s call.inserts = use.spelling (s.kindOf (.ofPoints column)) := by
      rw [Role.spelling, huse]
    show Agrees s column use (b.1.spelling s call.inserts) b.2
    rw [hspelled]
    exact agrees_of_takes hdistinct htakes

/-- A schema that declares a date, JSON, and a timestamp column as a text. -/
def stampedSchema : SchemaSource :=
  schemaOf [("d", "DateTime"), ("m", "Mixed"), ("_createdAt", "String")]

/-- An update that sets all of them where a timestamp has a value. -/
def stampingUpdate : Call :=
  .update (.map [(.text "_createdAt", .int 0)]) (.map [(.text "$set",
    .map [(.text "d", .text "2020-01-01"), (.text "m", .list [.int 1]),
      (.text "_createdAt", .int 0)])])

/-- A document with a value for each of them. -/
def stampedDocument : Value :=
  .map [(.text "d", .text "2020-01-01"), (.text "m", .list [.int 1]), (.text "_createdAt", .int 0),
    (.text "_id", .text "a")]

theorem casts_agree_in_stampedSchema :
    ∃ s updated inserted ts us row,
      FieldSchema.of stampedSchema = .ok s ∧ stampingUpdate.compile s (.text "t") = .ok updated ∧
      Sql.read updated.points = some ts ∧
      Sql.spellings [] ts = [.withCast "::text::timestamp", .bare, .ofSeconds, .bare] ∧
      (∀ param, updated.params[2]? = some param → FloatOrNull param) ∧
      (∀ param, updated.params[3]? = some param → NaiveOrNull param) ∧
      (Call.insert (.map row)).compile s (.text "t") = .ok inserted ∧
      Sql.read inserted.points = some us ∧
      Sql.spellings [] us = [.withCast "::text::timestamp", .bare, .bare, .bare] ∧
      ∀ param, inserted.params[2]? = some param → NaiveOrNull param := by
  have hsource : stampedSchema.FromMapping := fromMapping_schemaOf (by decide) (by decide)
  have hread (st : Statement) (ts : List Token) (hts : Sql.read st.points = some ts)
      {roles : List Role} {ss : List Spelling}
      (h : (Sql.read st.points).any
        (fun ts => Sql.roles ts = roles ∧ Sql.spellings [] ts = ss) = true) :
      Sql.roles ts = roles ∧ Sql.spellings [] ts = ss := by
    rw [hts] at h
    exact of_decide_eq_true h
  have hcompiled : (FieldSchema.of stampedSchema >>= fun s =>
      (stampingUpdate.compile s (.text "t")).map fun st => (s, st)).toOption.any
        (fun p => (Sql.read p.2.points).any fun ts =>
          Sql.roles ts = [.value (Text.points "d"), .value (Text.points "m"),
            .value (Text.points "_createdAt"),
            .operand (Text.points "_createdAt") (Text.points " = ")] ∧
          Sql.spellings [] ts =
            [.withCast "::text::timestamp", .bare, .ofSeconds, .bare]) = true := by
    decide +kernel
  have hinserted : (FieldSchema.of stampedSchema >>= fun s => Mapper.ofSchema s >>= fun m =>
      (m.rowOf (fun _ => ⟨0⟩) stampedDocument .empty).1 >>= fun row =>
      ((Call.insert (.map row)).compile s (.text "t")).map fun st => (s, m, row, st)).toOption.any
        (fun p => (Sql.read p.2.2.2.points).any fun ts =>
          Sql.roles ts = [.value (Text.points "d"), .value (Text.points "m"),
            .value (Text.points "_createdAt"), .value (Text.points "_id")] ∧
          Sql.spellings [] ts = [.withCast "::text::timestamp", .bare, .bare, .bare]) = true := by
    decide +kernel
  obtain ⟨⟨s, updated⟩, h, hupdated⟩ := exists_of_check hcompiled
  obtain ⟨s', hs, h⟩ := bind_eq_ok.1 h
  obtain ⟨st, hst, heq⟩ := map_eq_ok.1 h
  cases heq
  obtain ⟨⟨s', m, row, inserted⟩, h, hinsertion⟩ := exists_of_check hinserted
  obtain ⟨s'', hs'', h⟩ := bind_eq_ok.1 h
  obtain ⟨m', hm, h⟩ := bind_eq_ok.1 h
  obtain ⟨row', hrow, h⟩ := bind_eq_ok.1 h
  obtain ⟨st', hst', heq⟩ := map_eq_ok.1 h
  cases heq
  obtain rfl := result_unique hs hs''
  obtain ⟨ts, hts, -, -, -, hagrees⟩ :=
    Call.casts_agree_of_compile hsource hs (.text "t") hst trivial
  obtain ⟨us, hus, -, -, -, hagrees'⟩ :=
    Call.casts_agree_of_compile hsource hs (.text "t") hst' ⟨m, _, _, _, row, hrow, rfl⟩
  obtain ⟨hroles, hspelled⟩ := hread _ ts hts hupdated
  obtain ⟨hroles', hspelled'⟩ := hread _ us hus hinsertion
  have hstamp : IsTimestamp (Text.points "_createdAt") := .inl rfl
  refine ⟨s, updated, inserted, ts, us, row, hs, hst, hts, hspelled, fun param hparam => ?_,
    fun param hparam => ?_, hst', hus, hspelled', fun param hparam => ?_⟩
  · exact ((hagrees 2 (.value (Text.points "_createdAt")) .ofSeconds param _ .set
      (by rw [hroles]; rfl) (by rw [hspelled]; rfl) hparam rfl).timestamp hstamp).2
  · exact ((hagrees 3 (.operand (Text.points "_createdAt") (Text.points " = ")) .bare param _
      .compared (by rw [hroles]; rfl) (by rw [hspelled]; rfl) hparam rfl).timestamp hstamp).2
  · exact ((hagrees' 2 (.value (Text.points "_createdAt")) .bare param _ .inserted
      (by rw [hroles']; rfl) (by rw [hspelled']; rfl) hparam rfl).timestamp hstamp).2

end DocumentStore
