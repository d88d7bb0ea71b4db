import DocumentStore.Proofs.Document.JsonColumns
import DocumentStore.Proofs.Json.Trees
import DocumentStore.Proofs.Query.Grammar
import DocumentStore.Proofs.Query.NormalForm
import DocumentStore.Proofs.Statement.Compiled

/-!
# How a find fails

A find with a filter that JSON is read as and that does not compile is refused, or its options
cannot be read (`QueryOptions`), or the fault is one of two kinds that nothing guards against
(`FindFault`): a filter that counts as true has no items, or an operand of a timestamp column is
beyond the moments that there are (`compileFind_eq_error`). When it compiles, and its counts can be
written, each of its parameters can be written as JSON (`writable_of_compileFind`).
-/

set_option autoImplicit false

namespace DocumentStore

open Fallible

/-! ## Moments -/

namespace Timestamp

/-- The faults of numbers that are no moments and of moments beyond the years that there are. -/
inductive Beyond : Fault → Prop
  | nan : Beyond (.value .nanTimestamp)
  | year (year : Int) : Beyond (.value (.year year))
  | clock : Beyond (.range .clock)
  | quotient : Beyond (.range .quotient)
  | date : Beyond (.range .date)
  | calendar : Beyond .calendar

theorem beyond_of_ofMicros {n : Int} {f : Fault} (h : ofMicros n = .error f) : Beyond f := by
  unfold ofMicros at h
  split at h
  · cases h
  · dsimp only at h
    split at h
    · cases h
      exact .year _
    · cases h
      exact .calendar

theorem beyond_of_ofSeconds {x : Double} {f : Fault} (h : ofSeconds x = .error f) : Beyond f := by
  rcases bind_eq_error.1 h with h | ⟨n, -, h⟩
  · unfold microsOfSeconds at h
    split at h
    · cases h
      exact .nan
    · cases h
      exact .clock
    · dsimp only at h
      split at h
      · cases h
      · cases h
        exact .clock
  · exact beyond_of_ofMicros h

theorem beyond_of_ofMillis {n : Int} {f : Fault} (h : ofMillis n = .error f) : Beyond f := by
  unfold ofMillis at h
  split at h
  · cases h
    exact .quotient
  · exact beyond_of_ofSeconds h

theorem beyond_of_inUtc {m : Calendar.Moment} {f : Fault} (h : inUtc m = .error f) : Beyond f := by
  unfold inUtc at h
  split at h
  · cases h
  · cases h
    exact .date

theorem isRefusal_of_ofText {shown : String} {cs : List Char} {f : Fault}
    (h : ofText shown cs = .error f) :
    f.isRefusal = true := by
  unfold ofText at h
  split at h
  · cases h
  · cases h
    rfl

end Timestamp

/-- A value that is no moment is refused, or it is beyond the moments. -/
theorem toTimestamp_eq_error {v : Value} {f : Fault} (h : toTimestamp v = .error f) :
    f.isRefusal = true ∨ Timestamp.Beyond f := by
  -- what is read from a text is brought to UTC
  have hread {shown : String} {cs : List Char}
      (h : (Timestamp.ofText shown cs >>= fun m => (Timestamp.inUtc m).map some) = .error f) :
      f.isRefusal = true ∨ Timestamp.Beyond f := by
    rcases bind_eq_error.1 h with h | ⟨m, -, h⟩
    · exact .inl (Timestamp.isRefusal_of_ofText h)
    · exact .inr (Timestamp.beyond_of_inUtc (map_eq_error.1 h))
  cases v with
  | null => cases h
  | date d => cases h
  | int n => exact .inr (Timestamp.beyond_of_ofMillis (map_eq_error.1 h))
  | float x => exact .inr (Timestamp.beyond_of_ofSeconds (map_eq_error.1 h))
  | moment m => exact .inr (Timestamp.beyond_of_inUtc (map_eq_error.1 h))
  | text s => exact hread h
  | torn t => exact hread h
  | _ =>
    cases h
    exact .inl rfl

/-! ## Filters that JSON is read as -/

/-- The operand of a raw condition is a tree when the condition is. -/
theorem Condition.tree_of_means {raw operand : Value} {o : Operator} (h : Means raw o operand)
    (hraw : Json.Tree raw) : Json.Tree operand := by
  cases h with
  | bare => exact hraw
  | barePattern source => exact .text _ trivial
  | applied _ key => exact hraw.values (key, operand) List.mem_cons_self
  | appliedPattern => exact .text _ trivial

/-- The operands of a filter are trees when the filter is. -/
theorem Condition.tree_of_ofFilter {filter : Value} {cs : List Condition}
    (h : ofFilter filter = .ok cs) (hfilter : Json.Tree filter) :
    ∀ c ∈ cs, Json.Tree c.operand := by
  intro c hc
  unfold ofFilter at h
  split at h
  · split at h
    · obtain ⟨e, he, hread⟩ := exists_of_mem_mapM h hc
      obtain ⟨o, operand, hmeans, rfl⟩ := ofRaw_eq_ok.1 hread
      exact tree_of_means hmeans (hfilter.values e he)
    · cases h
  · cases h
    exact absurd hc List.not_mem_nil

theorem tree_of_mem_memberOperands {v x : Value} (h : Json.Tree v) (hx : x ∈ memberOperands v) :
    Json.Tree x := by
  cases v with
  | list xs => exact h.items x hx
  | tuple xs =>
    cases h with
    | text _ htext => exact absurd htext id
  | set xs =>
    cases h with
    | text _ htext => exact absurd htext id
  | _ =>
    rw [List.mem_singleton.1 hx]
    exact h

/-! ## Conditions -/

theorem isRefusal_of_nameOf {v : Value} {f : Fault} (h : Sql.nameOf v = .error f) :
    f.isRefusal = true := by
  unfold Sql.nameOf at h
  split at h
  · split at h
    · cases h
      rfl
    · split at h
      · cases h
        rfl
      · cases h
  · split at h
    · cases h
      rfl
    · cases h
  · cases h
    rfl

/-- An operand that can be written can fail to be coerced for a timestamp column alone. -/
theorem filterValue_eq_error {s : FieldSchema} {column operand : Value} {f : Fault}
    (hoperand : operand.writable = true) (h : filterValue s column operand = .error f) :
    isNamed timestampFields column = true ∧ toTimestamp operand = .error f := by
  unfold filterValue at h
  split at h
  · next htimestamp => exact ⟨htimestamp, map_eq_error.1 h⟩
  · split at h
    · rw [toDateTimeText_eq, Value.written_of_writable hoperand] at h
      cases h
    · cases h

namespace Condition

/-- The operands of a condition that are coerced for its column. -/
def coerced (c : Condition) : List Value :=
  match c.operator with
  | some .regex => []
  | some .isIn => memberOperands c.operand
  | some .containsAny => memberOperands c.operand
  | _ => [c.operand]

/-- A condition on a tree is refused, or it is one on a timestamp column and an operand of it cannot
be coerced. -/
theorem parameter_eq_error {s : FieldSchema} {c : Condition} {f : Fault} (hc : Json.Tree c.operand)
    (h : c.parameter s = .error f) :
    f.isRefusal = true ∨
      isNamed timestampFields c.field = true ∧ ∃ v ∈ c.coerced, toTimestamp v = .error f := by
  have hmembers
      (h : ((memberOperands c.operand).mapM (filterValue s c.field)).map Value.list = .error f) :
      isNamed timestampFields c.field = true ∧
        ∃ v ∈ memberOperands c.operand, toTimestamp v = .error f := by
    obtain ⟨v, hv, hfault⟩ := exists_of_mapM_eq_error (map_eq_error.1 h)
    obtain ⟨htimestamp, hnone⟩ :=
      filterValue_eq_error (tree_of_mem_memberOperands hc hv).writable hfault
    exact ⟨htimestamp, v, hv, hnone⟩
  have hone (h : filterValue s c.field c.operand = .error f) :
      isNamed timestampFields c.field = true ∧ ∃ v ∈ [c.operand], toTimestamp v = .error f := by
    obtain ⟨htimestamp, hnone⟩ := filterValue_eq_error hc.writable h
    exact ⟨htimestamp, c.operand, List.mem_cons_self, hnone⟩
  rw [parameter, bind_eq_error] at h
  rw [coerced]
  rcases h with h | ⟨_, -, h⟩
  · exact .inl (isRefusal_of_nameOf h)
  cases hoperator : c.operator with
  | none =>
    rw [hoperator] at h
    rcases bind_eq_error.1 h with h | ⟨_, -, h⟩
    · exact .inr (hone h)
    · cases h
      exact .inl rfl
  | some o =>
    rw [hoperator] at h
    cases o with
    | regex =>
      obtain ⟨hnot, -⟩ := Value.written_eq_error.1 h
      rw [hc.writable] at hnot
      cases hnot
    | isIn => exact .inr (hmembers h)
    | containsAny => exact .inr (hmembers h)
    | _ => exact .inr (hone h)

/-- An entry of texts is refused for its keys. -/
theorem isRefusal_of_ofRaw {field raw : Value} {f : Fault} (hfield : field.IsText)
    (hraw : Json.Tree raw) (h : ofRaw field raw = .error f) : f.isRefusal = true := by
  obtain ⟨-, keys, rfl, hrefusal⟩ := ofRaw_eq_error h
  cases hrefusal with
  | unsupported _ => rfl
  | unwritable v hv hnot =>
    have hwritable : v.writable = true := by
      rcases List.mem_append.1 hv with hv | hv
      · obtain ⟨e, he, rfl⟩ := List.mem_map.1 hv
        exact (hraw.keys e he).writable
      · rw [List.mem_singleton.1 hv]
        exact hfield.writable
    rw [hwritable] at hnot
    cases hnot

/-- A filter that is a tree is refused, or it is something other than a mapping and counts as
true. -/
theorem ofFilter_eq_error {filter : Value} {f : Fault} (hfilter : Json.Tree filter)
    (h : ofFilter filter = .error f) :
    f.isRefusal = true ∨ filter.truthy = true ∧ filter.kind ≠ .map ∧
      f = .noMember filter.kind "items" := by
  unfold ofFilter at h
  split at h
  · next htrue =>
    split at h
    · obtain ⟨e, he, hfault⟩ := exists_of_mapM_eq_error h
      exact .inl (isRefusal_of_ofRaw (hfilter.keys e he) (hfilter.values e he) hfault)
    · next hmap =>
      refine .inr ⟨htrue, ?_, ?_⟩
      · intro hkind
        cases filter with
        | map es => exact hmap es rfl
        | _ => cases hkind
      · cases h
        rfl
  · cases h

end Condition

theorem compileConditions_eq_error {s : FieldSchema} {cs : List Condition} {start : Int} {f : Fault}
    (h : compileConditions s cs start = .error f) : ∃ c ∈ cs, c.parameter s = .error f := by
  induction cs generalizing start with
  | nil => cases h
  | cons c cs ih =>
    rw [compileConditions, compileCondition_eq, bind_eq_error] at h
    rcases h with h | ⟨_, -, h⟩
    · exact ⟨c, List.mem_cons_self, map_eq_error.1 h⟩
    · rcases bind_eq_error.1 h with h | ⟨_, -, h⟩
      · obtain ⟨d, hd, hfault⟩ := ih h
        exact ⟨d, List.mem_cons_of_mem c hd, hfault⟩
      · cases h

/-- A WHERE clause fails because one of its conditions does. -/
theorem compileWhere_eq_error {s : FieldSchema} {cs : List Condition} {start : Int} {f : Fault}
    (h : compileWhere s cs start = .error f) : ∃ c ∈ cs, c.parameter s = .error f := by
  rcases bind_eq_error.1 h with h | ⟨compiled, -, h⟩
  · exact compileConditions_eq_error h
  · cases compiled <;> cases h

/-! ## Projections and sorts -/

theorem isRefusal_of_mapM_nameOf {vs : List Value} {f : Fault} (h : vs.mapM Sql.nameOf = .error f) :
    f.isRefusal = true := by
  obtain ⟨v, -, hv⟩ := exists_of_mapM_eq_error h
  exact isRefusal_of_nameOf hv

/-- A projection that is absent or a list is refused for its names only. -/
theorem compileProjection_eq_error {fields : Value}
    (hfields : QueryOptions.IsProjection fields) {f : Fault}
    (h : compileProjection fields = .error f) : f.isRefusal = true := by
  rcases hfields with _ | ⟨xs, -⟩
  · cases h
  · unfold compileProjection at h
    split at h
    · rcases bind_eq_error.1 h with h | ⟨asked, -, h⟩
      · cases h
      · rcases bind_eq_error.1 h with h | ⟨names, -, h⟩
        · exact isRefusal_of_mapM_nameOf h
        · cases h
    · cases h

/-- A sort that is a mapping is refused for its names only. -/
theorem compileOrderBy_eq_error {es : Entries} {f : Fault}
    (h : compileOrderBy (.map es) = .error f) :
    f.isRefusal = true := by
  rcases bind_eq_error.1 h with h | ⟨keys, -, h⟩
  · obtain ⟨e, -, hfault⟩ := exists_of_mapM_eq_error h
    rcases bind_eq_error.1 hfault with h | ⟨name, -, h⟩
    · exact isRefusal_of_nameOf h
    · cases h
  · cases h

/-! ## Finds -/

/-- The faults of a find that are no refusals and do not come from its options: a filter that counts
as true and is no mapping, and an operand of a timestamp column that is beyond the moments. -/
inductive FindFault (filter : Value) : Fault → Prop
  | noItems (htrue : filter.truthy = true) (hkind : filter.kind ≠ .map) :
      FindFault filter (.noMember filter.kind "items")
  | noMoment (cs : List Condition) (hcs : Condition.ofFilter filter = .ok cs) (c : Condition)
      (hc : c ∈ cs) (htimestamp : isNamed timestampFields c.field = true) (operand : Value)
      (hoperand : operand ∈ c.coerced) (f : Fault) (hfault : toTimestamp operand = .error f)
      (hbeyond : Timestamp.Beyond f) : FindFault filter f

/-- A find whose options are read, and whose filter is a tree, is refused, or its fault is of one of
the two kinds. -/
theorem compileFind_eq_error {s : FieldSchema} {collection filter options : Value} {f : Fault}
    (hfilter : Json.Tree filter) (h : compileFind s collection filter (.value options) = .error f) :
    QueryOptions.of (.value options) = .error f ∨ f.isRefusal = true ∨ FindFault filter f := by
  rcases bind_eq_error.1 h with h | ⟨o, ho, h⟩
  · exact .inl h
  have hnormal := QueryOptions.normal_of_read ho
  rcases bind_eq_error.1 h with h | ⟨cs, hcs, h⟩
  · rcases Condition.ofFilter_eq_error hfilter h with h | ⟨htrue, hkind, rfl⟩
    · exact .inr (.inl h)
    · exact .inr (.inr (.noItems htrue hkind))
  rcases bind_eq_error.1 h with h | ⟨_, -, h⟩
  · obtain ⟨c, hc, hfault⟩ := compileWhere_eq_error h
    rcases Condition.parameter_eq_error (Condition.tree_of_ofFilter hcs hfilter c hc) hfault with
      h | ⟨htimestamp, operand, hoperand, hfault⟩
    · exact .inr (.inl h)
    · rcases toTimestamp_eq_error hfault with h | hbeyond
      · exact .inr (.inl h)
      · exact .inr (.inr (.noMoment cs hcs c hc htimestamp operand hoperand f hfault hbeyond))
  rcases bind_eq_error.1 h with h | ⟨_, -, h⟩
  · exact .inr (.inl (compileProjection_eq_error hnormal.fields h))
  rcases bind_eq_error.1 h with h | ⟨_, -, h⟩
  · exact .inr (.inl (isRefusal_of_nameOf h))
  rcases bind_eq_error.1 h with h | ⟨_, -, h⟩
  · obtain ⟨es, hes⟩ : ∃ es, o.sort.orElse (.map (defaultSort cs)) = .map es := by
      rw [Value.orElse]
      split
      · next htrue =>
        refine hnormal.sort.exists_map ?_
        intro hnull
        rw [hnull] at htrue
        cases htrue
      · exact ⟨_, rfl⟩
    rw [hes] at h
    exact .inr (.inl (compileOrderBy_eq_error h))
  · cases h

/-! ## Parameters -/

/-- What a tree is coerced to can be written. -/
theorem writable_of_filterValue {s : FieldSchema} {column operand v : Value}
    (hoperand : Json.Tree operand) (h : filterValue s column operand = .ok v) :
    Json.Writable v := by
  unfold filterValue at h
  split at h
  · obtain ⟨m, -, rfl⟩ := map_eq_ok.1 h
    cases m with
    | none => exact ⟨_, rfl⟩
    | some m => exact ⟨_, rfl⟩
  · split at h
    · obtain ⟨t, -, rfl⟩ := map_eq_ok.1 h
      cases t with
      | none => exact ⟨_, rfl⟩
      | some t => exact .ofText trivial
    · cases h
      exact hoperand.exists_write

theorem writable_of_operandParameter {s : FieldSchema} {column operand v : Value} {o : Operator}
    (hoperand : Json.Tree operand) (h : operandParameter s column operand o = .ok v) :
    Json.Writable v := by
  have hmembers
      (h : ((memberOperands operand).mapM (filterValue s column)).map Value.list = .ok v) :
      Json.Writable v := by
    obtain ⟨vs, hvs, rfl⟩ := map_eq_ok.1 h
    apply Json.Writable.list
    intro w hw
    obtain ⟨x, hx, hfilter⟩ := exists_of_mem_mapM hvs hw
    exact writable_of_filterValue (tree_of_mem_memberOperands hoperand hx) hfilter
  cases o with
  | regex =>
    obtain ⟨-, rfl⟩ := Value.written_eq_ok.1 h
    exact .ofText (Value.isText_ofPoints _)
  | isIn => exact hmembers h
  | containsAny => exact hmembers h
  | _ => exact writable_of_filterValue hoperand h

/-- A count that is read can be written when what it is read from can. -/
theorem writable_of_countOf {name : String} {v count : Value} (hv : v.writable = true)
    (h : QueryOptions.countOf name v = .ok count) : count.writable = true := by
  have hkeep {n : Int} (hn : Text.Numeral.isShort n = true) :
      (QueryOptions.keepNonNegative n).writable = true := by
    unfold QueryOptions.keepNonNegative
    split
    · exact hn
    · rfl
  unfold QueryOptions.countOf at h
  split at h
  · cases h
    rfl
  · cases h
    exact hkeep hv
  · split at h
    · obtain ⟨n, hn, rfl⟩ := map_eq_ok.1 h
      rw [Value.integer, Value.numeral] at hn
      split at hn
      · next hread =>
        cases hn
        exact hkeep (Text.Numeral.isShort_of_readInt hread)
      · cases hn
      · cases hn
    · cases h
  · cases h

theorem writable_of_isCount {v : Value} (h : QueryOptions.IsCount v)
    (hwritable : v.writable = true) :
    ∀ w ∈ presentValue v, Json.Writable w := by
  cases h with
  | absent => exact List.forall_mem_nil _
  | given n hn => exact List.forall_mem_singleton.2 (.ofInt hwritable)

/-- The parameters of a find can be written when its filter is a tree and its counts can be
written. -/
theorem writable_of_compileFind {s : FieldSchema} {collection filter : Value} {options : Entries}
    {st : Statement} (hfilter : Json.Tree filter)
    (hlimit : (Entries.getD options "limit" .null).writable = true)
    (hskip : (Entries.getD options "skip" .null).writable = true)
    (h : compileFind s collection filter (.value (.map options)) = .ok st) :
    ∀ v ∈ st.params, Json.Writable v := by
  obtain ⟨o, ho, h⟩ := bind_eq_ok.1 h
  obtain ⟨cs, vs, columns, es, hcs, hvs, -, -, -, -, -, rfl⟩ := compileFindWith_eq_ok.1 h
  obtain ⟨-, -, hlimitRead, hskipRead, -⟩ := QueryOptions.ofEntries_eq_ok.1 ho
  obtain ⟨hlimitCount, hskipCount, -⟩ := QueryOptions.isCount_of_read ho
  have hoperands : ∀ v ∈ vs, Json.Writable v := by
    intro v hv
    obtain ⟨c, hc, hparameter⟩ := exists_of_mem_mapM hvs hv
    obtain ⟨-, o, -, hoperand⟩ := Condition.parameter_eq_ok.1 hparameter
    exact writable_of_operandParameter (Condition.tree_of_ofFilter hcs hfilter c hc) hoperand
  rw [List.forall_mem_append, List.forall_mem_append]
  exact ⟨⟨hoperands, writable_of_isCount hlimitCount (writable_of_countOf hlimit hlimitRead)⟩,
    writable_of_isCount hskipCount (writable_of_countOf hskip hskipRead)⟩

end DocumentStore
