import DocumentStore.Document
import DocumentStore.Proofs.Fallible
import DocumentStore.Proofs.TextKeys
import DocumentStore.Schema.Table
import DocumentStore.Schema.Validation

/-!
# Valid schemas

A schema that passes its validation has texts for names, which can be written and looked up, and
types that exist (`FieldDefinition.Valid`, `valid_of_ensureValid`). Documents can be mapped to its
columns (`Mapper.ofSchema_of_valid`). A schema that is built from a mapping has every name once
(`FieldSchema.distinct_of_mapping`), so the columns of its table have different names.
-/

set_option autoImplicit false

namespace DocumentStore

open Fallible

open Text (Point)

/-- A field whose name can be written and whose type exists. -/
structure FieldDefinition.Valid (d : FieldDefinition) : Prop where
  name : ∃ n : String, d.name = .text n ∧ n ≠ "" ∧ n.toList.contains '\x00' = false
  type : ∃ t, d.fieldType = some t

/-- A name without problems is a text that is neither empty nor holds a NUL. -/
theorem name_of_nameProblems {name : Value} (h : nameProblems name = .ok []) :
    ∃ n : String, name = .text n ∧ n ≠ "" ∧ n.toList.contains '\x00' = false := by
  unfold nameProblems at h
  split at h
  · cases h
  · next htruthy =>
    -- of what counts as true only a text has no problem: bytes cannot be looked through, others are
    -- no names
    cases name with
    | text n =>
      dsimp only at h
      split at h
      · cases h
      · next hblank =>
        have hproblems := Except.ok.inj h
        rw [List.append_eq_nil_iff] at hproblems
        refine ⟨n, rfl, ?_, ?_⟩
        · rintro rfl
          exact htruthy rfl
        · cases hnul : n.toList.contains '\x00' with
          | false => rfl
          | true =>
            rw [hnul] at hproblems
            exact absurd hproblems.2 (List.cons_ne_nil _ _)
    | bytes b =>
      dsimp only at h
      split at h
      · cases h
      · cases h
    | _ => cases h

theorem valid_of_ensureDefinitions {index : Nat} {ds : List FieldDefinition}
    (h : ensureDefinitions index ds = .ok ()) : ∀ d ∈ ds, d.Valid := by
  induction ds generalizing index with
  | nil => exact fun d hd => absurd hd List.not_mem_nil
  | cons d ds ih =>
    obtain ⟨problems, hproblems, h⟩ := bind_eq_ok.1 h
    cases problems with
    | cons problem problems => cases h
    | nil =>
      cases htype : d.fieldType with
      | none =>
        rw [htype] at h
        cases h
      | some t =>
        rw [htype] at h
        exact List.forall_mem_cons.2 ⟨⟨name_of_nameProblems hproblems, t, htype⟩, ih h⟩

/-- The fields of a schema that passes its validation are valid. -/
theorem valid_of_ensureValid {s : FieldSchema} (h : s.ensureValid = .ok ()) :
    ∀ d ∈ s.fields, d.Valid :=
  valid_of_ensureDefinitions h

/-! ## Mappers -/

/-- A schema whose names can be looked up has a mapper. -/
theorem Mapper.ofSchema_of_hashable {s : FieldSchema}
    (h : ∀ c ∈ jsonColumns s, c.hashable = true) : Mapper.ofSchema s = .ok ⟨s, jsonColumns s⟩ := by
  -- the check goes through the columns and leaves nothing behind
  have hcheck (cs : List Value) (hcs : ∀ c ∈ cs, c.hashable = true) :
      (forIn cs PUnit.unit fun c _ => do
        c.ensureHashable
        pure (ForInStep.yield PUnit.unit) : Except Fault PUnit) = .ok PUnit.unit := by
    induction cs with
    | nil => rfl
    | cons c cs ih =>
      obtain ⟨hc, hcs⟩ := List.forall_mem_cons.1 hcs
      rw [List.forIn_cons, Value.ensureHashable, if_pos hc]
      exact ih hcs
  unfold Mapper.ofSchema
  dsimp only
  rw [hcheck _ h]
  rfl

theorem Mapper.ofSchema_of_valid {s : FieldSchema} (h : ∀ d ∈ s.fields, d.Valid) :
    Mapper.ofSchema s = .ok ⟨s, jsonColumns s⟩ := by
  refine Mapper.ofSchema_of_hashable fun c hc => ?_
  rcases List.mem_cons.1 hc with rfl | hc
  · rfl
  · obtain ⟨d, hd, rfl⟩ := List.mem_map.1 hc
    have hfield := List.mem_of_mem_filter (List.mem_of_mem_filter hd)
    obtain ⟨n, hn, -⟩ := (h d hfield).name
    rw [hn]
    rfl

/-! ## Schemas of mappings -/

/-- A mapping has every key once. -/
def Entries.Distinct (es : Entries) : Prop := (keys es).Pairwise fun a b => a.same b = false

theorem Entries.insert_of_fresh {es : Entries} {key : Value}
    (h : ∀ k ∈ keys es, k.same key = false) (v : Value) : insert es key v = es ++ [(key, v)] := by
  induction es with
  | nil => rfl
  | cons e es ih =>
    obtain ⟨he, hes⟩ := List.forall_mem_cons.1 h
    rw [insert, if_neg (by rw [he]; decide), ih hes]
    rfl

/-- A mapping that is built from entries with different keys has these entries. -/
theorem Entries.ofList_of_distinct {es : Entries} (h : Entries.Distinct es) : ofList es = es := by
  -- what is built so far is followed by the entries to come, all keys being different
  have hrun (done rest : Entries) (h : Entries.Distinct (done ++ rest)) :
      rest.foldl (fun es p => insert es p.1 p.2) done = done ++ rest := by
    induction rest generalizing done with
    | nil => exact (List.append_nil done).symm
    | cons e rest ih =>
      have hfresh : ∀ k ∈ keys done, k.same e.1 = false := by
        rw [Distinct, keys, List.map_append] at h
        exact fun k hk => (List.pairwise_append.1 h).2.2 k hk e.1 List.mem_cons_self
      rw [List.foldl_cons, insert_of_fresh hfresh, ih _ (by rwa [List.append_assoc]),
        List.append_assoc]
      rfl
  exact hrun [] es h

/-- A schema with every name once. -/
def FieldSchema.Distinct (s : FieldSchema) : Prop := s.names.Pairwise fun a b => a.same b = false

/-- What gives a schema is a mapping, also inside a collection file, or a schema that came from one,
or nothing. -/
def SchemaSource.FromMapping : SchemaSource → Prop
  | .value .null => True
  | .value (.map es) => Entries.Distinct es ∧
      ∀ fields, Entries.getText? es "fields" = some (.map fields) → Entries.Distinct fields
  | .value _ => False
  | .built s => s.Distinct

theorem names_of_definitions {es : Entries} {ds : List FieldDefinition}
    (h : es.mapM (fun e => definitionOf e.1 e.2) = .ok ds) :
    ds.map (·.name) = Entries.keys es := by
  refine map_of_mapM (fun e d hd => ?_) h
  obtain ⟨attributes, -, rfl⟩ := map_eq_ok.1 hd
  rfl

/-- A schema that is built from a mapping has every name once. -/
theorem FieldSchema.distinct_of_mapping {source : SchemaSource} {s : FieldSchema}
    (hsource : source.FromMapping) (h : FieldSchema.of source = .ok s) : s.Distinct := by
  -- definitions have the names of the entries that they come from
  have hentries {es : Entries} (hes : Entries.Distinct es)
      (h : (es.mapM (fun e : Value × Value => definitionOf e.1 e.2) >>= fun ds =>
        (.ok ⟨ds⟩ : Except Fault FieldSchema)) = .ok s) : s.Distinct := by
    obtain ⟨ds, hds, h⟩ := bind_eq_ok.1 h
    cases h
    show (List.map _ ds).Pairwise _
    rw [names_of_definitions hds]
    exact hes
  cases source with
  | built s' =>
    cases h
    exact hsource
  | value v =>
    cases v with
    | null =>
      cases h
      exact List.Pairwise.nil
    | map es =>
      obtain ⟨hes, hfields⟩ := hsource
      obtain ⟨v, hv, h⟩ := bind_eq_ok.1 h
      unfold unwrapFields at hv
      dsimp only at hv
      -- the mapping of a collection file holds the fields in another one
      split at hv
      · next fields hget =>
        cases hv
        exact hentries (hfields fields hget) h
      · cases hv
        exact hentries hes h
    | _ => exact absurd hsource id

/-- A schema of fields with types. -/
def schemaOf (fields : List (String × String)) : SchemaSource :=
  .value (.map (fields.map fun f => (.text f.1, .map [(.text "type", .text f.2)])))

/-- A schema of different fields comes from a mapping. -/
theorem fromMapping_schemaOf {fields : List (String × String)} (h : (fields.map (·.1)).Nodup)
    (hfields : "fields" ∉ fields.map (·.1)) : (schemaOf fields).FromMapping := by
  have hkeys : Entries.keys (fields.map fun f =>
      (Value.text f.1, Value.map [(.text "type", .text f.2)])) =
      (fields.map (·.1)).map Value.text := by
    rw [Entries.keys, List.map_map, List.map_map]
    rfl
  constructor
  · rw [Entries.Distinct, hkeys, List.pairwise_map]
    refine h.imp fun hne => ?_
    rw [Value.same_text]
    simpa using hne
  · intro inner hget
    -- no field is called as the mapping that a collection file holds
    obtain ⟨e, he, -⟩ := Option.map_eq_some_iff.1 hget
    obtain ⟨f, hf, rfl⟩ := List.mem_map.1 (List.mem_of_find?_eq_some he)
    have hsame := List.find?_some he
    rw [Value.same_text, beq_iff_eq] at hsame
    exact absurd (List.mem_map.2 ⟨f, hf, hsame⟩) hfields

/-! ## The columns of a valid schema -/

section Columns

variable {s : FieldSchema} (hdistinct : s.Distinct) (hvalid : ∀ d ∈ s.fields, d.Valid)

include hvalid in
theorem FieldSchema.valid_of_mem_userFields : ∀ d ∈ s.userFields, d.Valid :=
  fun d hd => hvalid d (List.mem_of_mem_filter hd)

theorem FieldDefinition.Valid.isText {d : FieldDefinition} (h : d.Valid) : d.name.IsText := by
  obtain ⟨n, hn, -⟩ := h.name
  rw [hn]
  trivial

include hdistinct hvalid in
/-- The declared fields other than the reserved ones have different names. -/
theorem FieldSchema.nodup_userFields : (s.userFields.map fun d => d.name.points).Nodup := by
  have hfields : (s.fields.map fun d => d.name.points).Nodup := by
    rw [List.Nodup, List.pairwise_map]
    refine (List.pairwise_map.1 hdistinct).imp_of_mem fun ha hb hne heq => ?_
    rw [(Value.same_iff_points_eq (hvalid _ ha).isText (hvalid _ hb).isText).2 heq] at hne
    cases hne
  exact hfields.sublist (List.filter_sublist.map _)

/-- A name that is not reserved is none of the bookkeeping columns. -/
theorem points_ne_of_not_internal {name : Value} {c : String × String}
    (hname : isInternal name = false) (htext : name.IsText) (hc : c ∈ systemColumns) :
    name.points ≠ Text.points c.1 := by
  have hreserved : ∀ c ∈ systemColumns, internalFields.contains c.1 = true := by decide
  intro h
  have heq : name = .text c.1 := by
    rw [← Value.ofPoints_points htext, h]
    exact Value.ofPoints_points (v := .text c.1) trivial
  rw [heq] at hname
  exact absurd (hreserved c hc)
    (by rw [show internalFields.contains c.1 = false from hname]; decide)

include hdistinct hvalid in
/-- The columns of a table that is created from a schema have different names. -/
theorem FieldSchema.nodup_created :
    (systemColumns.map (fun c => Text.points c.1) ++
      s.userFields.map fun d => d.name.points).Nodup := by
  have hsystem : (systemColumns.map fun c => Text.points c.1).Nodup := by decide
  refine List.nodup_append.2 ⟨hsystem, FieldSchema.nodup_userFields hdistinct hvalid, ?_⟩
  intro p hp q hq heq
  obtain ⟨c, hc, rfl⟩ := List.mem_map.1 hp
  obtain ⟨d, hd, rfl⟩ := List.mem_map.1 hq
  obtain ⟨hfield, hinternal⟩ := List.mem_filter.1 hd
  exact points_ne_of_not_internal (by simpa using hinternal) (hvalid d hfield).isText hc heq.symm

end Columns

end DocumentStore
