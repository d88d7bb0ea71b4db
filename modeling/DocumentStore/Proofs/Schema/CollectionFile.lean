import DocumentStore.Proofs.Fallible
import DocumentStore.Proofs.TextKeys
import DocumentStore.Schema.Field

/-!
# Collection files

A mapping of fields may be given as it is, or inside a collection file, which holds it under
`fields`. Inside a file it is read as what it says, whatever its fields are called: one definition
for each entry, in order (`FieldDefinition.DeclaredBy`). Given as it is it is read the same, unless
one of its fields is called `fields`: it is then taken for a file, and the attributes of that field
for the mapping of fields (`fields_of_collection_file`).
-/

set_option autoImplicit false

namespace DocumentStore

open Fallible

/-! ## What a mapping of fields says -/

/-- A definition that an entry of a mapping of fields declares: it has the name, the type that the
attributes give, and it is required when they say so. -/
structure FieldDefinition.DeclaredBy (d : FieldDefinition) (name : Value) (attributes : Entries) :
    Prop where
  name_eq : d.name = name
  type_eq : ∀ v, Entries.getText? attributes "type" = some v → d.type = v
  type_absent : Entries.getText? attributes "type" = none → d.type = .text ""
  required_iff : d.required = true ↔
    ∃ v, Entries.getText? attributes "required" = some v ∧ v.truthy = true

/-- A mapping from fields to their attributes, which are mappings. -/
def Entries.OfFields (es : Entries) : Prop := ∀ e ∈ es, ∃ attributes, e.2 = .map attributes

/-- A schema has one definition for each entry of a mapping of fields, in order. -/
def FieldSchema.DeclaredBy (s : FieldSchema) (es : Entries) : Prop :=
  List.Forall₂
    (fun e d => ∃ attributes, e.2 = .map attributes ∧ d.DeclaredBy e.1 attributes) es s.fields

/-- The names of a schema are those of the fields that it declares. -/
theorem FieldSchema.DeclaredBy.names_eq {s : FieldSchema} {es : Entries} (h : s.DeclaredBy es) :
    s.names = Entries.keys es := by
  unfold FieldSchema.DeclaredBy at h
  rw [FieldSchema.names]
  generalize s.fields = ds at h ⊢
  induction h with
  | nil => rfl
  | cons hfirst _ ih =>
    obtain ⟨attributes, -, hdeclared⟩ := hfirst
    rw [List.map_cons, hdeclared.name_eq, ih]
    rfl

/-! ## Reading it -/

/-- Attributes that are a mapping are read, an empty one as no attributes. -/
theorem attributesOf_map (attributes : Entries) :
    attributesOf (.map attributes) = .ok attributes := by
  cases attributes with
  | nil => rfl
  | cons e es => rfl

/-- A field with attributes has the definition that they declare. -/
theorem exists_definitionOf (name : Value) (attributes : Entries) :
    ∃ d, definitionOf name (.map attributes) = .ok d ∧ d.DeclaredBy name attributes := by
  rw [definitionOf, attributesOf_map]
  refine ⟨_, rfl, rfl, fun v hv => ?_, fun hnone => ?_, ?_⟩
  · show Entries.getD attributes "type" (.text "") = v
    rw [Entries.getD, hv, Option.getD_some]
  · show Entries.getD attributes "type" (.text "") = .text ""
    rw [Entries.getD, hnone, Option.getD_none]
  · show (Entries.getD attributes "required" (.bool false)).truthy = true ↔ _
    rw [Entries.getD]
    cases Entries.getText? attributes "required" with
    | none => exact ⟨fun h => absurd h Bool.false_ne_true, fun ⟨v, hv, _⟩ => nomatch hv⟩
    | some v => exact ⟨fun h => ⟨v, rfl, h⟩, fun ⟨v', hv', h⟩ => Option.some.inj hv' ▸ h⟩

/-- The entries of a mapping of fields have definitions, those that they declare. -/
theorem exists_definitions {es : Entries} (h : es.OfFields) :
    ∃ ds, es.mapM (fun e => definitionOf e.1 e.2) = .ok ds ∧ FieldSchema.DeclaredBy ⟨ds⟩ es := by
  induction es with
  | nil => exact ⟨[], rfl, .nil⟩
  | cons e es ih =>
    obtain ⟨⟨attributes, hattributes⟩, hes⟩ := List.forall_mem_cons.1 h
    obtain ⟨d, hd, hdeclared⟩ := exists_definitionOf e.1 attributes
    obtain ⟨ds, hds, hdeclares⟩ := ih hes
    rw [← hattributes] at hd
    exact ⟨d :: ds, mapM_cons_eq_ok.2 ⟨d, ds, hd, hds, rfl⟩,
      .cons ⟨attributes, hattributes, hdeclared⟩ hdeclares⟩

/-- A mapping that is not taken for a file is read entry by entry. -/
theorem FieldSchema.of_bare {es : Entries}
    (h : ∀ fields, Entries.getText? es "fields" ≠ some (.map fields)) :
    FieldSchema.of (.value (.map es)) =
      (es.mapM fun e => definitionOf e.1 e.2) >>= fun ds => .ok ⟨ds⟩ := by
  have hunwrapped : unwrapFields (.map es) = .ok (.map es) := by
    rw [unwrapFields]
    split
    · next fields hfields => exact absurd hfields (h fields)
    · rfl
  show unwrapFields (.map es) >>= _ = _
  rw [hunwrapped]
  rfl

/-- A mapping that holds a mapping under `fields` is taken for a file, and only what it holds there
counts. -/
theorem FieldSchema.of_file {es fields : Entries}
    (h : Entries.getText? es "fields" = some (.map fields)) :
    FieldSchema.of (.value (.map es)) =
      (fields.mapM fun e => definitionOf e.1 e.2) >>= fun ds => .ok ⟨ds⟩ := by
  have hunwrapped : unwrapFields (.map es) = .ok (.map fields) := by
    rw [unwrapFields, h]
  show unwrapFields (.map es) >>= _ = _
  rw [hunwrapped]
  rfl

/-- A collection file that holds a mapping of fields. -/
def collectionFile (es : Entries) : SchemaSource := .value (.map [(.text "fields", .map es)])

theorem FieldSchema.of_collectionFile (es : Entries) :
    FieldSchema.of (collectionFile es) =
      (es.mapM fun e => definitionOf e.1 e.2) >>= fun ds => .ok ⟨ds⟩ := by
  refine of_file ?_
  rw [Entries.getText?, Entries.get?, List.find?_cons, Value.same_text, beq_self_eq_true]
  rfl

/-- Inside a collection file a mapping of fields is always read as what it declares. Given as it is
it gives the same schema when none of its fields is called `fields`; otherwise the attributes of
that field are read in its place, as if they were the mapping of fields of a file. A schema that is
built already stays as it is. -/
theorem fields_of_collection_file {es : Entries} (hfields : es.OfFields) :
    (∃ s, FieldSchema.of (collectionFile es) = .ok s ∧ s.DeclaredBy es ∧
      ((∀ e ∈ es, e.1 ≠ .text "fields") → FieldSchema.of (.value (.map es)) = .ok s)) ∧
    (∀ e ∈ es, e.1 = .text "fields" →
      ∃ attributes, Entries.getText? es "fields" = some (.map attributes) ∧
      FieldSchema.of (.value (.map es)) = FieldSchema.of (collectionFile attributes)) ∧
    ∀ s, FieldSchema.of (.built s) = .ok s := by
  refine ⟨?_, fun e he hname => ?_, fun s => rfl⟩
  · obtain ⟨ds, hds, hdeclares⟩ := exists_definitions hfields
    refine ⟨⟨ds⟩, ?_, hdeclares, fun hnames => ?_⟩
    · rw [FieldSchema.of_collectionFile, hds]
      rfl
    · rw [FieldSchema.of_bare fun fields hget => ?_, hds]
      · rfl
      · -- what is found under the name is the entry of a field that is called so
        obtain ⟨e, he, hsame, -⟩ := Entries.exists_of_get? hget
        exact hnames e he (Value.eq_of_same_text hsame)
  · -- the name is found, perhaps in an earlier entry, and what it has there is a mapping
    have hsome : (es.find? fun e => e.1.same (.text "fields")).isSome = true := by
      rw [List.find?_isSome]
      exact ⟨e, he, by rw [hname, Value.same_text, beq_self_eq_true]⟩
    obtain ⟨found, hfound⟩ := Option.isSome_iff_exists.1 hsome
    obtain ⟨attributes, hattributes⟩ := hfields found (List.mem_of_find?_eq_some hfound)
    have hget : Entries.getText? es "fields" = some (.map attributes) := by
      rw [Entries.getText?, Entries.get?, hfound, Option.map_some, hattributes]
    exact ⟨attributes, hget, by rw [FieldSchema.of_file hget, FieldSchema.of_collectionFile]⟩

/-- Fields with types, one of them called as the mapping that a collection file holds. -/
def libraryFields : Entries :=
  [(.text "title", .map [(.text "type", .text "String"), (.text "required", .int 1)]),
   (.text "fields", .map [(.text "type", .text "Mixed")])]

theorem fields_of_libraryFields :
    libraryFields.OfFields ∧
      (∃ s, FieldSchema.of (collectionFile libraryFields) = .ok s ∧
        s.names = [.text "title", .text "fields"]) ∧
      FieldSchema.of (.value (.map libraryFields)) =
        FieldSchema.of (collectionFile [(.text "type", .text "Mixed")]) ∧
      FieldSchema.of (.value (.map (libraryFields.take 1))) =
        FieldSchema.of (collectionFile (libraryFields.take 1)) := by
  have hfields : libraryFields.OfFields := by
    intro e he
    rcases List.mem_cons.1 he with rfl | he
    · exact ⟨_, rfl⟩
    · rw [List.mem_singleton.1 he]
      exact ⟨_, rfl⟩
  have htitle : Entries.OfFields (libraryFields.take 1) :=
    fun e he => hfields e (List.mem_of_mem_take he)
  obtain ⟨⟨s, hs, hdeclares, -⟩, htaken, -⟩ := fields_of_collection_file hfields
  obtain ⟨attributes, hget, hbare⟩ :=
    htaken (.text "fields", _) (List.mem_cons_of_mem _ List.mem_cons_self) rfl
  obtain ⟨⟨s', hs', -, hsame⟩, -, -⟩ := fields_of_collection_file htitle
  refine ⟨hfields, ⟨s, hs, hdeclares.names_eq⟩, ?_, ?_⟩
  · have hfound : Entries.getText? libraryFields "fields" =
        some (.map [(.text "type", .text "Mixed")]) := by
      with_unfolding_all rfl
    cases hget.symm.trans hfound
    exact hbare
  · -- its only field has another name
    rw [hs']
    refine hsame fun e he hname => ?_
    rw [List.mem_singleton.1 he] at hname
    exact absurd (Value.text.inj hname) (by decide)

/-- A mapping with a field that is called `fields` may be refused, though a collection file that
holds it is read. -/
theorem field_called_fields_taken_for_file :
    FieldSchema.of (.value (.map [(.text "fields", .map [(.text "type", .text "String")])])) =
        .error (.noMember .text "get") ∧
      FieldSchema.of (collectionFile [(.text "fields", .map [(.text "type", .text "String")])]) =
        .ok ⟨[⟨.text "fields", .text "String", false⟩]⟩ := by
  constructor
  · with_unfolding_all rfl
  · with_unfolding_all rfl

end DocumentStore
