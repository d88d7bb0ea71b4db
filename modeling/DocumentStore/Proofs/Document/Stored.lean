import DocumentStore.Proofs.Fallible
import DocumentStore.Proofs.Schema.Valid
import DocumentStore.Proofs.Writing
import DocumentStore.Row

/-!
# What is stored of a document

An entry of a document has a column when its key is a bookkeeping field other than the identifier,
or declared and not null; references have none (`Mapper.hasColumn`). The row of a document is what
is stored of these entries, in their order, with the identifier behind them (`Mapper.rowOf_eq_ok`).
-/

set_option autoImplicit false

namespace DocumentStore

open Fallible

namespace Mapper

/-- Whether a key holds a resolved reference. -/
def isReference (key : Value) : Bool :=
  match isReferenceKey key with
  | .ok b => b
  | .error _ => false

/-- Whether an entry of a document has a column beside that of the identifier. -/
def hasColumn (s : FieldSchema) (e : Value × Value) : Bool :=
  !e.1.same (.text idField) && !isReference e.1 &&
    (isInternal e.1 || (s.contains e.1 && !e.2.isNull))

/-- The entries of a document that have a column. -/
def columnEntries (s : FieldSchema) (es : Entries) : Entries := es.filter (hasColumn s)

/-- What is stored of an entry: bookkeeping values are coerced, others are kept. -/
def stored (e : Value × Value) : Except Fault (Value × Value) :=
  (if isInternal e.1 then coerceInternal e.1 e.2 else .ok e.2).map fun v => (e.1, v)

/-- Sorting an entry adds what is stored of it, when it has a column. -/
theorem sortEntry_eq_ok {m : Mapper} {key v : Value} {acc acc' : Sorted}
    (h : m.sortEntry key v acc = .ok acc') :
    ∃ es, (columnEntries m.schema [(key, v)]).mapM stored = .ok es ∧
      acc'.values = acc.values ++ es := by
  -- an entry is dropped when it has no column, and stored when it has one
  have hdropped (hnone : hasColumn m.schema (key, v) = false) (hacc : acc'.values = acc.values) :
      ∃ es, (columnEntries m.schema [(key, v)]).mapM stored = .ok es ∧
        acc'.values = acc.values ++ es := by
    rw [columnEntries, List.filter_singleton, hnone, hacc]
    exact ⟨[], rfl, (List.append_nil _).symm⟩
  have hkept {x : Value} (hcolumn : hasColumn m.schema (key, v) = true)
      (hx : stored (key, v) = .ok (key, x)) (hacc : acc'.values = acc.values ++ [(key, x)]) :
      ∃ es, (columnEntries m.schema [(key, v)]).mapM stored = .ok es ∧
        acc'.values = acc.values ++ es := by
    rw [columnEntries, List.filter_singleton, hcolumn]
    exact ⟨[(key, x)], mapM_cons_eq_ok.2 ⟨(key, x), [], hx, rfl, rfl⟩, hacc⟩
  unfold sortEntry at h
  split at h
  · next hid =>
    cases h
    exact hdropped (by simp [hasColumn, hid]) rfl
  · next hid =>
    obtain ⟨b, hreference, h⟩ := bind_eq_ok.1 h
    cases b with
    | true =>
      rw [if_pos rfl] at h
      cases h
      exact hdropped (by simp [hasColumn, isReference, hreference]) rfl
    | false =>
      rw [if_neg Bool.false_ne_true] at h
      split at h
      · next hinternal =>
        obtain ⟨x, hx, h⟩ := bind_eq_ok.1 h
        cases h
        refine hkept (by simp [hasColumn, isReference, hreference, hid, hinternal]) ?_ rfl
        rw [stored, if_pos hinternal, hx]
        rfl
      · next hinternal =>
        split at h
        · next hdeclared =>
          cases hnull : v.isNull with
          | true =>
            rw [hnull] at h
            cases h
            exact hdropped (by simp [hasColumn, hinternal, hnull]) rfl
          | false =>
            rw [hnull] at h
            cases h
            refine hkept
              (by simp [hasColumn, isReference, hreference, hid, hdeclared, hnull]) ?_ rfl
            rw [stored, if_neg hinternal]
            rfl
        · next hdeclared =>
          cases h
          exact hdropped (by simp [hasColumn, hinternal, hdeclared]) rfl

/-- Sorting a document gathers what is stored of its entries, in their order. -/
theorem sortEntries_eq_ok {m : Mapper} {es : Entries} {acc sorted : Sorted}
    (h : m.sortEntries es acc = .ok sorted) :
    ∃ vs, (columnEntries m.schema es).mapM stored = .ok vs ∧ sorted.values = acc.values ++ vs := by
  induction es generalizing acc with
  | nil =>
    cases h
    exact ⟨[], rfl, (List.append_nil _).symm⟩
  | cons e es ih =>
    obtain ⟨next, hnext, h⟩ := bind_eq_ok.1 h
    obtain ⟨first, hfirst, hvalues⟩ := sortEntry_eq_ok hnext
    obtain ⟨rest, hrest, hsorted⟩ := ih h
    refine ⟨first ++ rest, ?_, by rw [hsorted, hvalues, List.append_assoc]⟩
    have hsplit : columnEntries m.schema (e :: es) =
        columnEntries m.schema [e] ++ columnEntries m.schema es :=
      List.filter_append (p := hasColumn m.schema) [e] es
    rw [hsplit, List.mapM_append, hfirst, hrest]
    rfl

/-- The identifier that the row of a document gets. -/
def rowId (identifier : Nat → Uuid) (es : Entries) (j : Journal) : Value :=
  match givenId es with
  | .ok (some id) => id
  | _ => .text (String.ofList (j.draw identifier).1.text)

/-- The row of a document is what is stored of its entries that have a column, with the identifier
last. -/
theorem rowOf_eq_ok {identifier : Nat → Uuid} {m : Mapper} {es : Entries} {j : Journal}
    {row : Entries} (h : (m.rowOf identifier (.map es) j).1 = .ok row) :
    ∃ vs, (columnEntries m.schema es).mapM stored = .ok vs ∧
      row = vs ++ [(.text idField, rowId identifier es j)] := by
  rw [rowOf, sortDocument] at h
  cases hsorted : m.sortEntries es ⟨[], []⟩ with
  | error fault =>
    rw [hsorted] at h
    cases h
  | ok sorted =>
    rw [hsorted] at h
    obtain ⟨vs, hvs, hvalues⟩ := sortEntries_eq_ok hsorted
    have hdrawn : (reportIgnored sorted.ignored j).drawn = j.drawn := by
      unfold reportIgnored
      split <;> rfl
    have hid {id : Value}
        (h : (identify identifier es (reportIgnored sorted.ignored j)).1 = .ok id) :
        id = rowId identifier es j := by
      rw [identify] at h
      rw [rowId]
      cases hgiven : givenId es with
      | error fault =>
        rw [hgiven] at h
        cases h
      | ok given =>
        rw [hgiven] at h
        cases given with
        | some given => exact (Except.ok.inj h).symm
        | none =>
          have hdraw := (Except.ok.inj h).symm
          rw [hdraw]
          show Value.text (String.ofList (identifier (_ + 1)).text) =
            Value.text (String.ofList (identifier (_ + 1)).text)
          rw [hdrawn]
    obtain ⟨id, hidentify, hrow⟩ := map_eq_ok.1 h
    refine ⟨vs, hvs, ?_⟩
    rw [← hrow, ← hid hidentify, hvalues]
    rfl

/-- The keys of what is stored are those of the entries. -/
theorem keys_of_stored {es vs : Entries} (h : es.mapM stored = .ok vs) :
    Entries.keys vs = Entries.keys es := by
  refine map_of_mapM (fun e e' he => ?_) h
  obtain ⟨v, -, rfl⟩ := map_eq_ok.1 he
  rfl

/-! ## Columns -/

end Mapper

/-- Different texts for keys have different code points. -/
theorem Entries.nodup_keyPoints {es : Entries} (htexts : ∀ k ∈ Entries.keys es, k.IsText)
    (hdistinct : Entries.Distinct es) : (Entries.keyPoints es).Nodup := by
  rw [Entries.keyPoints, List.Nodup, List.pairwise_map]
  refine hdistinct.imp_of_mem fun ha hb hne heq => ?_
  rw [(Value.same_iff_points_eq (htexts _ ha) (htexts _ hb)).2 heq] at hne
  cases hne

namespace Mapper

/-- The columns of a document's row, without that of the identifier. -/
def columnsOf (s : FieldSchema) (es : Entries) : List Value := Entries.keys (columnEntries s es)

theorem columnsOf_sublist (s : FieldSchema) (es : Entries) :
    (columnsOf s es).Sublist (Entries.keys es) :=
  List.filter_sublist.map _

/-- The columns of a row have different names when the keys of the document are different texts. -/
theorem nodup_columnsOf (s : FieldSchema) {es : Entries} (htexts : ∀ k ∈ Entries.keys es, k.IsText)
    (hdistinct : Entries.Distinct es) :
    ((columnsOf s es).map Value.points ++ [Text.points idField]).Nodup := by
  have hkeys := Entries.nodup_keyPoints htexts hdistinct
  refine List.nodup_append.2 ⟨hkeys.sublist ((columnsOf_sublist s es).map _),
    List.nodup_singleton _, ?_⟩
  rintro p hp q hq rfl
  obtain ⟨k, hk, hpoints⟩ := List.mem_map.1 hp
  obtain ⟨e, he, rfl⟩ := List.mem_map.1 hk
  obtain ⟨hmem, hcolumn⟩ := List.mem_filter.1 he
  rw [List.mem_singleton.1 hq] at hpoints
  -- the identifier is no column of its own among them
  have hsame : e.1.same (.text idField) = true :=
    (Value.same_iff_points_eq (b := .text idField) (htexts _ (List.mem_map_of_mem hmem)) trivial).2
      hpoints
  simp [hasColumn, hsame] at hcolumn

/-- An entry of a document has its key among the columns when it has a column. -/
theorem mem_columnsOf_iff (s : FieldSchema) {es : Entries}
    (htexts : ∀ k ∈ Entries.keys es, k.IsText) (hdistinct : Entries.Distinct es) {e : Value × Value}
    (he : e ∈ es) :
    e.1.points ∈ (columnsOf s es).map Value.points ↔ hasColumn s e = true := by
  constructor
  · intro h
    obtain ⟨k, hk, hpoints⟩ := List.mem_map.1 h
    obtain ⟨e', he', rfl⟩ := List.mem_map.1 hk
    obtain ⟨hmem, hcolumn⟩ := List.mem_filter.1 he'
    -- different entries have different keys
    have hnodup : (es.map fun e => e.1.points).Nodup := by
      have h := Entries.nodup_keyPoints htexts hdistinct
      rwa [Entries.keyPoints, Entries.keys, List.map_map] at h
    have heq : e' = e := List.inj_on_of_nodup_map hnodup hmem he hpoints
    exact heq ▸ hcolumn
  · intro h
    exact List.mem_map_of_mem (List.mem_map_of_mem (List.mem_filter.2 ⟨he, h⟩))

end Mapper

end DocumentStore
