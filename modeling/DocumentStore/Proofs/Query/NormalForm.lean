import DocumentStore.Page
import DocumentStore.Proofs.Query.Counts
import DocumentStore.Proofs.TextKeys
import DocumentStore.Session.Store

/-!
# Normal options

Options have many spellings: counts as texts, one name, a mapping or a tuple for a list of names,
negative counts and empty parts for absent ones. Reading leaves one spelling. What is read is normal
(`QueryOptions.normal_of_read`): each part is absent, or it is a mapping with keys, a list with
names or a count that is not negative. The mapping of options is read as those options exactly when
they are normal (`QueryOptions.normal_iff_read_back`), so reading once more changes nothing.
Whatever takes options reads them first and looks at nothing else, so options cannot be told from
those that they are read as, nor from the mapping of these (`options_have_normal_form`).
-/

set_option autoImplicit false

namespace DocumentStore

open Fallible

/-! ## Mappings without their absent entries -/

namespace Entries

theorem getD_cons (e : Value × Value) (es : Entries) (name : String) (default : Value) :
    getD (e :: es) name default = if e.1.same (.text name) then e.2 else getD es name default := by
  rw [getD, getText?, get?, List.find?_cons]
  cases e.1.same (.text name) with
  | true => rfl
  | false => rfl

/-- A key that is not there has the default for its value. -/
theorem getD_of_not_mem {es : Entries} {name : String} (h : .text name ∉ keys es)
    (default : Value) :
    getD es name default = default := by
  cases hfound : getText? es name with
  | none => rw [getD, hfound, Option.getD_none]
  | some v =>
    obtain ⟨e, he, hsame, -⟩ := exists_of_get? hfound
    have hkey : e.1 = .text name := Value.eq_of_same_text hsame
    exact absurd (hkey ▸ List.mem_map_of_mem he) h

/-- Where null stands for absent, entries that are null can be left out. -/
theorem getD_present {es : Entries} (h : (keys es).Nodup) (name : String) :
    getD (es.filter fun e => !e.2.isNull) name .null = getD es name .null := by
  induction es with
  | nil => rfl
  | cons e es ih =>
    obtain ⟨hfirst, hrest⟩ := List.nodup_cons.1 h
    have ih := ih hrest
    obtain ⟨key, v⟩ := e
    cases v with
    | null =>
      -- the entry goes, and its key does not come again behind it
      have hdropped : ((key, Value.null) :: es).filter (fun e => !e.2.isNull) =
          es.filter fun e => !e.2.isNull := rfl
      rw [hdropped, ih, getD_cons]
      split
      · next hsame =>
        obtain rfl := Value.eq_of_same_text hsame
        exact getD_of_not_mem hfirst .null
      · rfl
    | _ =>
      rw [List.filter_cons_of_pos rfl, getD_cons, getD_cons, ih]

end Entries

namespace QueryOptions

/-! ## Normal parts -/

/-- A sort of normal options: absent, or a mapping with at least one key. -/
inductive IsSort : Value → Prop
  | absent : IsSort .null
  | given (es : Entries) (h : es ≠ []) : IsSort (.map es)

theorem IsSort.exists_map {v : Value} (h : IsSort v) (hpresent : v ≠ .null) :
    ∃ es, v = .map es := by
  cases h with
  | absent => exact absurd rfl hpresent
  | given es hes => exact ⟨es, rfl⟩

/-- A projection of normal options: absent, or a list with at least one name. -/
inductive IsProjection : Value → Prop
  | absent : IsProjection .null
  | given (xs : List Value) (h : xs ≠ []) : IsProjection (.list xs)

theorem isSort_of_sortOf {v sort : Value} (h : sortOf v = .ok sort) : IsSort sort := by
  unfold sortOf at h
  split at h
  · cases h
    exact .absent
  · cases h
    exact .absent
  · next es hes =>
    cases h
    exact .given es hes
  · cases h

theorem isProjection_of_fieldsOf {v fields : Value} (h : fieldsOf v = .ok fields) :
    IsProjection fields := by
  unfold fieldsOf at h
  split at h
  · next htrue =>
    have hmap {α : Type} {xs : List α} (f : α → Value) (hxs : (!xs.isEmpty) = true) :
        xs.map f ≠ [] := by
      cases xs with
      | nil => cases hxs
      | cons x xs => exact List.cons_ne_nil _ _
    split at h
    · cases h
      exact .given _ (List.cons_ne_nil _ _)
    · cases h
      exact .given _ (List.cons_ne_nil _ _)
    · cases h
      exact .given _ (hmap Prod.fst htrue)
    · cases h
      exact .given _ (by simpa [Value.truthy] using htrue)
    · cases h
      exact .given _ (by simpa [Value.truthy] using htrue)
    · cases h
      exact .given _ (hmap _ htrue)
    · cases h
  · cases h
    exact .absent

/-- A sort is read as itself when it is normal. -/
theorem sortOf_eq_self {v : Value} : sortOf v = .ok v ↔ IsSort v := by
  constructor
  · exact isSort_of_sortOf
  · rintro (_ | ⟨es, hes⟩)
    · rfl
    · obtain ⟨e, rest, rfl⟩ := List.exists_cons_of_ne_nil hes
      rfl

/-- A projection is read as itself when it is normal. -/
theorem fieldsOf_eq_self {v : Value} : fieldsOf v = .ok v ↔ IsProjection v := by
  constructor
  · exact isProjection_of_fieldsOf
  · rintro (_ | ⟨xs, hxs⟩)
    · rfl
    · obtain ⟨x, rest, rfl⟩ := List.exists_cons_of_ne_nil hxs
      rfl

/-- A count is read as itself when it is normal. -/
theorem countOf_eq_self {name : String} {v : Value} : countOf name v = .ok v ↔ IsCount v := by
  constructor
  · intro h
    exact (isCount_of_countOf h).1
  · rintro (_ | ⟨n, hn⟩)
    · rfl
    · exact congrArg Except.ok (if_pos hn)

/-! ## Normal options -/

/-- Options in normal form. -/
structure Normal (o : QueryOptions) : Prop where
  sort : IsSort o.sort
  fields : IsProjection o.fields
  limit : IsCount o.limit
  skip : IsCount o.skip
  page : IsCount o.page

/-- Options that are read are normal. -/
theorem normal_of_read {options : Value} {o : QueryOptions} (h : of (.value options) = .ok o) :
    o.Normal := by
  obtain ⟨hlimit, hskip, hpage⟩ := isCount_of_read h
  cases options with
  | null =>
    cases h
    exact ⟨.absent, .absent, hlimit, hskip, hpage⟩
  | map es =>
    obtain ⟨hsort, hfields, -⟩ := ofEntries_eq_ok.1 h
    exact ⟨isSort_of_sortOf hsort, isProjection_of_fieldsOf hfields, hlimit, hskip, hpage⟩
  | _ => cases h

/-- The options with their names, absent ones among them. -/
def named (o : QueryOptions) : Entries :=
  [(.text "sort", o.sort), (.text "fields", o.fields), (.text "limit", o.limit),
    (.text "skip", o.skip), (.text "page", o.page)]

/-- The mapping of options holds each of them under its name. -/
theorem getD_toEntries (o : QueryOptions) (name : String) :
    Entries.getD o.toEntries name .null = Entries.getD o.named name .null := by
  have hnodup : (Entries.keys o.named).Nodup := by simp [Entries.keys, named]
  exact Entries.getD_present hnodup name

/-- The mapping of options is read as those options exactly when they are normal. -/
theorem normal_iff_read_back {o : QueryOptions} :
    o.Normal ↔ of (.value (.map o.toEntries)) = .ok o := by
  constructor
  · intro h
    refine ofEntries_eq_ok.2 ?_
    simp only [getD_toEntries, named, Entries.getD_cons, Value.same_text]
    exact ⟨sortOf_eq_self.2 h.sort, fieldsOf_eq_self.2 h.fields, countOf_eq_self.2 h.limit,
      countOf_eq_self.2 h.skip, countOf_eq_self.2 h.page⟩
  · exact normal_of_read

end QueryOptions

/-! ## What takes options -/

/-- Options that nothing tells apart. A find compiles to the same statement with both or fails
alike, the same page is described, and a store does the same in every session: its requests, its log
entries and its results agree. -/
structure OptionsSource.Indistinguishable (a b : OptionsSource) : Prop where
  compile : ∀ (s : FieldSchema) (collection filter : Value),
    compileFind s collection filter a = compileFind s collection filter b
  describe : ∀ (count defaultLimit : Value) (pageSize : Except Fault Int),
    Page.metadata a count defaultLimit pageSize = Page.metadata b count defaultLimit pageSize
  find : ∀ (σ ω τ : Type) (s : Session σ ω τ) (filter collection : Value) (source : SchemaSource),
    s.find filter collection a source = s.find filter collection b source
  metadata : ∀ (σ ω τ : Type) (s : Session σ ω τ) (count : Value),
    s.metadataOf a count = s.metadataOf b count

/-- Options are taken for what they are read as. -/
theorem OptionsSource.Indistinguishable.of_read_eq {a b : OptionsSource}
    (h : QueryOptions.of a = QueryOptions.of b) :
    a.Indistinguishable b where
  compile _ _ _ := by rw [compileFind, compileFind, h]
  describe _ _ _ := by rw [Page.metadata, Page.metadata, h]
  find _ _ _ _ _ _ _ := by rw [Session.find, Session.find, h]
  metadata _ _ _ _ _ := by rw [Session.metadataOf, Session.metadataOf, h]

/-- Options that are read have a normal form, which is read as itself whether it is given as it is
or as a mapping, and which nothing tells from the options as they were given. -/
theorem options_have_normal_form {options : Value} {o : QueryOptions}
    (h : QueryOptions.of (.value options) = .ok o) :
    o.Normal ∧ QueryOptions.of (.value (.map o.toEntries)) = .ok o ∧
      QueryOptions.of (.built o) = .ok o ∧
      OptionsSource.Indistinguishable (.built o) (.value options) ∧
      OptionsSource.Indistinguishable (.value (.map o.toEntries)) (.value options) := by
  have hnormal := QueryOptions.normal_of_read h
  have hback := QueryOptions.normal_iff_read_back.1 hnormal
  have hbuilt : QueryOptions.of (.built o) = .ok o := rfl
  exact ⟨hnormal, hback, hbuilt, .of_read_eq (hbuilt.trans h.symm),
    .of_read_eq (hback.trans h.symm)⟩

/-- Options with a mapping for their fields, counts in texts and a skip that is ignored. -/
def looselySpelled : Value :=
  .map [(.text "fields", .map [(.text "title", .int 1), (.text "_id", .int 0)]),
    (.text "skip", .int (-3)), (.text "limit", .text " 020 "), (.text "page", .text "-0"),
    (.text "sort", .map [(.text "b", .int (-1)), (.text "a", .text "up")])]

/-- The same options in normal form. -/
def plainlySpelled : QueryOptions :=
  ⟨.map [(.text "b", .int (-1)), (.text "a", .text "up")], .list [.text "title", .text "_id"],
    .int 20, .null, .int 0⟩

theorem normal_form_of_looselySpelled :
    QueryOptions.of (.value looselySpelled) = .ok plainlySpelled ∧ plainlySpelled.Normal ∧
      QueryOptions.of
        (.value
        (.map [(.text "sort", plainlySpelled.sort), (.text "fields", plainlySpelled.fields),
        (.text "limit", .int 20), (.text "page", .int 0)])) = .ok plainlySpelled ∧
      compileFind .empty (.text "books") .null (.built plainlySpelled) =
        compileFind .empty (.text "books") .null (.value looselySpelled) := by
  have hread : QueryOptions.of (.value looselySpelled) = .ok plainlySpelled := by
    with_unfolding_all rfl
  obtain ⟨hnormal, hback, -, hsame, -⟩ := options_have_normal_form hread
  exact ⟨hread, hnormal, hback, hsame.compile .empty (.text "books") .null⟩

end DocumentStore
