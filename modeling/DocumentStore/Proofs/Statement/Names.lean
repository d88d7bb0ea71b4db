import DocumentStore.Proofs.Query.Grammar
import DocumentStore.Proofs.Statement.Call
import DocumentStore.Proofs.Statement.Changes
import DocumentStore.Proofs.Statement.FormMapping

/-!
# The names in a statement

Whatever names, fields and values a call is made with, reading the text of its statement ends
outside quoted names, and the names that are read are those that the caller gave: no name is cut
short, runs into another or becomes a part of the text around it. What is left of the text, with
marks for names, is settled by the form of the call and the kinds of its columns.

`Call.names` are the caller's names, taken from the arguments of the call and not from what is
compiled.
-/

set_option autoImplicit false

namespace DocumentStore

open Sql Fallible
open Text (Point)

/-! ## The caller's names -/

/-- The fields of a filter. -/
def filterNames : Value → List (List Point)
  | .map es => Entries.keyPoints es
  | _ => []

/-- The columns of a projection: the identifier, then the others that are asked for. -/
def projectionNames (fields : Value) : List (List Point) :=
  if fields.truthy then
    match fields.items with
    | .ok asked =>
      Text.points idField :: (asked.map Value.points).filter fun name => name ≠ Text.points idField
    | .error _ => []
  else []

/-- The keys of a sort: those that are given, or each field of the filter once, or the column by
which an empty filter sorts. -/
def sortNames (sort : Value) (fields : List (List Point)) : List (List Point) :=
  match sort, fields with
  | .map (e :: es), _ => Entries.keyPoints (e :: es)
  | _, [] => [Text.points defaultSortField]
  | _, name :: rest => (name :: rest).eraseDups

/-- The targets of changes, each twice unless a value is set. -/
def updateNames (cs : List Change) : List (List Point) :=
  (Change.targets cs).flatMap fun name =>
    if (Change.lastSet? cs name).isSome then [name] else [name, name]

/-- The names that a call gives, in the order in which its statement has them. -/
def Call.names (collection : Value) : Call → List (List Point)
  | .find filter options =>
    match QueryOptions.of options with
    | .ok o =>
      projectionNames o.fields ++ collection.points :: filterNames filter ++
        sortNames o.sort (filterNames filter)
    | .error _ => []
  | .count filter => collection.points :: filterNames filter
  | .insert values => collection.points :: filterNames values
  | .update filter change =>
    collection.points :: updateNames (Change.ofUpdate change) ++ filterNames filter
  | .delete filter => collection.points :: filterNames filter

/-- The keys of a sort are never none. -/
theorem sortNames_ne_nil (sort : Value) (fields : List (List Point)) :
    sortNames sort fields ≠ [] := by
  unfold sortNames
  split
  · exact List.cons_ne_nil _ _
  · exact List.cons_ne_nil _ _
  · rw [List.eraseDups_cons]
    exact List.cons_ne_nil _ _

/-! ## The names of a form -/

/-- A condition is on the field that it was read for. -/
theorem Condition.field_of_ofRaw {field raw : Value} {c : Condition}
    (h : Condition.ofRaw field raw = .ok c) : c.field = field := by
  obtain ⟨o, operand, -, rfl⟩ := Condition.ofRaw_eq_ok.1 h
  rfl

/-- The conditions of a filter are on its fields, in its order. -/
theorem map_field_of_ofFilter {filter : Value} {cs : List Condition}
    (h : Condition.ofFilter filter = .ok cs) :
    cs.map (fun c => c.field.points) = filterNames filter := by
  unfold Condition.ofFilter at h
  split at h
  · split at h
    · next es _ =>
      have hfields : cs.map (fun c => c.field.points) = es.map fun e => e.1.points :=
        map_of_mapM (fun e c hc => congrArg Value.points (Condition.field_of_ofRaw hc)) h
      rw [hfields, filterNames, Entries.keyPoints, Entries.keys, List.map_map]
      rfl
    · cases h
  · next hfalse =>
    cases h
    cases filter with
    | map es =>
      cases es with
      | nil => rfl
      | cons e es => exact absurd rfl hfalse
    | _ => rfl

/-- The columns that a projection asks for have the names that it asks for. -/
theorem points_projectedColumns {fields : Value} {columns : List Value}
    (h : projectedColumns fields = .ok columns) (hnames : ∀ c ∈ columns, IsName c) :
    columns.map Value.points = projectionNames fields := by
  -- the identifier is left out by value here and by name there; what stays are names
  have hothers (asked : List Value)
      (hnames : ∀ c ∈ asked.filter (fun f => !f.same (.text idField)), IsName c) :
      (asked.filter fun f => !f.same (.text idField)).map Value.points =
        (asked.map Value.points).filter fun name => name ≠ Text.points idField := by
    induction asked with
    | nil => rfl
    | cons f asked ih =>
      rw [List.filter_cons] at hnames ⊢
      rw [List.map_cons, List.filter_cons]
      cases hsame : f.same (.text idField) with
      | true =>
        -- what is equal to the identifier is the identifier
        rw [hsame] at hnames
        have hpoints : f.points = Text.points idField := by
          rw [Value.eq_of_same_text hsame]
          rfl
        simpa [hpoints] using ih hnames
      | false =>
        rw [hsame] at hnames
        obtain ⟨hf, hrest⟩ := List.forall_mem_cons.1 hnames
        have hpoints : f.points ≠ Text.points idField := by
          intro heq
          have htrue := (Value.same_iff_points_eq hf.isText (b := .text idField) trivial).2 heq
          rw [hsame] at htrue
          cases htrue
        simpa [hpoints] using ih hrest
  unfold projectedColumns at h
  rw [projectionNames]
  split at h
  · next htruthy =>
    obtain ⟨asked, hasked, rfl⟩ := map_eq_ok.1 h
    obtain ⟨-, hrest⟩ := List.forall_mem_cons.1 hnames
    rw [if_pos htruthy, hasked, List.map_cons, hothers asked hrest]
    rfl
  · next hfalse =>
    cases h
    rw [if_neg hfalse]
    rfl

/-- A find sorts by the keys that it is given, or by those that its filter gives. -/
theorem points_sortOf {o : QueryOptions} {cs : List Condition} {es : Entries}
    (h : sortOf o cs = .map es) (hnames : ∀ c ∈ cs, IsName c.field) :
    Entries.keyPoints es = sortNames o.sort (cs.map fun c => c.field.points) := by
  -- without a sort of its own a find sorts by the fields of its filter
  have hdefault (hes : defaultSort cs = es) (v : Value) (hv : ∀ e fs, v ≠ .map (e :: fs)) :
      Entries.keyPoints es = sortNames v (cs.map fun c => c.field.points) := by
    unfold sortNames
    cases cs with
    | nil =>
      subst hes
      split
      · exact absurd rfl (hv _ _)
      · rfl
      · next hcons => cases hcons
    | cons c cs =>
      have hpairs : ∀ p ∈ (c :: cs).map fun c => (c.field, Value.int 1), p.1.IsText := by
        intro p hp
        obtain ⟨d, hd, rfl⟩ := List.mem_map.1 hp
        exact (hnames d hd).isText
      have hkeys := Entries.keyPoints_ofList hpairs
      rw [List.map_map] at hkeys
      subst hes
      split
      · exact absurd rfl (hv _ _)
      · next hnil => cases hnil
      · next hcons =>
        rw [← hcons]
        exact hkeys
  unfold sortOf Value.orElse at h
  split at h
  · next htruthy =>
    rw [h]
    cases es with
    | nil =>
      rw [h] at htruthy
      cases htruthy
    | cons e es => rfl
  · next hfalse =>
    refine hdefault (Value.map.inj h) o.sort ?_
    intro e fs heq
    rw [heq] at hfalse
    exact hfalse rfl

/-- The assignments of an update name the targets of its changes. -/
theorem points_forms_gathered (cs : List Change) :
    ((gathered cs).forms.flatMap fun a =>
      if a.sets then [a.column] else [a.column, a.column]).map Value.points = updateNames cs := by
  rw [Assignments.forms, gathered, List.map_map, List.flatMap_map, List.map_flatMap, updateNames]
  congr 1
  funext name
  show (if (Change.lastSet? cs name).isSome then [Value.ofPoints name]
    else [Value.ofPoints name, Value.ofPoints name]).map Value.points = _
  split
  · simp [Value.points_ofPoints]
  · simp [Value.points_ofPoints]

theorem map_column_form (cs : List Condition) :
    ((cs.map Condition.form).map (·.column)).map Value.points = cs.map fun c => c.field.points := by
  rw [List.map_map, List.map_map]
  rfl

/-- The names of a call's form are those that the caller gave. -/
theorem Call.points_names_form {call : Call} {form : Form Value} {collection : Value}
    (hform : call.form = .ok form) (hnames : ∀ c ∈ form.names collection, IsName c) :
    (form.names collection).map Value.points = call.names collection := by
  cases call with
  | find filter options =>
    obtain ⟨o, ho, h⟩ := bind_eq_ok.1 hform
    obtain ⟨cs, hcs, h⟩ := bind_eq_ok.1 h
    obtain ⟨columns, hcolumns, h⟩ := bind_eq_ok.1 h
    obtain ⟨es, hes, h⟩ := bind_eq_ok.1 h
    cases h
    have hsort : sortOf o cs = .map es := by
      unfold entriesOf at hes
      split at hes
      · next heq =>
        cases hes
        exact heq
      · cases hes
    simp only [Form.names, List.forall_mem_append, List.forall_mem_cons] at hnames
    obtain ⟨⟨hprojected, -, hfields⟩, -⟩ := hnames
    have hfield : ∀ c ∈ cs, IsName c.field := fun c hc =>
      hfields _ (List.mem_map_of_mem (List.mem_map_of_mem hc))
    have hkeys := points_sortOf hsort hfield
    rw [map_field_of_ofFilter hcs] at hkeys
    rw [Call.names, ho]
    simp only [Form.names, List.map_append, List.map_cons,
      points_projectedColumns hcolumns hprojected, map_column_form, map_field_of_ofFilter hcs,
      keys_sortKeys, ← hkeys]
    rfl
  | count filter =>
    obtain ⟨cs, hcs, h⟩ := bind_eq_ok.1 hform
    cases h
    rw [Form.names, List.map_cons, map_column_form, map_field_of_ofFilter hcs]
    rfl
  | insert values =>
    obtain ⟨row, hrow, h⟩ := bind_eq_ok.1 hform
    cases h
    cases values with
    | map es =>
      cases hrow
      rfl
    | _ => cases hrow
  | update filter change =>
    obtain ⟨as, has, h⟩ := bind_eq_ok.1 hform
    obtain ⟨cs, hcs, h⟩ := bind_eq_ok.1 h
    cases h
    rw [Assignments.ofUpdate_eq_gathered has]
    simp only [Form.names, List.map_append, List.map_cons, points_forms_gathered, map_column_form,
      map_field_of_ofFilter hcs]
    rfl
  | delete filter =>
    obtain ⟨cs, hcs, h⟩ := bind_eq_ok.1 hform
    cases h
    rw [Form.names, List.map_cons, map_column_form, map_field_of_ofFilter hcs]
    rfl

/-! ## Reading the names -/

/-- What renders a form has the names of the form, as they were given. -/
theorem Renders.names {s : FieldSchema} {collection : Value} {form : Form Value} {st : Statement}
    (h : Renders s collection form st) :
    Sql.names (tokens (form.sql s.naming (pieceOf collection))) =
      (form.names collection).map Value.points := by
  have hnames := Form.names_sql (n := s.naming) collection form
  rw [show s.naming.piece collection = pieceOf collection from rfl] at hnames
  rw [hnames, s.flatMap_namesOf_naming h.isName]

/-- The text of a statement reads to its end outside quoted names. The names in it are those of the
caller in their order, among them a sort of at least one key when it is a find. With marks for
names, what is left holds no quote and is the text of the call's form over the kinds of its
columns. -/
theorem Call.decoded_names_of_compile {s : FieldSchema} {collection : Value} {call : Call}
    {st : Statement} (h : call.compile s collection = .ok st) :
    ∃ ts form, Sql.read st.points = some ts ∧ Sql.names ts = call.names collection ∧
      (∀ filter options o, call = .find filter options → QueryOptions.of options = .ok o →
        sortNames o.sort (filterNames filter) ≠ []) ∧
      Point.char '"' ∉ residue ts ∧ call.form = .ok form ∧
      residue ts = Sql.points ((form.map s.kindOf).sql .marks mark) := by
  obtain ⟨form, hform, hrenders⟩ := Call.exists_form_of_compile h
  refine ⟨_, form, hrenders.read, ?_, ?_, ?_, hform, ?_⟩
  · rw [hrenders.names, Call.points_names_form hform hrenders.isName]
  · intro filter options o _ _
    exact sortNames_ne_nil o.sort (filterNames filter)
  · exact quote_not_mem_residue (Form.spaced_sql s.tidy_naming (s.tidy_naming collection) form)
  · -- marks for the names of the text are marks for the columns of the form
    rw [residue_tokens]
    congr 1
    exact Form.map_marked_sql s.marked_naming (s.marked_naming collection) form

/-- An update under names that hold quotes, dollar signs and whole clauses: one column is only
incremented, one is set as well, and the identifier is passed over. -/
def quotingUpdate : Call :=
  .update (.map [(.text "a\"b", .int 1)])
    (.map [(.text "$inc", .map [(.text "$1", .int 2), (.text "\"", .int 3)]),
      (.text "set", .map [(.text "_id", .int 4), (.text "\"", .int 5)])])

theorem decoded_names_of_quotingUpdate :
    ∃ st ts, quotingUpdate.compile .empty (.text "t\" SET \"x\" = $1") = .ok st ∧
      Sql.read st.points = some ts ∧
      Sql.names ts = [Text.points "t\" SET \"x\" = $1", Text.points "$1", Text.points "$1",
        Text.points "\"", Text.points "a\"b"] := by
  have hok : (quotingUpdate.compile .empty (.text "t\" SET \"x\" = $1")).toOption.any
      (fun _ => true) = true := by
    decide +kernel
  obtain ⟨st, hst, -⟩ := exists_of_check hok
  obtain ⟨ts, form, hread, hnames, -⟩ := Call.decoded_names_of_compile hst
  refine ⟨st, ts, hst, hread, hnames.trans ?_⟩
  decide +kernel

end DocumentStore
