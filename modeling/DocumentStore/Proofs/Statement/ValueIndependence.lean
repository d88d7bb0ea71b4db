import DocumentStore.Proofs.Statement.Call
import DocumentStore.Proofs.Statement.Changes

/-!
# Values never reach the text

Two calls are alike when they differ in values at most: in operands, in values that are inserted,
set or added, in the limit and the rows to skip. Alike calls have the same form, so their statements
have the same text and as many parameters as each other (`Call.Alike.points_eq_of_compile`). What
reads values on the way (members of lists, patterns, moments and JSON, the merging of values that
are set and added) has only the parameters to write to.
-/

set_option autoImplicit false

namespace DocumentStore

open Sql Fallible
open Text (Point)

/-! ## Alike calls -/

/-- What a condition is apart from its operand. -/
def Condition.shape (c : Condition) : Value × Option Operator := (c.field, c.operator)

/-- Filters with conditions of the same operators on the same fields, in the same order. -/
def AlikeFilters (filter filter' : Value) : Prop :=
  ∃ cs cs', Condition.ofFilter filter = .ok cs ∧ Condition.ofFilter filter' = .ok cs' ∧
    cs.map Condition.shape = cs'.map Condition.shape

/-- Options with the same sort and projection, and a limit and rows to skip or none in both. -/
def AlikeOptions (options options' : OptionsSource) : Prop :=
  ∃ o o', QueryOptions.of options = .ok o ∧ QueryOptions.of options' = .ok o' ∧ o.sort = o'.sort ∧
    o.fields = o'.fields ∧ o.limit.isNull = o'.limit.isNull ∧ o.skip.isNull = o'.skip.isNull

/-- Mappings with the same keys in the same order. -/
def AlikeMappings (v v' : Value) : Prop :=
  ∃ es es', v = .map es ∧ v' = .map es' ∧ Entries.keys es = Entries.keys es'

/-- Update documents with the same operator keys on the same targets, in the same order. -/
def AlikeUpdates (change change' : Value) : Prop :=
  ∃ es es', change = .map es ∧ change' = .map es' ∧
    List.Forall₂ (fun e e' => e.1 = e'.1 ∧ AlikeMappings e.2 e'.2) es es'

/-- Calls of one operation that differ in values at most. -/
inductive Call.Alike : Call → Call → Prop where
  | find {filter filter' : Value} {options options' : OptionsSource} :
      AlikeFilters filter filter' → AlikeOptions options options' →
      Alike (.find filter options) (.find filter' options')
  | count {filter filter' : Value} :
      AlikeFilters filter filter' → Alike (.count filter) (.count filter')
  | insert {values values' : Value} :
      AlikeMappings values values' → Alike (.insert values) (.insert values')
  | update {filter filter' change change' : Value} :
      AlikeFilters filter filter' → AlikeUpdates change change' →
      Alike (.update filter change) (.update filter' change')
  | delete {filter filter' : Value} :
      AlikeFilters filter filter' → Alike (.delete filter) (.delete filter')

/-! ## Conditions and sorts -/

theorem map_form_of_shape {cs cs' : List Condition}
    (h : cs.map Condition.shape = cs'.map Condition.shape) :
    cs.map Condition.form = cs'.map Condition.form := by
  have hform (cs : List Condition) : cs.map Condition.form =
      (cs.map Condition.shape).map fun p => ⟨p.1, p.2.getD .eq⟩ := by
    rw [List.map_map]
    rfl
  rw [hform, hform, h]

/-- The sort that a filter gives depends on its fields only. -/
theorem defaultSort_of_shape {cs cs' : List Condition}
    (h : cs.map Condition.shape = cs'.map Condition.shape) : defaultSort cs = defaultSort cs' := by
  have hpairs (cs : List Condition) : (cs.map fun c => (c.field, Value.int 1)) =
      (cs.map Condition.shape).map fun p => (p.1, Value.int 1) := by
    rw [List.map_map]
    rfl
  cases cs with
  | nil =>
    cases cs' with
    | nil => rfl
    | cons c' cs' => cases h
  | cons c cs =>
    cases cs' with
    | nil => cases h
    | cons c' cs' =>
      show Entries.ofList ((c :: cs).map fun c => (c.field, Value.int 1)) =
        Entries.ofList ((c' :: cs').map fun c => (c.field, Value.int 1))
      rw [hpairs, hpairs, h]

/-! ## Changes -/

/-- What a change is apart from its operand. -/
def Change.shape (c : Change) : UpdateOperator × Value := (c.operator, c.column)

/-- How many changes of an operator a column has does not depend on their operands. -/
theorem Change.length_filter_of_shape {cs cs' : List Change}
    (h : cs.map Change.shape = cs'.map Change.shape) (o : UpdateOperator) (name : List Point) :
    (cs.filter (isOf o name)).length = (cs'.filter (isOf o name)).length := by
  have hshape (cs : List Change) : (cs.filter (isOf o name)).length =
      ((cs.map Change.shape).filter fun p => p.1 = o ∧ p.2.points = name).length := by
    rw [List.filter_map, List.length_map]
    rfl
  rw [hshape, hshape, h]

theorem Change.targets_of_shape {cs cs' : List Change}
    (h : cs.map Change.shape = cs'.map Change.shape) : targets cs = targets cs' := by
  have hshape (cs : List Change) : (cs.map fun c => c.column.points) =
      (cs.map Change.shape).map fun p => p.2.points := by
    rw [List.map_map]
    rfl
  rw [targets, targets, hshape, hshape, h]

/-- A value is set when there is a change that sets one, whatever it sets. -/
theorem Change.isSome_lastSet? (cs : List Change) (name : List Point) :
    (lastSet? cs name).isSome = !((cs.filter (isOf .set name)).length == 0) := by
  unfold lastSet?
  cases h : cs.filter (isOf .set name) with
  | nil => rfl
  | cons c rest =>
    rw [Option.isSome_map, List.getLast?_cons]
    rfl

/-- The forms of the assignments that changes come to do not depend on their operands. -/
theorem forms_gathered_of_shape {cs cs' : List Change}
    (h : cs.map Change.shape = cs'.map Change.shape) :
    (gathered cs).forms = (gathered cs').forms := by
  have hforms (cs : List Change) : (gathered cs).forms = (Change.targets cs).map fun name =>
      ⟨Value.ofPoints name, !((cs.filter (Change.isOf .set name)).length == 0),
        (cs.filter (Change.isOf .inc name)).length⟩ := by
    rw [gathered, Assignments.forms, List.map_map]
    refine List.map_congr_left fun name _ => ?_
    show AssignmentForm.mk _ (Change.lastSet? cs name).isSome (Change.increments cs name).length = _
    rw [Change.isSome_lastSet?, Change.increments, List.length_map]
  rw [hforms, hforms, Change.targets_of_shape h]
  simp only [Change.length_filter_of_shape h]

/-- Alike update documents make changes that differ in operands at most. -/
theorem AlikeUpdates.map_shape_ofUpdate {change change' : Value} (h : AlikeUpdates change change') :
    (Change.ofUpdate change).map Change.shape = (Change.ofUpdate change').map Change.shape := by
  obtain ⟨es, es', rfl, rfl, h⟩ := h
  have hoperands (o : UpdateOperator) (fs : Entries) : (Change.ofOperands o fs).map Change.shape =
      ((Entries.keys fs).filter isWritten).map fun column => (o, column) := by
    rw [Change.ofOperands, Entries.keys, List.filter_map, List.map_map, List.map_map]
    rfl
  show (es.flatMap fun e => Change.ofOperator e.1 e.2).map Change.shape =
    (es'.flatMap fun e => Change.ofOperator e.1 e.2).map Change.shape
  induction h with
  | nil => rfl
  | @cons e e' es es' hentry _ ih =>
    obtain ⟨hkey, fs, fs', hfs, hfs', hkeys⟩ := hentry
    -- the operator of both keys is the same, and so are the columns that it writes
    have hoperator : (Change.ofOperator e.1 e.2).map Change.shape =
        (Change.ofOperator e'.1 e'.2).map Change.shape := by
      rw [hkey, hfs, hfs']
      unfold Change.ofOperator
      cases UpdateOperator.ofKey e'.1 with
      | error fault => rfl
      | ok o =>
        show (Change.ofOperands o fs).map Change.shape = (Change.ofOperands o fs').map Change.shape
        rw [hoperands, hoperands, hkeys]
    rw [List.flatMap_cons, List.flatMap_cons, List.map_append, List.map_append, hoperator, ih]

/-! ## Forms -/

theorem AlikeFilters.map_shape {filter filter' : Value} (h : AlikeFilters filter filter')
    {cs cs' : List Condition} (hcs : Condition.ofFilter filter = .ok cs)
    (hcs' : Condition.ofFilter filter' = .ok cs') :
    cs.map Condition.shape = cs'.map Condition.shape := by
  obtain ⟨ds, ds', hds, hds', hshape⟩ := h
  obtain rfl := result_unique hcs hds
  obtain rfl := result_unique hcs' hds'
  exact hshape

/-- Alike calls have the same form. -/
theorem Call.Alike.form_eq {call call' : Call} (h : call.Alike call') {form form' : Form Value}
    (hform : call.form = .ok form) (hform' : call'.form = .ok form') : form = form' := by
  cases h with
  | find hfilters hoptions =>
    obtain ⟨o, o', ho, ho', hsort, hfields, hlimit, hskip⟩ := hoptions
    obtain ⟨_, ho₁, hform⟩ := bind_eq_ok.1 hform
    obtain ⟨cs, hcs, hform⟩ := bind_eq_ok.1 hform
    obtain ⟨columns, hcolumns, hform⟩ := bind_eq_ok.1 hform
    obtain ⟨order, horder, hform⟩ := bind_eq_ok.1 hform
    obtain ⟨_, ho₁', hform'⟩ := bind_eq_ok.1 hform'
    obtain ⟨cs', hcs', hform'⟩ := bind_eq_ok.1 hform'
    obtain ⟨columns', hcolumns', hform'⟩ := bind_eq_ok.1 hform'
    obtain ⟨order', horder', hform'⟩ := bind_eq_ok.1 hform'
    -- both runs read the options of the relation, and from there on agree in what is no value
    obtain rfl := result_unique ho ho₁
    obtain rfl := result_unique ho' ho₁'
    have hshape := hfilters.map_shape hcs hcs'
    rw [hfields] at hcolumns
    rw [sortOf, hsort, defaultSort_of_shape hshape] at horder
    obtain rfl := result_unique hcolumns hcolumns'
    obtain rfl := result_unique horder horder'
    cases hform
    cases hform'
    rw [map_form_of_shape hshape, hlimit, hskip]
  | count hfilters =>
    obtain ⟨cs, hcs, hform⟩ := bind_eq_ok.1 hform
    obtain ⟨cs', hcs', hform'⟩ := bind_eq_ok.1 hform'
    cases hform
    cases hform'
    rw [map_form_of_shape (hfilters.map_shape hcs hcs')]
  | insert hrows =>
    obtain ⟨row, row', rfl, rfl, hkeys⟩ := hrows
    cases hform
    cases hform'
    rw [hkeys]
  | update hfilters hupdates =>
    obtain ⟨as, has, hform⟩ := bind_eq_ok.1 hform
    obtain ⟨cs, hcs, hform⟩ := bind_eq_ok.1 hform
    obtain ⟨as', has', hform'⟩ := bind_eq_ok.1 hform'
    obtain ⟨cs', hcs', hform'⟩ := bind_eq_ok.1 hform'
    have hforms : as.forms = as'.forms := by
      rw [Assignments.ofUpdate_eq_gathered has, Assignments.ofUpdate_eq_gathered has']
      exact forms_gathered_of_shape hupdates.map_shape_ofUpdate
    cases hform
    cases hform'
    rw [map_form_of_shape (hfilters.map_shape hcs hcs'), hforms]
  | delete hfilters =>
    obtain ⟨cs, hcs, hform⟩ := bind_eq_ok.1 hform
    obtain ⟨cs', hcs', hform'⟩ := bind_eq_ok.1 hform'
    cases hform
    cases hform'
    rw [map_form_of_shape (hfilters.map_shape hcs hcs')]

/-- Two alike calls that both compile on a collection have the same text and as many parameters. -/
theorem Call.Alike.points_eq_of_compile {s : FieldSchema} {collection : Value} {call call' : Call}
    {st st' : Statement} (h : call.Alike call') (hst : call.compile s collection = .ok st)
    (hst' : call'.compile s collection = .ok st') :
    st.points = st'.points ∧ st.params.length = st'.params.length := by
  obtain ⟨form, hform, hrenders⟩ := Call.exists_form_of_compile hst
  obtain ⟨form', hform', hrenders'⟩ := Call.exists_form_of_compile hst'
  obtain rfl := h.form_eq hform hform'
  constructor
  · rw [Statement.points, Statement.points, hrenders.sql, hrenders'.sql]
  · rw [hrenders.arity, hrenders'.arity]

/-- A find of rows with one of some tags, up to a limit. -/
def taggedFind (tags limit : Value) : Call :=
  .find (.map [(.text "tag", .map [(.text "$in", tags)])])
    (.built ⟨.null, .null, limit, .null, .null⟩)

theorem points_eq_of_taggedFind :
    ∃ st st', (taggedFind (.text "\" OR $9 --") (.int 7)).compile .empty (.text "t") = .ok st ∧
      (taggedFind (.list [.null, .regex "$1", .map []]) (.int 12)).compile .empty (.text "t") =
        .ok st' ∧
      st.points = st'.points ∧ st.params.length = st'.params.length := by
  have hok : ((taggedFind (.text "\" OR $9 --") (.int 7)).compile .empty (.text "t")).toOption.any
      (fun _ => true) = true := by decide +kernel
  have hok' : ((taggedFind (.list [.null, .regex "$1", .map []]) (.int 12)).compile .empty
      (.text "t")).toOption.any (fun _ => true) = true := by decide +kernel
  obtain ⟨st, hst, -⟩ := exists_of_check hok
  obtain ⟨st', hst', -⟩ := exists_of_check hok'
  refine ⟨st, st', hst, hst', Call.Alike.points_eq_of_compile (.find ?_ ?_) hst hst'⟩
  · exact ⟨_, _, rfl, rfl, rfl⟩
  · exact ⟨_, _, rfl, rfl, rfl, rfl, rfl, rfl⟩

end DocumentStore
