import DocumentStore.Proofs.Fallible
import DocumentStore.Proofs.TextKeys
import DocumentStore.Query.Write

/-!
# What an update changes

An update document is a list of changes: operators on columns with their operands, in the order of
the document. Of each column an update keeps the last value that is set and everything that is
added, and the columns stay in the order in which they first appear; `gathered` says so without a
run over the document. The run gathers the same: one change keeps it so (`apply_gathered`), hence
all changes of an operator do (`addOperands_gathered`) and all operators of a document
(`addOperators_gathered`).
-/

set_option autoImplicit false

namespace DocumentStore

open Fallible
open Text (Point)

/-! ## Changes -/

/-- A change: an operator on a column with its operand. -/
structure Change where
  operator : UpdateOperator
  column : Value
  operand : Value

/-- Whether updates write a column: not a resolved reference, and not the identifier. -/
def isWritten (column : Value) : Bool :=
  match isReferenceKey column with
  | .ok isReference => !(isReference || column.same (.text idField))
  | .error _ => false

namespace Change

/-- The changes of the operands of an operator. -/
def ofOperands (o : UpdateOperator) (es : Entries) : List Change :=
  (es.filter fun e => isWritten e.1).map fun e => ⟨o, e.1, e.2⟩

/-- The changes of an operator key with its operands. -/
def ofOperator (key operands : Value) : List Change :=
  match UpdateOperator.ofKey key, operands with
  | .ok o, .map es => ofOperands o es
  | _, _ => []

/-- The changes of an update document. -/
def ofUpdate : Value → List Change
  | .map es => es.flatMap fun e => ofOperator e.1 e.2
  | _ => []

/-- Whether a change is of an operator on the column of a name. -/
def isOf (o : UpdateOperator) (name : List Point) (c : Change) : Bool :=
  c.operator = o ∧ c.column.points = name

/-- The names of the changed columns, in order of first appearance. -/
def targets (cs : List Change) : List (List Point) := (cs.map fun c => c.column.points).eraseDups

/-- The value that changes set a column to: the last one. -/
def lastSet? (cs : List Change) (name : List Point) : Option Value :=
  (cs.filter (isOf .set name)).getLast?.map Change.operand

/-- What changes add to a column. -/
def increments (cs : List Change) (name : List Point) : List Value :=
  (cs.filter (isOf .inc name)).map Change.operand

end Change

/-- The assignment that changes make to the column of a name. -/
def assigned (cs : List Change) (name : List Point) : Assignment :=
  ⟨Change.lastSet? cs name, Change.increments cs name⟩

/-- The assignments that changes come to. -/
def gathered (cs : List Change) : Assignments :=
  (Change.targets cs).map fun name => (Value.ofPoints name, assigned cs name)

/-! ## One change -/

/-- A column's assignment is changed in place, or a new one is put to the end. -/
theorem modify_table (change : Assignment → Assignment) {column : Value} (hcolumn : column.IsText)
    (f : List Point → Assignment) {names : List (List Point)} (hnames : names.Nodup) :
    Assignments.modify change column (names.map fun name => (Value.ofPoints name, f name)) =
      if column.points ∈ names then
        names.map fun name =>
          (Value.ofPoints name, if name = column.points then change (f name) else f name)
      else
        (names.map fun name => (Value.ofPoints name, f name)) ++ [(column, change ⟨none, []⟩)] := by
  induction names with
  | nil => rfl
  | cons name names ih =>
    obtain ⟨hfresh, hrest⟩ := List.nodup_cons.1 hnames
    have hsame : (Value.ofPoints name).same column = true ↔ name = column.points := by
      rw [Value.same_iff_points_eq (Value.isText_ofPoints name) hcolumn, Value.points_ofPoints]
    rw [List.map_cons, Assignments.modify]
    by_cases hname : name = column.points
    · -- the column stands here, and under no later name
      have hothers : (names.map fun q => (Value.ofPoints q, f q)) = names.map fun q =>
          (Value.ofPoints q, if q = column.points then change (f q) else f q) := by
        refine List.map_congr_left fun q hq => ?_
        have hne : q ≠ column.points := by
          rintro rfl
          exact hfresh (hname ▸ hq)
        rw [if_neg hne]
      have hmem : column.points ∈ name :: names := List.mem_cons.2 (.inl hname.symm)
      rw [if_pos (hsame.2 hname), if_pos hmem, List.map_cons, if_pos hname, hothers]
    · -- the column stands further on, or nowhere
      have hmem : column.points ∈ name :: names ↔ column.points ∈ names := by
        rw [List.mem_cons, or_iff_right (Ne.symm hname)]
      rw [if_neg (mt hsame.1 hname), ih hrest]
      simp only [hmem]
      split
      · rw [List.map_cons, if_neg hname]
      · rfl

namespace Change

theorem targets_concat (cs : List Change) (c : Change) :
    targets (cs ++ [c]) =
      if c.column.points ∈ targets cs then targets cs else targets cs ++ [c.column.points] := by
  unfold targets
  rw [List.map_append, List.map_singleton, eraseDups_concat]
  simp only [List.mem_eraseDups]

theorem filter_concat (o : UpdateOperator) (name : List Point) (cs : List Change) (c : Change) :
    (cs ++ [c]).filter (isOf o name) =
      cs.filter (isOf o name) ++ if c.isOf o name then [c] else [] := by
  rw [List.filter_append]
  cases h : c.isOf o name <;> simp [h]

/-- No change is of a column that is no target. -/
theorem filter_eq_nil {cs : List Change} {name : List Point} (h : name ∉ targets cs)
    (o : UpdateOperator) : cs.filter (isOf o name) = [] := by
  rw [List.filter_eq_nil_iff]
  intro c hc hof
  have hcolumn : c.column.points = name := (of_decide_eq_true hof).2
  exact h (List.mem_eraseDups.2 (List.mem_map.2 ⟨c, hc, hcolumn⟩))

end Change

/-- What a change makes of the assignment of a column. -/
def Change.applied (c : Change) (a : Assignment) : Assignment :=
  match c.operator with
  | .set => ⟨some c.operand, a.deltas⟩
  | .inc => ⟨a.setValue, a.deltas ++ [c.operand]⟩

theorem assigned_concat (cs : List Change) (c : Change) (name : List Point) :
    assigned (cs ++ [c]) name =
      if name = c.column.points then c.applied (assigned cs name) else assigned cs name := by
  unfold assigned Change.lastSet? Change.increments
  rw [Change.filter_concat, Change.filter_concat]
  by_cases hname : name = c.column.points
  · cases ho : c.operator with
    | set => simp [Change.isOf, Change.applied, ho, hname]
    | inc => simp [Change.isOf, Change.applied, ho, hname]
  · simp [Change.isOf, hname, Ne.symm hname]

/-- One more change keeps what is gathered. -/
theorem apply_gathered {c : Change} (hc : c.column.IsText) (cs : List Change) :
    Assignments.apply c.operator c.column c.operand (gathered cs) = gathered (cs ++ [c]) := by
  have happly (as : Assignments) : Assignments.apply c.operator c.column c.operand as =
      Assignments.modify c.applied c.column as := by
    obtain ⟨o, column, operand⟩ := c
    cases o <;> rfl
  have hnodup : (Change.targets cs).Nodup := nodup_eraseDups _
  rw [happly, gathered, modify_table c.applied hc _ hnodup, gathered, Change.targets_concat]
  by_cases hmem : c.column.points ∈ Change.targets cs
  · -- a column that was changed before keeps its place
    rw [if_pos hmem, if_pos hmem]
    simp only [assigned_concat]
  · -- a new column goes to the end; nothing was set or added before
    rw [if_neg hmem, if_neg hmem, List.map_append, List.map_singleton]
    have hold : ∀ name ∈ Change.targets cs, assigned (cs ++ [c]) name = assigned cs name := by
      intro name hname
      have hne : name ≠ c.column.points := by
        rintro rfl
        exact hmem hname
      rw [assigned_concat, if_neg hne]
    have hfresh : assigned cs c.column.points = ⟨none, []⟩ := by
      simp [assigned, Change.lastSet?, Change.increments, Change.filter_eq_nil hmem]
    rw [assigned_concat, if_pos rfl, hfresh, Value.ofPoints_points hc]
    congr 1
    refine List.map_congr_left fun name hname => ?_
    rw [hold name hname]

/-! ## All changes -/

/-- A key that can be asked for a resolved reference is a text. -/
theorem isText_of_isReferenceKey {column : Value} {b : Bool} (h : isReferenceKey column = .ok b) :
    column.IsText := by
  cases column with
  | text s => trivial
  | torn t => trivial
  | _ => cases h

/-- The operands of an operator are its changes, one after the other. -/
theorem addOperands_gathered {o : UpdateOperator} {es : Entries} {cs : List Change}
    {as : Assignments} (h : Assignments.addOperands o es (gathered cs) = .ok as) :
    as = gathered (cs ++ Change.ofOperands o es) := by
  induction es generalizing cs with
  | nil =>
    cases h
    rw [Change.ofOperands, List.filter_nil, List.map_nil, List.append_nil]
  | cons e es ih =>
    obtain ⟨isReference, hreference, hrest⟩ := bind_eq_ok.1 h
    have hwritten : isWritten e.1 = !(isReference || e.1.same (.text idField)) := by
      rw [isWritten, hreference]
    cases hpassed : isReference || e.1.same (.text idField) with
    | true =>
      -- a reference or the identifier is no change
      rw [hpassed, Bool.not_true] at hwritten
      rw [hpassed, if_pos rfl] at hrest
      have hnone : Change.ofOperands o (e :: es) = Change.ofOperands o es := by
        rw [Change.ofOperands, List.filter_cons, hwritten]
        rfl
      rw [hnone]
      exact ih hrest
    | false =>
      -- any other column is one more change, put to what is gathered
      rw [hpassed, Bool.not_false] at hwritten
      rw [hpassed, if_neg Bool.false_ne_true] at hrest
      have hone : Change.ofOperands o (e :: es) = [⟨o, e.1, e.2⟩] ++ Change.ofOperands o es := by
        rw [Change.ofOperands, List.filter_cons, hwritten]
        rfl
      have htext := isText_of_isReferenceKey hreference
      have hstep := apply_gathered (c := ⟨o, e.1, e.2⟩) htext cs
      rw [hstep] at hrest
      rw [hone, ← List.append_assoc]
      exact ih hrest

/-- The operators of an update are its changes, one after the other. -/
theorem addOperators_gathered {es : Entries} {cs : List Change} {as : Assignments}
    (h : Assignments.addOperators es (gathered cs) = .ok as) :
    as = gathered (cs ++ Change.ofUpdate (.map es)) := by
  induction es generalizing cs with
  | nil =>
    cases h
    rw [Change.ofUpdate, List.flatMap_nil, List.append_nil]
  | cons e es ih =>
    obtain ⟨o, ho, hrest⟩ := bind_eq_ok.1 h
    cases hoperands : e.2 with
    | map fs =>
      rw [hoperands] at hrest
      obtain ⟨next, hnext, hrest⟩ := bind_eq_ok.1 hrest
      rw [addOperands_gathered hnext] at hrest
      have hchanges : Change.ofUpdate (.map (e :: es)) =
          Change.ofOperands o fs ++ Change.ofUpdate (.map es) := by
        have hoperator : Change.ofOperator e.1 e.2 = Change.ofOperands o fs := by
          simp only [Change.ofOperator, ho, hoperands]
        rw [Change.ofUpdate, List.flatMap_cons, hoperator]
        rfl
      rw [hchanges, ← List.append_assoc]
      exact ih hrest
    | _ =>
      rw [hoperands] at hrest
      cases hrest

/-- The assignments of an update document are what its changes come to. -/
theorem Assignments.ofUpdate_eq_gathered {update : Value} {as : Assignments}
    (h : Assignments.ofUpdate update = .ok as) : as = gathered (Change.ofUpdate update) := by
  cases update with
  | map es =>
    have hempty : Assignments.addOperators es (gathered []) = .ok as := h
    exact addOperators_gathered hempty
  | _ => cases h

end DocumentStore
