import DocumentStore.Proofs.Statement.Form

/-!
# Reading the text of a form

The text of every form reads back, since nothing in it runs into what stands behind it
(`Form.spaced_sql`). Its placeholders are numbered from one without a gap (`Form.numbers_sql`), and
its names are those of the form in their order (`Form.names_sql`).
-/

set_option autoImplicit false

namespace DocumentStore

open Sql

/-! ## Texts of forms read back -/

/-- A piece that may stand for a column: a name, or fixed text without quotes and dollar signs. -/
def Tidy : Piece → Prop
  | .fixed text => Plain text
  | .placeholder _ => False
  | _ => True

theorem spaced_cons_of_tidy {p : Piece} (hp : Tidy p) {rest : Sql} (h : Spaced rest)
    (hbounded : Bounded (points rest)) : Spaced (p :: rest) := by
  cases p with
  | fixed text => exact ⟨hp, h⟩
  | placeholder i => exact absurd hp id
  | _ => exact ⟨hbounded, h⟩

theorem numbers_of_tidy {p : Piece} (hp : Tidy p) : numbers (pieceTokens p) = [] := by
  cases p with
  | fixed text => exact numbers_fixed text
  | placeholder i => exact absurd hp id
  | _ => rfl

/-- Fixed text before spaced pieces. -/
theorem spaced_fixed {text : String} (h : Plain text) {rest : Sql} (hrest : Spaced rest) :
    Spaced (.fixed text :: rest) := ⟨h, hrest⟩

theorem spaced_castOne (k : ColumnKind) : Spaced k.castOne := by
  cases k with
  | dateTime => exact ⟨by decide, trivial⟩
  | _ => trivial

theorem bounded_castOne (k : ColumnKind) : Bounded (points k.castOne) := by
  cases k with
  | dateTime => exact bounded_fixed (by decide) []
  | _ => exact bounded_nil

theorem spaced_castMany (k : ColumnKind) : Spaced k.castMany := by
  cases k with
  | plain => trivial
  | _ => exact ⟨by decide, trivial⟩

theorem bounded_castMany (k : ColumnKind) : Bounded (points k.castMany) := by
  cases k with
  | plain => exact bounded_nil
  | _ => exact bounded_fixed (by decide) []

theorem plain_lead (o : Operator) : Plain o.lead := by
  cases o <;> decide

theorem opens_lead (o : Operator) : opens o.lead = true := by
  cases o <;> decide

/-- What stands behind an operand is spaced and does not run into it. -/
theorem spaced_trail (k : ColumnKind) (o : Operator) :
    Spaced (o.trail k) ∧ Bounded (points (o.trail k)) := by
  have hmember : Spaced (k.castMany ++ [.fixed ")"]) ∧
      Bounded (points (k.castMany ++ [.fixed ")"])) := by
    constructor
    · exact spaced_append (spaced_castMany k) ⟨by decide, trivial⟩ (bounded_fixed (by decide) [])
    · exact bounded_points_append (bounded_castMany k) (bounded_fixed (by decide) [])
  cases o with
  | isIn => exact hmember
  | containsAny => exact hmember
  | regex => exact ⟨trivial, bounded_nil⟩
  | _ => exact ⟨spaced_castOne k, bounded_castOne k⟩

section Reading

variable {ν : Type} {n : Naming ν}

theorem spaced_condition (hn : ∀ c, Tidy (n.piece c)) (c : ConditionForm ν) (i : Int) :
    Spaced (c.sql n i) := by
  obtain ⟨htrail, hbounded⟩ := spaced_trail (n.kind c.column) c.operator
  have hoperand : Spaced (.placeholder i :: c.operator.trail (n.kind c.column)) :=
    ⟨hbounded, htrail⟩
  have hlead := spaced_fixed (plain_lead c.operator) hoperand
  exact spaced_cons_of_tidy (hn c.column) hlead (bounded_fixed (opens_lead c.operator) _)

theorem spaced_numbered {α : Type} {arity : α → Nat} {sql : α → Int → Sql}
    (h : ∀ a i, Spaced (sql a i)) (as : List α) (i : Int) :
    ∀ q ∈ numbered arity sql as i, Spaced q := by
  induction as generalizing i with
  | nil =>
    intro q hq
    exact absurd hq List.not_mem_nil
  | cons a as ih =>
    intro q hq
    rcases List.mem_cons.1 hq with rfl | hq
    · exact h a i
    · exact ih _ q hq

theorem spaced_where (hn : ∀ c, Tidy (n.piece c)) (cs : List (ConditionForm ν)) (start : Int) :
    Spaced (whereSql n cs start) := by
  cases cs with
  | nil => trivial
  | cons c cs =>
    refine spaced_fixed (by decide) ?_
    exact spaced_join (by decide) (by decide) _ (spaced_numbered (spaced_condition hn) _ _)

theorem bounded_where (cs : List (ConditionForm ν)) (start : Int) :
    Bounded (points (whereSql n cs start)) := by
  cases cs with
  | nil => exact bounded_nil
  | cons c cs => exact bounded_fixed (by decide) _

theorem spaced_value (column : ν) (i : Int) : Spaced (valueSql n column i) :=
  ⟨bounded_castOne _, spaced_castOne _⟩

theorem spaced_increments (k : Nat) (i : Int) :
    Spaced (incrementsSql k i) ∧ Bounded (points (incrementsSql k i)) := by
  induction k generalizing i with
  | zero => exact ⟨trivial, bounded_nil⟩
  | succ k ih =>
    obtain ⟨hrest, hbounded⟩ := ih (i + 1)
    exact ⟨⟨by decide, hbounded, hrest⟩, bounded_fixed (by decide) _⟩

theorem spaced_set (column : ν) (i : Int) : Spaced (setSql n column i) := by
  rw [setSql]
  cases n.kind column with
  | timestamp => exact ⟨by decide, bounded_fixed (by decide) [], by decide, trivial⟩
  | dateTime => exact ⟨bounded_castOne _, spaced_castOne _⟩
  | plain => exact ⟨bounded_castOne _, spaced_castOne _⟩

theorem spaced_assignment (hn : ∀ c, Tidy (n.piece c)) (a : AssignmentForm ν) (i : Int) :
    Spaced (a.sql n i) := by
  have hvalue : Spaced (if a.sets then setSql n a.column i ++ incrementsSql a.increments (i + 1)
      else n.piece a.column :: incrementsSql a.increments i) := by
    split
    · obtain ⟨hrest, hbounded⟩ := spaced_increments a.increments (i + 1)
      exact spaced_append (spaced_set a.column i) hrest hbounded
    · obtain ⟨hrest, hbounded⟩ := spaced_increments a.increments i
      exact spaced_cons_of_tidy (hn a.column) hrest hbounded
  exact spaced_cons_of_tidy (hn a.column) (spaced_fixed (by decide) hvalue)
    (bounded_fixed (by decide) _)

theorem spaced_columns (hn : ∀ c, Tidy (n.piece c)) (columns : List ν) :
    Spaced (join ", " (columns.map fun c => [n.piece c])) := by
  refine spaced_join (by decide) (by decide) _ ?_
  intro q hq
  obtain ⟨c, -, rfl⟩ := List.mem_map.1 hq
  exact spaced_cons_of_tidy (hn c) trivial bounded_nil

theorem spaced_projection (hn : ∀ c, Tidy (n.piece c)) (columns : List ν) :
    Spaced (projectionSql n columns) := by
  cases columns with
  | nil => exact ⟨by decide, trivial⟩
  | cons c columns => exact spaced_columns hn (c :: columns)

theorem spaced_order (hn : ∀ c, Tidy (n.piece c)) (keys : List (ν × Bool)) :
    Spaced (orderSql n keys) := by
  refine spaced_fixed (by decide) (spaced_join (by decide) (by decide) _ ?_)
  intro q hq
  obtain ⟨key, -, rfl⟩ := List.mem_map.1 hq
  have hdirection (ascending : Bool) : Plain (if ascending then " ASC" else " DESC") ∧
      opens (if ascending then " ASC" else " DESC") = true := by
    cases ascending <;> decide
  obtain ⟨hplain, hopens⟩ := hdirection key.2
  exact spaced_cons_of_tidy (hn key.1) ⟨hplain, trivial⟩ (bounded_fixed hopens [])

theorem bounded_order (keys : List (ν × Bool)) : Bounded (points (orderSql n keys)) :=
  bounded_fixed (by decide) _

theorem spaced_clause (keyword : String) (hplain : Plain keyword) (hopens : opens keyword = true)
    (present : Bool) (i : Int) :
    Spaced (clauseSql keyword present i) ∧ Bounded (points (clauseSql keyword present i)) := by
  cases present with
  | false => exact ⟨trivial, bounded_nil⟩
  | true => exact ⟨⟨hplain, bounded_nil, trivial⟩, bounded_fixed hopens _⟩

/-- The text of a form reads back. -/
theorem Form.spaced_sql (hn : ∀ c, Tidy (n.piece c)) {table : Piece} (htable : Tidy table)
    (form : Form ν) : Spaced (form.sql n table) := by
  -- a table after fixed text, before text that does not run into it
  have hon (text : String) (htext : Plain text) (rest : Sql) (hrest : Spaced rest)
      (hbounded : Bounded (points rest)) : Spaced (.fixed text :: table :: rest) :=
    spaced_fixed htext (spaced_cons_of_tidy htable hrest hbounded)
  have hreturned (q : Sql) (hq : Spaced q) (hbounded : Bounded (points q)) :
      Spaced (q ++ [.fixed " RETURNING *"]) ∧ Bounded (points (q ++ [.fixed " RETURNING *"])) := by
    have hlast : Bounded (points [.fixed " RETURNING *"]) := bounded_fixed (by decide) []
    exact ⟨spaced_append hq ⟨by decide, trivial⟩ hlast, bounded_points_append hbounded hlast⟩
  cases form with
  | find columns conditions order limit skip =>
    -- from the last clause to the first, since each is followed by the next
    obtain ⟨hlimit, hlimitBounded⟩ := spaced_clause " LIMIT " (by decide) (by decide) limit
      (conditions.length + 1 : Nat)
    obtain ⟨hskip, hskipBounded⟩ := spaced_clause " OFFSET " (by decide) (by decide) skip
      (conditions.length + limit.toNat + 1 : Nat)
    have hclauses := spaced_append hlimit hskip hskipBounded
    have hclausesBounded := bounded_points_append hlimitBounded hskipBounded
    have horder := spaced_append (spaced_order hn order) hclauses hclausesBounded
    have horderBounded := bounded_points_append (bounded_order (n := n) order) hclausesBounded
    have hwhere := spaced_append (spaced_where hn conditions 1) horder horderBounded
    have hwhereBounded := bounded_points_append (bounded_where (n := n) conditions 1) horderBounded
    have hfrom := hon " FROM " (by decide) _ hwhere hwhereBounded
    exact spaced_fixed (by decide)
      (spaced_append (spaced_projection hn columns) hfrom (bounded_fixed (by decide) _))
  | count conditions =>
    exact hon _ (by decide) _ (spaced_where hn conditions 1) (bounded_where conditions 1)
  | insert columns =>
    have hvalues : Spaced (join ", " (numbered (fun _ => 1) (valueSql n) columns 1)) :=
      spaced_join (by decide) (by decide) _ (spaced_numbered spaced_value columns 1)
    have hlast : Spaced [.fixed ") RETURNING *"] := ⟨by decide, trivial⟩
    have hbehind := spaced_append hvalues hlast (bounded_fixed (by decide) [])
    have hvaluesFixed : Spaced (.fixed ") VALUES(" :: _) := spaced_fixed (by decide) hbehind
    have hlists := spaced_append (spaced_columns hn columns) hvaluesFixed
      (bounded_fixed (by decide) _)
    exact hon _ (by decide) _ (spaced_fixed (by decide) hlists) (bounded_fixed (by decide) _)
  | update assignments conditions =>
    have hassignments : Spaced
        (join ", " (numbered AssignmentForm.arity (AssignmentForm.sql n) assignments 1)) :=
      spaced_join (by decide) (by decide) _ (spaced_numbered (spaced_assignment hn) assignments 1)
    have hbehind :=
      hreturned _ (spaced_where hn conditions (assignmentsArity assignments + 1 : Nat))
      (bounded_where conditions _)
    have hset := spaced_append hassignments hbehind.1 hbehind.2
    exact hon _ (by decide) _ (spaced_fixed (by decide) hset) (bounded_fixed (by decide) _)
  | delete conditions =>
    obtain ⟨hbehind, hbounded⟩ := hreturned _ (spaced_where hn conditions 1)
      (bounded_where conditions 1)
    exact hon _ (by decide) _ hbehind hbounded

/-! ## Numbers of placeholders -/

/-- Integers in order, from a first one on. -/
def upFrom (start : Int) (k : Nat) : List Int := (List.range k).map fun i : Nat => start + i

theorem upFrom_add (start : Int) (j k : Nat) :
    upFrom start (j + k) = upFrom start j ++ upFrom (start + j) k := by
  rw [upFrom]
  rw [List.range_add, List.map_append, List.map_map]
  congr 1
  refine List.map_congr_left ?_
  intro i _
  simp only [Function.comp_apply]
  omega

@[simp] theorem upFrom_zero (start : Int) : upFrom start 0 = [] := rfl

@[simp] theorem upFrom_one (start : Int) : upFrom start 1 = [start] := by
  simp [upFrom]

theorem upFrom_succ (start : Int) (k : Nat) :
    upFrom start (k + 1) = start :: upFrom (start + 1) k := by
  rw [Nat.add_comm, upFrom_add, upFrom_one]
  rfl

@[simp] theorem length_upFrom (start : Int) (k : Nat) : (upFrom start k).length = k := by
  simp [upFrom]

@[simp] theorem numbers_castOne (k : ColumnKind) : numbers (tokens k.castOne) = [] := by
  cases k <;> rfl

@[simp] theorem numbers_castMany (k : ColumnKind) : numbers (tokens k.castMany) = [] := by
  cases k <;> rfl

@[simp] theorem numbers_trail (k : ColumnKind) (o : Operator) :
    numbers (tokens (o.trail k)) = [] := by
  cases o <;> simp [Operator.trail]

theorem numbers_condition (hn : ∀ c, Tidy (n.piece c)) (c : ConditionForm ν) (i : Int) :
    numbers (tokens (c.sql n i)) = upFrom i 1 := by
  simp [ConditionForm.sql, numbers_of_tidy (hn c.column)]

/-- Items that are numbered from an index on leave no number out. -/
theorem numbers_numbered {α : Type} {arity : α → Nat} {sql : α → Int → Sql}
    (h : ∀ a i, numbers (tokens (sql a i)) = upFrom i (arity a)) (as : List α) (i : Int) :
    (numbered arity sql as i).flatMap (fun q => numbers (tokens q)) =
      upFrom i (as.map arity).sum := by
  induction as generalizing i with
  | nil => rfl
  | cons a as ih =>
    rw [List.map_cons, List.sum_cons, upFrom_add, ← ih (i + arity a), ← h a i]
    rfl

theorem sum_map_one {α : Type} (as : List α) : (as.map fun _ => 1).sum = as.length := by
  induction as with
  | nil => rfl
  | cons a as ih => rw [List.map_cons, List.sum_cons, ih, List.length_cons, Nat.add_comm]

theorem numbers_where (hn : ∀ c, Tidy (n.piece c)) (cs : List (ConditionForm ν)) (start : Int) :
    numbers (tokens (whereSql n cs start)) = upFrom start cs.length := by
  cases cs with
  | nil => rfl
  | cons c cs =>
    have hnumbered := numbers_numbered (numbers_condition hn) (c :: cs) start
    rw [sum_map_one] at hnumbered
    rw [← hnumbered, whereSql, tokens_cons, numbers_append, numbers_fixed, numbers_join]
    · rfl
    · exact fun h => nomatch h

theorem numbers_value (column : ν) (i : Int) :
    numbers (tokens (valueSql n column i)) = upFrom i 1 := by
  simp [valueSql]

theorem numbers_set (column : ν) (i : Int) : numbers (tokens (setSql n column i)) = [i] := by
  rw [setSql]
  cases n.kind column <;> simp

theorem numbers_increments (k : Nat) (i : Int) :
    numbers (tokens (incrementsSql k i)) = upFrom i k := by
  induction k generalizing i with
  | zero => rfl
  | succ k ih => simp [incrementsSql, ih, upFrom_succ]

theorem numbers_assignment (hn : ∀ c, Tidy (n.piece c)) (a : AssignmentForm ν) (i : Int) :
    numbers (tokens (a.sql n i)) = upFrom i a.arity := by
  have hpiece := numbers_of_tidy (hn a.column)
  rw [AssignmentForm.sql, AssignmentForm.arity]
  cases a.sets with
  | false => simp [hpiece, numbers_increments]
  | true =>
    simp [hpiece, numbers_set, numbers_increments, Nat.add_comm, upFrom_succ]

theorem numbers_columns (hn : ∀ c, Tidy (n.piece c)) (columns : List ν) :
    numbers (tokens (join ", " (columns.map fun c => [n.piece c]))) = [] := by
  rw [numbers_join, List.flatMap_eq_nil_iff]
  intro q hq
  obtain ⟨c, -, rfl⟩ := List.mem_map.1 hq
  simp [numbers_of_tidy (hn c)]

theorem numbers_projection (hn : ∀ c, Tidy (n.piece c)) (columns : List ν) :
    numbers (tokens (projectionSql n columns)) = [] := by
  cases columns with
  | nil => exact numbers_fixed "*"
  | cons c columns => exact numbers_columns hn (c :: columns)

theorem numbers_order (hn : ∀ c, Tidy (n.piece c)) (keys : List (ν × Bool)) :
    numbers (tokens (orderSql n keys)) = [] := by
  rw [orderSql, tokens_cons, numbers_append, numbers_fixed, numbers_join, List.nil_append,
    List.flatMap_eq_nil_iff]
  intro q hq
  obtain ⟨key, -, rfl⟩ := List.mem_map.1 hq
  simp [sortKeySql, numbers_of_tidy (hn key.1)]

theorem numbers_clause (keyword : String) (present : Bool) (i : Int) :
    numbers (tokens (clauseSql keyword present i)) = upFrom i present.toNat := by
  cases present with
  | false => rfl
  | true => simp [clauseSql]

/-- The placeholders of a form are numbered from one, without a gap and in order. -/
theorem Form.numbers_sql (hn : ∀ c, Tidy (n.piece c)) {table : Piece} (htable : Tidy table)
    (form : Form ν) : numbers (tokens (form.sql n table)) = upFrom 1 form.arity := by
  cases form with
  | find columns conditions order limit skip =>
    -- the clauses are numbered by what was bound before them
    have hlimit : ((conditions.length + 1 : Nat) : Int) = 1 + conditions.length := by omega
    have hskip : ((conditions.length + limit.toNat + 1 : Nat) : Int) =
        1 + (conditions.length + limit.toNat : Nat) := by omega
    simp [Form.sql, Form.arity, numbers_projection hn, numbers_of_tidy htable, numbers_where hn,
      numbers_order hn, numbers_clause, upFrom_add, hlimit, hskip]
  | count conditions => simp [Form.sql, Form.arity, numbers_of_tidy htable, numbers_where hn]
  | insert columns =>
    have hvalues := numbers_numbered (numbers_value (n := n)) columns 1
    rw [sum_map_one] at hvalues
    simp [Form.sql, Form.arity, numbers_of_tidy htable, numbers_columns hn, numbers_join, hvalues]
  | update assignments conditions =>
    have hassignments := numbers_numbered (numbers_assignment hn) assignments 1
    -- the conditions go on where the assignments end
    have hstart : ((assignmentsArity assignments + 1 : Nat) : Int) =
        1 + (assignmentsArity assignments : Nat) := by omega
    rw [← assignmentsArity] at hassignments
    simp [Form.sql, Form.arity, numbers_of_tidy htable, numbers_join, hassignments,
      numbers_where hn, upFrom_add, hstart]
  | delete conditions => simp [Form.sql, Form.arity, numbers_of_tidy htable, numbers_where hn]

/-! ## Names -/

/-- The names that a column adds to a text. -/
def Naming.namesOf (n : Naming ν) (column : ν) : List (List Text.Point) :=
  Sql.names (pieceTokens (n.piece column))

@[simp] theorem names_castOne (k : ColumnKind) : Sql.names (tokens k.castOne) = [] := by
  cases k <;> rfl

@[simp] theorem names_castMany (k : ColumnKind) : Sql.names (tokens k.castMany) = [] := by
  cases k <;> rfl

@[simp] theorem names_trail (k : ColumnKind) (o : Operator) :
    Sql.names (tokens (o.trail k)) = [] := by
  cases o <;> simp [Operator.trail]

theorem names_condition (c : ConditionForm ν) (i : Int) :
    Sql.names (tokens (c.sql n i)) = n.namesOf c.column := by
  simp [ConditionForm.sql, Naming.namesOf]

theorem names_numbered {α : Type} {arity : α → Nat} {sql : α → Int → Sql}
    {named : α → List (List Text.Point)} (h : ∀ a i, Sql.names (tokens (sql a i)) = named a)
    (as : List α) (i : Int) :
    (numbered arity sql as i).flatMap (fun q => Sql.names (tokens q)) = as.flatMap named := by
  induction as generalizing i with
  | nil => rfl
  | cons a as ih =>
    rw [List.flatMap_cons, ← ih (i + arity a), ← h a i]
    rfl

theorem names_where (cs : List (ConditionForm ν)) (start : Int) :
    Sql.names (tokens (whereSql n cs start)) = (cs.map (·.column)).flatMap n.namesOf := by
  rw [List.flatMap_map]
  cases cs with
  | nil => rfl
  | cons c cs =>
    rw [← names_numbered (names_condition (n := n)) (c :: cs) start, whereSql, tokens_cons,
      names_append, names_fixed, names_join]
    · rfl
    · exact fun h => nomatch h

theorem names_set (column : ν) (i : Int) : Sql.names (tokens (setSql n column i)) = [] := by
  rw [setSql]
  cases n.kind column <;> simp

theorem names_increments (k : Nat) (i : Int) : Sql.names (tokens (incrementsSql k i)) = [] := by
  induction k generalizing i with
  | zero => rfl
  | succ k ih => simp [incrementsSql, ih]

theorem names_assignment (a : AssignmentForm ν) (i : Int) :
    Sql.names (tokens (a.sql n i)) =
      (if a.sets then [a.column] else [a.column, a.column]).flatMap n.namesOf := by
  rw [AssignmentForm.sql]
  cases a.sets <;> simp [names_set, names_increments, Naming.namesOf]

theorem names_columns (columns : List ν) :
    Sql.names (tokens (join ", " (columns.map fun c => [n.piece c]))) =
      columns.flatMap n.namesOf := by
  rw [names_join, List.flatMap_map]
  congr 1
  funext c
  simp [Naming.namesOf]

theorem names_projection (columns : List ν) :
    Sql.names (tokens (projectionSql n columns)) = columns.flatMap n.namesOf := by
  cases columns with
  | nil => exact names_fixed "*"
  | cons c columns => exact names_columns (c :: columns)

theorem names_order (keys : List (ν × Bool)) :
    Sql.names (tokens (orderSql n keys)) = (keys.map (·.1)).flatMap n.namesOf := by
  rw [orderSql, tokens_cons, names_append, names_fixed, names_join, List.nil_append,
    List.flatMap_map, List.flatMap_map]
  congr 1
  funext key
  simp [sortKeySql, Naming.namesOf]

theorem names_clause (keyword : String) (present : Bool) (i : Int) :
    Sql.names (tokens (clauseSql keyword present i)) = [] := by
  cases present with
  | false => rfl
  | true => simp [clauseSql]

/-- The names in the text of a form are its own names in their order. -/
theorem Form.names_sql (table : ν) (form : Form ν) :
    Sql.names (tokens (form.sql n (n.piece table))) = (form.names table).flatMap n.namesOf := by
  have htable : Sql.names (pieceTokens (n.piece table)) = n.namesOf table := rfl
  cases form with
  | find columns conditions order limit skip =>
    simp [Form.sql, Form.names, htable, names_projection, names_where, names_order, names_clause]
  | count conditions => simp [Form.sql, Form.names, htable, names_where]
  | insert columns =>
    have hnone : ∀ c i, Sql.names (tokens (valueSql n c i)) = [] := by
      intro c i
      simp [valueSql]
    have hvalues : Sql.names (tokens (join ", "
        (numbered (fun _ => 1) (valueSql n) columns 1))) = [] := by
      rw [names_join, names_numbered hnone]
      simp
    simp [Form.sql, Form.names, htable, names_columns, hvalues]
  | update assignments conditions =>
    have hassignments : Sql.names (tokens (join ", "
        (numbered AssignmentForm.arity (AssignmentForm.sql n) assignments 1))) =
        (assignments.flatMap fun a =>
          if a.sets then [a.column] else [a.column, a.column]).flatMap n.namesOf := by
      rw [names_join, names_numbered names_assignment, List.flatMap_assoc]
    simp only [Form.sql, Form.names, tokens_cons, tokens_append, names_append, names_fixed, htable,
      hassignments, names_where]
    simp
  | delete conditions => simp [Form.sql, Form.names, htable, names_where]

end Reading

end DocumentStore
