import DocumentStore.Proofs.Sql.Roles
import DocumentStore.Proofs.Statement.FormReading

/-!
# What the placeholders of a form stand for

Each placeholder in the text of a form stands next to what the form binds there (`Form.roles_sql`).
The reader may come into a clause from anywhere, since it is opened by a keyword; inside a list an
invariant carries it from one item to the next (`roles_join`).
-/

set_option autoImplicit false

namespace DocumentStore

open Sql
open Text (Point)

/-! ## What a form binds -/

section Roles

variable {ν : Type} (label : ν → List Point)

/-- What the placeholder of a condition stands for. -/
def ConditionForm.role (c : ConditionForm ν) : Role :=
  .operand (label c.column) (Text.points c.operator.lead)

/-- What the placeholders of an assignment stand for. -/
def AssignmentForm.roles (a : AssignmentForm ν) : List Role :=
  (if a.sets then [.value (label a.column)] else []) ++
    List.replicate a.increments (.increment (label a.column))

/-- What the placeholders of a form stand for. -/
def Form.roles : Form ν → List Role
  | .find _ conditions _ limit skip =>
    conditions.map (ConditionForm.role label) ++ (if limit then [.limit] else []) ++
      if skip then [.skip] else []
  | .count conditions => conditions.map (ConditionForm.role label)
  | .insert columns => columns.map fun c => .value (label c)
  | .update assignments conditions =>
    assignments.flatMap (AssignmentForm.roles label) ++ conditions.map (ConditionForm.role label)
  | .delete conditions => conditions.map (ConditionForm.role label)

/-- As many placeholders stand for something as the form binds values. -/
theorem Form.length_roles (form : Form ν) : (form.roles label).length = form.arity := by
  have hpresent (present : Bool) (role : Role) :
      (if present then [role] else []).length = present.toNat := by
    cases present <;> rfl
  cases form with
  | find columns conditions order limit skip =>
    simp only [Form.roles, Form.arity, List.length_append, List.length_map, hpresent]
  | count conditions => exact List.length_map _
  | insert columns => exact List.length_map _
  | update assignments conditions =>
    have hassignment (a : AssignmentForm ν) : (a.roles label).length = a.arity := by
      simp [AssignmentForm.roles, AssignmentForm.arity, hpresent]
    simp [Form.roles, Form.arity, assignmentsArity, List.length_flatMap, hassignment]
  | delete conditions => exact List.length_map _

end Roles

/-! ## Clauses -/

/-- The operators of conditions open no clause. -/
theorem behind_lead (o : Operator) :
    Clause.restriction.behind (Text.points o.lead) = .restriction := by
  cases o <;> decide

/-- Casts are text only. -/
theorem after_castOne (s : Site) (k : ColumnKind) :
    ∃ text, s.after (tokens k.castOne) = ⟨s.clause, s.listed, s.column, text⟩ := by
  cases k with
  | dateTime => exact ⟨_, s.after_fixed "::text::timestamp"⟩
  | _ => exact ⟨s.text, rfl⟩

theorem after_castMany (s : Site) (k : ColumnKind) :
    ∃ text, s.after (tokens k.castMany) = ⟨s.clause, s.listed, s.column, text⟩ := by
  cases k with
  | timestamp => exact ⟨_, s.after_fixed "::timestamp[]"⟩
  | dateTime => exact ⟨_, s.after_fixed "::text[]::timestamp[]"⟩
  | plain => exact ⟨s.text, rfl⟩

/-- What stands behind an operand is text only. -/
theorem after_trail (s : Site) (k : ColumnKind) (o : Operator) :
    ∃ text, s.after (tokens (o.trail k)) = ⟨s.clause, s.listed, s.column, text⟩ := by
  have hmember : ∃ text, s.after (tokens (k.castMany ++ [.fixed ")"])) =
      ⟨s.clause, s.listed, s.column, text⟩ := by
    obtain ⟨text, hcast⟩ := after_castMany s k
    refine ⟨text ++ Text.points ")", ?_⟩
    rw [tokens_append, Site.after_append, hcast]
    exact Site.after_fixed _ ")"
  cases o with
  | isIn => exact hmember
  | containsAny => exact hmember
  | regex => exact ⟨s.text, rfl⟩
  | _ => exact after_castOne s k

/-! ## Lists -/

/-- What the items of a list stand for, when an invariant holds before each and what is read of an
item and of the separator keeps it. -/
theorem roles_join {α : Type} {arity : α → Nat} {sql : α → Int → Sql} {told : α → List Role}
    {separator : String} (Invariant : List α → Site → Prop)
    (h : ∀ a as i s, Invariant (a :: as) s → s.roles (tokens (sql a i)) = told a ∧
      Invariant as ((s.after (tokens (sql a i))).after (pieceTokens (.fixed separator))))
    (as : List α) (i : Int) {s : Site} (hs : Invariant as s) :
    s.roles (tokens (join separator (numbered arity sql as i))) = as.flatMap told := by
  induction as generalizing i s with
  | nil => rfl
  | cons a as ih =>
    obtain ⟨htold, hnext⟩ := h a as i s hs
    -- a separator stands behind every item but the last
    cases as with
    | nil => exact htold.trans (List.append_nil _).symm
    | cons b as =>
      have hjoin : join separator (numbered arity sql (a :: b :: as) i) = sql a i ++
          .fixed separator :: join separator (numbered arity sql (b :: as) (i + arity a)) := rfl
      rw [hjoin, tokens_append, tokens_cons, Site.roles_append, Site.roles_append, htold,
        Site.roles_fixed, List.nil_append, ih (i + arity a) hnext]
      rfl

section Reading

variable {ν : Type} {label : ν → List Point} {n : Naming ν}
  (hn : ∀ c, pieceTokens (n.piece c) = [.name (label c)])

include hn

/-- A column that is read as a name may stand anywhere. -/
theorem tidy_of_name (c : ν) : Tidy (n.piece c) := by
  have hc := hn c
  cases hpiece : n.piece c with
  | fixed text =>
    rw [hpiece] at hc
    have hmem : Token.name (label c) ∈ (Text.points text).map Token.other := by
      rw [show (Text.points text).map Token.other = [.name (label c)] from hc]
      exact List.mem_singleton.2 rfl
    obtain ⟨p, -, hp⟩ := List.mem_map.1 hmem
    cases hp
  | placeholder i =>
    rw [hpiece] at hc
    cases hc
  | _ => trivial

theorem roles_name (s : Site) (c : ν) : s.roles (pieceTokens (n.piece c)) = [] := by
  rw [hn c]
  rfl

theorem after_name (s : Site) (c : ν) :
    s.after (pieceTokens (n.piece c)) = s.onName (label c) := by
  rw [hn c]
  rfl

/-! ## Conditions -/

/-- A condition stands for its operand, and the restriction goes on behind it. -/
theorem roles_condition {s : Site} (hs : s.current = .restriction) (c : ConditionForm ν) (i : Int) :
    s.roles (tokens (c.sql n i)) = [c.role label] ∧
      ((s.after (tokens (c.sql n i))).after (pieceTokens (.fixed " AND "))).current =
        .restriction := by
  have hlead : (s.onName (label c.column)).after (pieceTokens (.fixed c.operator.lead)) =
      ⟨.restriction, (s.onName (label c.column)).listed, label c.column,
        Text.points c.operator.lead⟩ := by
    rw [Site.after_fixed, Site.onName, hs]
    rfl
  have hrole (listed : List (List Point)) :
      (⟨.restriction, listed, label c.column, Text.points c.operator.lead⟩ : Site).role =
        c.role label := by
    rw [Site.role, Site.current, behind_lead]
    rfl
  have hsql : tokens (c.sql n i) = pieceTokens (n.piece c.column) ++
      (pieceTokens (.fixed c.operator.lead) ++ (pieceTokens (.placeholder i) ++
        tokens (c.operator.trail (n.kind c.column)))) := by
    rw [ConditionForm.sql, tokens_append]
    simp only [tokens_cons, tokens_nil, List.append_nil, List.append_assoc]
  have htrail (s : Site) : s.roles (tokens (c.operator.trail (n.kind c.column))) = [] :=
    s.roles_eq_nil (numbers_trail _ _)
  constructor
  · simp only [hsql, Site.roles_append, roles_name hn, after_name hn, Site.roles_fixed, hlead,
      Site.roles_placeholder, hrole, htrail, List.nil_append, List.append_nil]
  · simp only [hsql, Site.after_append, after_name hn, hlead, Site.after_placeholder]
    obtain ⟨text, htext⟩ := after_trail (Site.onPlaceholder ⟨.restriction,
      (s.onName (label c.column)).listed, label c.column, Text.points c.operator.lead⟩)
      (n.kind c.column) c.operator
    rw [Site.current_after_fixed (by decide), htext, Site.clause_onPlaceholder, Site.current,
      behind_lead]
    rfl

/-- A WHERE clause stands for the operands of its conditions, wherever it stands. -/
theorem roles_where (s : Site) (cs : List (ConditionForm ν)) (start : Int) :
    s.roles (tokens (whereSql n cs start)) = cs.map (ConditionForm.role label) := by
  cases cs with
  | nil => rfl
  | cons c cs =>
    -- the keyword opens the clause, and the conditions keep it open
    have hopened : (s.after (pieceTokens (.fixed " WHERE "))).current = .restriction :=
      Site.current_opened (by decide) s
    have hjoin : (s.after (pieceTokens (.fixed " WHERE "))).roles
        (tokens (join " AND " (conditionsSql n (c :: cs) start))) =
          (c :: cs).flatMap fun c => [c.role label] :=
      roles_join (fun _ s => s.current = .restriction)
        (fun c _ i s hs => roles_condition hn hs c i) (c :: cs) start hopened
    have hsql : whereSql n (c :: cs) start =
      .fixed " WHERE " :: join " AND " (conditionsSql n (c :: cs) start) := rfl
    rw [hsql, tokens_cons, Site.roles_append, Site.roles_fixed, List.nil_append, hjoin,
      List.map_eq_flatMap]

/-! ## Assignments -/

omit hn in
/-- What is added stands for increments of the column, and the clause goes on behind it. -/
theorem roles_increments (k : Nat) (i : Int) {s : Site} (hs : s.clause = .set) :
    s.roles (tokens (incrementsSql k i)) = List.replicate k (.increment s.column) ∧
      (s.after (tokens (incrementsSql k i))).clause = .set := by
  induction k generalizing i s with
  | zero => exact ⟨rfl, hs⟩
  | succ k ih =>
    have hcurrent : (s.after (pieceTokens (.fixed " + "))).current = .set := by
      rw [Site.current_after_fixed (by decide), hs]
      decide
    -- the plus sign tells an increment from a value that is set
    have hplus :
        (Text.points " + ").isSuffixOf (s.after (pieceTokens (.fixed " + "))).text = true := by
      rw [Site.after_fixed]
      exact List.isSuffixOf_iff_suffix.2 (List.suffix_append s.text _)
    have hrole : (s.after (pieceTokens (.fixed " + "))).role = .increment s.column := by
      rw [Site.role, hcurrent]
      show (if _ then _ else _) = _
      rw [if_pos hplus, Site.after_fixed]
    have hcolumn : (s.after (pieceTokens (.fixed " + "))).onPlaceholder.column = s.column := by
      rw [Site.after_fixed]
      rfl
    obtain ⟨hrest, hclause⟩ := ih (i + 1)
      ((Site.clause_onPlaceholder (s.after (pieceTokens (.fixed " + ")))).trans hcurrent)
    constructor
    · rw [incrementsSql, tokens_cons, tokens_cons, Site.roles_append, Site.roles_append,
        Site.roles_fixed, Site.roles_placeholder, Site.after_placeholder, hrole, hrest, hcolumn]
      rfl
    · rw [incrementsSql, tokens_cons, tokens_cons, Site.after_append, Site.after_append,
        Site.after_placeholder]
      exact hclause

omit hn in
/-- A value that is set stands for the value of the column that is assigned. -/
theorem roles_set (listed : List (List Point)) (name : List Point) (column : ν) (i : Int) :
    let s : Site := ⟨.set, listed, name, Text.points " = "⟩
    s.roles (tokens (setSql n column i)) = [.value name] ∧
      (s.after (tokens (setSql n column i))).clause = .set ∧
      (s.after (tokens (setSql n column i))).column = name := by
  intro s
  have hcast (k : ColumnKind) : s.roles (tokens (.placeholder i :: k.castOne)) = [.value name] ∧
      (s.after (tokens (.placeholder i :: k.castOne))).clause = .set ∧
      (s.after (tokens (.placeholder i :: k.castOne))).column = name := by
    obtain ⟨text, hafter⟩ := after_castOne s.onPlaceholder k
    rw [tokens_cons, Site.roles_append, Site.after_append, Site.roles_placeholder,
      Site.after_placeholder, hafter, Site.roles_eq_nil _ (numbers_castOne k)]
    exact ⟨rfl, rfl, rfl⟩
  rw [setSql]
  cases n.kind column with
  | timestamp =>
    simp only [tokens_cons, tokens_nil, Site.roles_append, Site.after_append, Site.roles_fixed,
      Site.after_fixed, Site.roles_placeholder, Site.after_placeholder]
    exact ⟨rfl, rfl, rfl⟩
  | dateTime => exact hcast .dateTime
  | plain => exact hcast .plain

/-- An assignment stands for what it sets and what it adds, and the list goes on behind it. -/
theorem roles_assignment {s : Site} (hs : s.current = .set) (a : AssignmentForm ν) (i : Int) :
    s.roles (tokens (a.sql n i)) = a.roles label ∧
      ((s.after (tokens (a.sql n i))).after (pieceTokens (.fixed ", "))).current = .set := by
  have hequals : (s.onName (label a.column)).after (pieceTokens (.fixed " = ")) =
      ⟨.set, (s.onName (label a.column)).listed, label a.column, Text.points " = "⟩ := by
    rw [Site.after_fixed, Site.onName, hs]
    rfl
  have hnext (s : Site) (hs : s.clause = .set) :
      (s.after (pieceTokens (.fixed ", "))).current = .set := by
    rw [Site.current_after_fixed (by decide), hs]
    decide
  cases hsets : a.sets with
  | true =>
    -- the name, the value that is set, and what is added to it
    have hsql : tokens (a.sql n i) =
        pieceTokens (n.piece a.column) ++ (pieceTokens (.fixed " = ") ++
          (tokens (setSql n a.column i) ++ tokens (incrementsSql a.increments (i + 1)))) := by
      rw [AssignmentForm.sql, hsets, if_pos rfl]
      simp only [tokens_append, tokens_cons, tokens_nil, List.append_nil, List.append_assoc]
    obtain ⟨hrole, hclause, hcolumn⟩ := roles_set (n := n) (s.onName (label a.column)).listed
      (label a.column) a.column i
    obtain ⟨hroles, hbehind⟩ := roles_increments a.increments (i + 1) hclause
    constructor
    · rw [hsql, Site.roles_append, Site.roles_append, Site.roles_append, roles_name hn,
        after_name hn, Site.roles_fixed, hequals, hrole, hroles, hcolumn,
        AssignmentForm.roles, hsets]
      rfl
    · rw [hsql, Site.after_append, Site.after_append, Site.after_append, after_name hn, hequals]
      exact hnext _ hbehind
  | false =>
    -- the name twice, and what is added to the column
    have hsql : tokens (a.sql n i) =
        pieceTokens (n.piece a.column) ++ (pieceTokens (.fixed " = ") ++
          (pieceTokens (n.piece a.column) ++ tokens (incrementsSql a.increments i))) := by
      rw [AssignmentForm.sql, hsets, if_neg Bool.false_ne_true]
      simp only [tokens_append, tokens_cons, tokens_nil, List.append_nil, List.append_assoc]
    have hclause : (Site.onName ⟨.set, (s.onName (label a.column)).listed, label a.column,
        Text.points " = "⟩ (label a.column)).clause = .set := by
      show Clause.set.behind (Text.points " = ") = .set
      decide
    obtain ⟨hroles, hbehind⟩ := roles_increments a.increments i hclause
    constructor
    · rw [hsql, Site.roles_append, Site.roles_append, Site.roles_append, roles_name hn,
        after_name hn, Site.roles_fixed, hequals, roles_name hn, after_name hn, hroles,
        AssignmentForm.roles, hsets]
      rfl
    · rw [hsql, Site.after_append, Site.after_append, Site.after_append, after_name hn s, hequals,
        after_name hn]
      exact hnext _ hbehind

/-! ## Inserted values -/

/-- The columns that are listed in brackets wait for their values. -/
theorem listed_columns (c : ν) (cs : List ν) (s : Site) :
    (s.after (tokens (join ", " ((c :: cs).map fun c => [n.piece c])))).listed =
      (s.onName (label c)).listed ++ cs.map label := by
  induction cs generalizing c s with
  | nil =>
    show (s.after (tokens [n.piece c])).listed = _
    rw [tokens_cons, tokens_nil, List.append_nil, after_name hn, List.map_nil, List.append_nil]
  | cons d cs ih =>
    have hjoin : join ", " ((c :: d :: cs).map fun c => [n.piece c]) =
      n.piece c :: .fixed ", " :: join ", " ((d :: cs).map fun c => [n.piece c]) := rfl
    have hlisted (s : Site) : (((s.onName (label c)).after (pieceTokens (.fixed ", "))).onName
        (label d)).listed = (s.onName (label c)).listed ++ [label d] := by
      rw [Site.after_fixed]
      rfl
    rw [hjoin, tokens_cons, tokens_cons, Site.after_append, Site.after_append, after_name hn, ih,
      hlisted, List.append_assoc]
    rfl

omit hn in
/-- Values stand for the listed columns, one after the other. -/
theorem roles_values {s : Site} (hs : s.current = .values) {columns : List ν}
    (hlisted : s.listed = columns.map label) (i : Int) :
    s.roles (tokens (join ", " (numbered (fun _ => 1) (valueSql n) columns i))) =
      columns.map fun c => .value (label c) := by
  have hjoin : s.roles (tokens (join ", " (numbered (fun _ => 1) (valueSql n) columns i))) =
      columns.flatMap fun c => [.value (label c)] := by
    refine roles_join (fun columns s => s.current = .values ∧ s.listed = columns.map label) ?_
      columns i ⟨hs, hlisted⟩
    intro c columns i s ⟨hs, hlisted⟩
    have hrole : s.role = .value (label c) := by
      rw [Site.role, hs, hlisted]
      rfl
    obtain ⟨text, hafter⟩ := after_castOne s.onPlaceholder (n.kind c)
    have hplace : s.onPlaceholder = ⟨.values, columns.map label, s.column, []⟩ := by
      rw [Site.onPlaceholder, hs, hlisted]
      rfl
    rw [valueSql, tokens_cons, Site.roles_append, Site.after_append, Site.roles_placeholder,
      Site.after_placeholder, hafter, Site.roles_eq_nil _ (numbers_castOne _), hrole, hplace]
    refine ⟨rfl, ?_, ?_⟩
    · rw [Site.current_after_fixed (by decide)]
      rfl
    · rw [Site.after_fixed]
  rw [hjoin, List.map_eq_flatMap]

/-! ## Forms -/

omit hn in
/-- A clause of one value stands for it, wherever it stands. -/
theorem roles_clause (s : Site) (present : Bool) (i : Int) :
    s.roles (tokens (clauseSql " LIMIT " present i)) = (if present then [.limit] else []) ∧
      s.roles (tokens (clauseSql " OFFSET " present i)) = if present then [.skip] else [] := by
  have hlimit : (s.after (pieceTokens (.fixed " LIMIT "))).role = .limit := by
    rw [Site.role, Site.current_opened (by decide : (" LIMIT ", .limit) ∈ Clause.openings)]
  have hskip : (s.after (pieceTokens (.fixed " OFFSET "))).role = .skip := by
    rw [Site.role, Site.current_opened (by decide : (" OFFSET ", .skip) ∈ Clause.openings)]
  cases present with
  | false => exact ⟨rfl, rfl⟩
  | true =>
    constructor
    · rw [clauseSql, if_pos rfl, tokens_cons, Site.roles_append, Site.roles_fixed, tokens_cons,
        tokens_nil, List.append_nil, Site.roles_placeholder, hlimit]
      rfl
    · rw [clauseSql, if_pos rfl, tokens_cons, Site.roles_append, Site.roles_fixed, tokens_cons,
        tokens_nil, List.append_nil, Site.roles_placeholder, hskip]
      rfl

/-- The placeholders of a form stand, in order, for what the form binds. -/
theorem Form.roles_sql (table : ν) (form : Form ν) :
    Sql.roles (tokens (form.sql n (n.piece table))) = form.roles label := by
  have hnone (s : Site) {sql : Sql} (h : numbers (tokens sql) = []) : s.roles (tokens sql) = [] :=
    s.roles_eq_nil h
  have hprojection := numbers_projection (tidy_of_name hn)
  have horder := numbers_order (tidy_of_name hn)
  rw [Sql.roles]
  cases form with
  | find columns conditions order limit skip =>
    simp only [Form.sql, Form.roles, tokens_cons, tokens_append, Site.roles_append,
      Site.roles_fixed, roles_name hn, hnone _ (hprojection columns), roles_where hn,
      hnone _ (horder order), (roles_clause _ _ _).1, (roles_clause _ _ _).2, List.nil_append,
      List.append_assoc]
  | count conditions =>
    simp only [Form.sql, Form.roles, tokens_cons, Site.roles_append, Site.roles_fixed,
      roles_name hn, roles_where hn, List.nil_append]
  | insert columns =>
    have hcolumns := numbers_columns (tidy_of_name hn) columns
    have hvalues (s : Site) (hs : s.listed = columns.map label) :
        (s.after (pieceTokens (.fixed ") VALUES("))).roles
          (tokens (join ", " (numbered (fun _ => 1) (valueSql n) columns 1))) =
        columns.map fun c => .value (label c) := by
      refine roles_values ?_ ?_ 1
      · exact Site.current_opened (by decide) s
      · rw [Site.after_fixed]
        exact hs
    -- without columns there is no list, and no value that waits for one
    have hlisted (s : Site) : columns = [] ∨
        (((s.onName (label table)).after (pieceTokens (.fixed "("))).after
          (tokens (join ", " (columns.map fun c => [n.piece c])))).listed = columns.map label := by
      cases columns with
      | nil => exact .inl rfl
      | cons c cs =>
        refine .inr ?_
        rw [listed_columns hn, Site.after_fixed]
        rfl
    simp only [Form.sql, Form.roles, tokens_cons, tokens_append, tokens_nil, Site.roles_append,
      Site.roles_fixed, roles_name hn, after_name hn, hnone _ hcolumns, List.nil_append,
      List.append_nil]
    rcases hlisted (Site.start.after (pieceTokens (.fixed "INSERT INTO "))) with rfl | hs
    · rfl
    · exact hvalues _ hs
  | update assignments conditions =>
    have hassignments (s : Site) : (s.after (pieceTokens (.fixed " SET "))).roles
        (tokens (join ", " (numbered AssignmentForm.arity (AssignmentForm.sql n) assignments 1))) =
        assignments.flatMap (AssignmentForm.roles label) := by
      refine roles_join (fun _ s => s.current = .set)
        (fun a _ i s hs => roles_assignment hn hs a i) assignments 1 ?_
      exact Site.current_opened (by decide) s
    simp only [Form.sql, Form.roles, tokens_cons, tokens_append, tokens_nil, Site.roles_append,
      Site.roles_fixed, roles_name hn, hassignments, roles_where hn, List.nil_append,
      List.append_nil]
  | delete conditions =>
    simp only [Form.sql, Form.roles, tokens_cons, tokens_append, tokens_nil, Site.roles_append,
      Site.roles_fixed, roles_name hn, roles_where hn, List.nil_append, List.append_nil]

end Reading

end DocumentStore
