import DocumentStore.Proofs.Sql.Spelling
import DocumentStore.Proofs.Statement.FormRoles

/-!
# How the placeholders of a form are written

Each placeholder in the text of a form has the cast of its column's kind and place
(`Form.spellings_sql`). The parts of the text are read one by one, each wherever it may stand.
-/

set_option autoImplicit false

namespace DocumentStore

open Sql
open Text (Point)

/-! ## What a form writes -/

namespace ColumnKind

/-- How one value is written. -/
def one : ColumnKind → Spelling
  | .dateTime => .withCast "::text::timestamp"
  | _ => .bare

/-- How a list of values is written. -/
def many : ColumnKind → Spelling
  | .timestamp => .withCast "::timestamp[]"
  | .dateTime => .withCast "::text[]::timestamp[]"
  | .plain => .bare

/-- How a value that is set is written. -/
def toSet : ColumnKind → Spelling
  | .timestamp => .ofSeconds
  | kind => kind.one

end ColumnKind

/-- How an operand is written. -/
def Operator.spelling (kind : ColumnKind) : Operator → Spelling
  | .isIn => kind.many
  | .containsAny => kind.many
  | .regex => .bare
  | _ => kind.one

section Spellings

variable {ν : Type} (kind : ν → ColumnKind)

/-- How the placeholder of a condition is written. -/
def ConditionForm.spelling (c : ConditionForm ν) : Spelling := c.operator.spelling (kind c.column)

/-- How the placeholders of an assignment are written. -/
def AssignmentForm.spellings (a : AssignmentForm ν) : List Spelling :=
  (if a.sets then [(kind a.column).toSet] else []) ++ List.replicate a.increments .bare

/-- How the placeholders of a form are written. -/
def Form.spellings : Form ν → List Spelling
  | .find _ conditions _ limit skip =>
    conditions.map (ConditionForm.spelling kind) ++ (if limit then [.bare] else []) ++
      if skip then [.bare] else []
  | .count conditions => conditions.map (ConditionForm.spelling kind)
  | .insert columns => columns.map fun c => (kind c).one
  | .update assignments conditions =>
    assignments.flatMap (AssignmentForm.spellings kind) ++ conditions.map
      (ConditionForm.spelling kind)
  | .delete conditions => conditions.map (ConditionForm.spelling kind)

end Spellings

/-! ## Operands and values -/

theorem spells_bare (i : Int) : Spells [.placeholder i] [.bare] := by
  have h : Spells (.placeholder i :: pieceTokens (.fixed "")) [.withCast ""] :=
    spells_placeholder i (by decide) rfl
  exact h

theorem spells_one (kind : ColumnKind) (i : Int) :
    Spells (.placeholder i :: tokens kind.castOne) [kind.one] := by
  cases kind with
  | dateTime =>
    rw [ColumnKind.castOne, tokens_cons, tokens_nil, List.append_nil]
    exact spells_placeholder i (by decide) rfl
  | _ => exact spells_bare i

theorem spells_many (kind : ColumnKind) (i : Int) :
    Spells (.placeholder i :: tokens kind.castMany) [kind.many] := by
  cases kind with
  | plain => exact spells_bare i
  | _ =>
    rw [ColumnKind.castMany, tokens_cons, tokens_nil, List.append_nil]
    exact spells_placeholder i (by decide) rfl

/-- An operand is written with the cast of its kind, in brackets when it is a list. -/
theorem spells_trail (kind : ColumnKind) (o : Operator) (i : Int) :
    Spells (.placeholder i :: tokens (o.trail kind)) [o.spelling kind] := by
  have hmember : Spells (.placeholder i :: tokens (kind.castMany ++ [.fixed ")"])) [kind.many] := by
    have hclose : Spells (pieceTokens (.fixed ")")) [] := spells_fixed (by decide) rfl
    simpa using (spells_many kind i).append hclose
  cases o with
  | isIn => exact hmember
  | containsAny => exact hmember
  | regex => exact spells_bare i
  | _ => exact spells_one kind i

theorem spells_lead (o : Operator) : Spells (pieceTokens (.fixed o.lead)) [] := by
  cases o <;> exact spells_fixed (by decide) (by decide)

theorem spells_increments (k : Nat) (i : Int) :
    Spells (tokens (incrementsSql k i)) (List.replicate k .bare) := by
  induction k generalizing i with
  | zero => exact spells_nil
  | succ k ih =>
    have hplus : Spells (pieceTokens (.fixed " + ")) [] := spells_fixed (by decide) rfl
    rw [incrementsSql, tokens_cons, tokens_cons]
    exact hplus.append ((spells_bare i).append (ih (i + 1)))

theorem spells_clause {keyword : String} (h : Spells (pieceTokens (.fixed keyword)) [])
    (present : Bool) (i : Int) :
    Spells (tokens (clauseSql keyword present i)) (if present then [.bare] else []) := by
  cases present with
  | false => exact spells_nil
  | true =>
    rw [clauseSql, if_pos rfl, tokens_cons]
    exact h.append (spells_bare i)

/-- Items that are numbered are written one after the other, whatever their numbers. -/
theorem spells_numbered {α : Type} (arity : α → Nat) {sql : α → Int → Sql}
    {told : α → List Spelling} {separator : String}
    (hseparator : Spells (pieceTokens (.fixed separator)) [])
    (h : ∀ a i, Spells (tokens (sql a i)) (told a)) (as : List α) (i : Int) :
    Spells (tokens (join separator (numbered arity sql as i))) (as.flatMap told) := by
  have hitems : List.Forall₂ (fun sql ss => Spells (tokens sql) ss) (numbered arity sql as i)
      (as.map told) := by
    induction as generalizing i with
    | nil => exact .nil
    | cons a as ih => exact .cons (h a i) (ih _)
  rw [List.flatMap_def]
  exact spells_join hseparator hitems

theorem spells_comma : Spells (pieceTokens (.fixed ", ")) [] := spells_fixed (by decide) rfl

section Reading

variable {ν : Type} {label : ν → List Point} {n : Naming ν}

/-- A value that is set is written for the kind of its column. -/
theorem spells_set (column : ν) (i : Int) :
    Spells (pieceTokens (.fixed " = ") ++ tokens (setSql n column i)) [(n.kind column).toSet] := by
  have hequals : Spells (pieceTokens (.fixed " = ")) [] := spells_fixed (by decide) rfl
  rw [setSql]
  cases n.kind column with
  | timestamp => exact spells_seconds (numbers_fixed " = ") hequals.uncast (by decide) i
  | dateTime => exact hequals.append (spells_one .dateTime i)
  | plain => exact hequals.append (spells_one .plain i)

variable (hn : ∀ c, pieceTokens (n.piece c) = [.name (label c)])

include hn

theorem spells_column (c : ν) : Spells (pieceTokens (n.piece c)) [] := by
  rw [hn]
  exact spells_name _

/-! ## Clauses -/

theorem spells_condition (c : ConditionForm ν) (i : Int) :
    Spells (tokens (c.sql n i)) [c.spelling n.kind] := by
  rw [ConditionForm.sql, tokens_append]
  have hsql : tokens [n.piece c.column, .fixed c.operator.lead, .placeholder i] ++
      tokens (c.operator.trail (n.kind c.column)) = pieceTokens (n.piece c.column) ++
        (pieceTokens (.fixed c.operator.lead) ++
          (.placeholder i :: tokens (c.operator.trail (n.kind c.column)))) := by
    simp [pieceTokens]
  rw [hsql]
  exact (spells_column hn c.column).append ((spells_lead c.operator).append (spells_trail _ _ i))

theorem spells_where (cs : List (ConditionForm ν)) (start : Int) :
    Spells (tokens (whereSql n cs start)) (cs.map (ConditionForm.spelling n.kind)) := by
  cases cs with
  | nil => exact spells_nil
  | cons c cs =>
    have hkeyword : Spells (pieceTokens (.fixed " WHERE ")) [] := spells_fixed (by decide) rfl
    have hand : Spells (pieceTokens (.fixed " AND ")) [] := spells_fixed (by decide) rfl
    have hconditions := spells_numbered (fun _ => 1) hand (spells_condition hn) (c :: cs) start
    rw [whereSql, tokens_cons, List.map_eq_flatMap]
    · exact hkeyword.append hconditions
    · exact List.cons_ne_nil c cs

theorem spells_assignment (a : AssignmentForm ν) (i : Int) :
    Spells (tokens (a.sql n i)) (a.spellings n.kind) := by
  have hname := spells_column hn a.column
  have hequals : Spells (pieceTokens (.fixed " = ")) [] := spells_fixed (by decide) rfl
  rw [AssignmentForm.sql, AssignmentForm.spellings]
  cases a.sets with
  | true =>
    have hset : Spells (pieceTokens (.fixed " = ") ++ tokens (setSql n a.column i)) _ :=
      spells_set a.column i
    simpa using hname.append (hset.append (spells_increments a.increments (i + 1)))
  | false =>
    have hkept := hname.append (hequals.append (hname.append (spells_increments a.increments i)))
    simpa using hkept

omit hn in
/-- Texts without placeholders, separated. -/
theorem spells_unbound {α : Type} {sql : α → Sql} (h : ∀ a, Spells (tokens (sql a)) [])
    (as : List α) :
    Spells (tokens (join ", " (as.map sql))) [] := by
  have hitems : List.Forall₂ (fun sql ss => Spells (tokens sql) ss) (as.map sql)
      (as.map fun _ => []) := by
    induction as with
    | nil => exact .nil
    | cons a as ih => exact .cons (h a) ih
  have hjoin := spells_join spells_comma hitems
  rwa [List.flatten_eq_nil_iff.2 fun l hl => (List.mem_map.1 hl).elim fun _ h => h.2.symm] at hjoin

theorem spells_columns (columns : List ν) :
    Spells (tokens (join ", " (columns.map fun c => [n.piece c]))) [] :=
  spells_unbound (fun c => by simpa using spells_column hn c) columns

theorem spells_projection (columns : List ν) : Spells (tokens (projectionSql n columns)) [] := by
  cases columns with
  | nil =>
    have hall : Spells (pieceTokens (.fixed "*")) [] := spells_fixed (by decide) rfl
    exact hall
  | cons c columns => exact spells_columns hn (c :: columns)

theorem spells_order (keys : List (ν × Bool)) : Spells (tokens (orderSql n keys)) [] := by
  have hkeyword : Spells (pieceTokens (.fixed " ORDER BY ")) [] := spells_fixed (by decide) rfl
  have hkey (key : ν × Bool) : Spells (tokens (sortKeySql n key)) [] := by
    have hdirection : Spells (pieceTokens (.fixed (if key.2 then " ASC" else " DESC"))) [] := by
      cases key.2 <;> exact spells_fixed (by decide) rfl
    simpa [sortKeySql] using (spells_column hn key.1).append hdirection
  rw [orderSql, tokens_cons]
  exact hkeyword.append (spells_unbound hkey keys)

/-! ## Forms -/

omit hn in
/-- A statement is opened by fixed text. -/
theorem spellings_opened {text : String} (h : unlike (pieceTokens (.fixed text)) = true)
    {ts : List Token} {ss : List Spelling} (hts : Spells ts ss) :
    Sql.spellings [] (pieceTokens (.fixed text) ++ ts) = ss := by
  have hread := hts.spelled (pieceTokens (.fixed text)) [] (shut_append [] h) uncast_nil
  rw [List.append_nil] at hread
  rw [spellings_append (numbers_fixed text), List.nil_append, hread]
  exact List.append_nil ss

/-- The placeholders of a form are written, in order, as the form has them. -/
theorem Form.spellings_sql (table : ν) (form : Form ν) :
    Sql.spellings [] (tokens (form.sql n (n.piece table))) = form.spellings n.kind := by
  have htable := spells_column hn table
  have hreturning : Spells (pieceTokens (.fixed " RETURNING *")) [] := spells_fixed (by decide) rfl
  cases form with
  | find columns conditions order limit skip =>
    have hfrom : Spells (pieceTokens (.fixed " FROM ")) [] := spells_fixed (by decide) rfl
    have hlimit : Spells (pieceTokens (.fixed " LIMIT ")) [] := spells_fixed (by decide) rfl
    have hoffset : Spells (pieceTokens (.fixed " OFFSET ")) [] := spells_fixed (by decide) rfl
    rw [Form.sql, tokens_cons]
    refine spellings_opened (by decide) ?_
    have hall := (spells_projection hn columns).append (hfrom.append (htable.append
      ((spells_where hn conditions 1).append ((spells_order hn order).append
        ((spells_clause hlimit limit (conditions.length + 1 : Nat)).append
          (spells_clause hoffset skip (conditions.length + limit.toNat + 1 : Nat)))))))
    simpa [Form.spellings] using hall
  | count conditions =>
    rw [Form.sql, tokens_cons, tokens_cons]
    exact spellings_opened (by decide) (htable.append (spells_where hn conditions 1))
  | insert columns =>
    have hopen : Spells (pieceTokens (n.piece table) ++ pieceTokens (.fixed "(")) [] := by
      rw [hn]
      exact spells_text rfl (fun t ht => by cases ht; rfl) rfl
    have hvalues : Spells (pieceTokens (.fixed ") VALUES(")) [] := spells_fixed (by decide) rfl
    have hend : Spells (pieceTokens (.fixed ") RETURNING *")) [] := spells_fixed (by decide) rfl
    have hvalue (c : ν) (i : Int) : Spells (tokens (valueSql n c i)) [(n.kind c).one] :=
      spells_one (n.kind c) i
    have hlist := spells_numbered (fun _ => 1) spells_comma hvalue columns 1
    rw [Form.sql, tokens_cons]
    refine spellings_opened (by decide) ?_
    have hall :=
      hopen.append ((spells_columns hn columns).append (hvalues.append (hlist.append hend)))
    have hones : (columns.map fun c => (n.kind c).one) =
        columns.flatMap fun c => [(n.kind c).one] := List.map_eq_flatMap
    rw [Form.spellings, hones]
    simpa using hall
  | update assignments conditions =>
    have hset : Spells (pieceTokens (.fixed " SET ")) [] := spells_fixed (by decide) rfl
    have hlist := spells_numbered AssignmentForm.arity spells_comma (spells_assignment hn)
      assignments 1
    rw [Form.sql, tokens_cons]
    refine spellings_opened (by decide) ?_
    have hall := htable.append (hset.append (hlist.append
      ((spells_where hn conditions (assignmentsArity assignments + 1 : Nat)).append hreturning)))
    simpa [Form.spellings] using hall
  | delete conditions =>
    rw [Form.sql, tokens_cons]
    refine spellings_opened (by decide) ?_
    have hall := htable.append ((spells_where hn conditions 1).append hreturning)
    simpa [Form.spellings] using hall

end Reading

end DocumentStore
