import DocumentStore.Proofs.Statement.Compiled
import DocumentStore.Schema.Table
import Mathlib.Data.List.DropRight

/-!
# Reading definitions of tables

A reader of the statements that create a table or add a column to one. It works on the tokens of a
text, so a name may hold anything: outside names a bracket opens the list of columns, a comma
outside further brackets divides it, and a column is a name with its declaration behind it. What
`createTable` and `addColumn` write reads back as the columns that they were written for
(`read_createTable`, `read_addColumn`).
-/

set_option autoImplicit false

namespace DocumentStore

open Sql Fallible

open Text (Point)

/-- A column of a table: its name, and how it is declared. -/
structure Column where
  name : List Point
  declaration : List Token
deriving DecidableEq

/-- A statement that creates a table or adds a column to one, each unless it is there already. -/
inductive Ddl where
  | createTable (table : List Point) (columns : List Column)
  | addColumn (table : List Point) (column : Column)

namespace Ddl

/-! ## The reader -/

/-- White space between tokens. -/
def blank : Token → Bool
  | .other (.char c) => c = ' ' || c = '\n'
  | _ => false

/-- The tokens behind a fixed text. -/
def behind? (text : String) (ts : List Token) : Option (List Token) :=
  if (pieceTokens (.fixed text)).isPrefixOf ts then some
    (ts.drop (pieceTokens (.fixed text)).length)
  else none

/-- The depth of brackets behind a token of an item. A comma and a closing bracket outside further
brackets end the item. -/
def depthBehind (depth : Nat) : Token → Option Nat
  | .other (.char c) =>
    if c = '(' then some (depth + 1)
    else if c = ')' then if depth = 0 then none else some (depth - 1)
    else if c = ',' then if depth = 0 then none else some depth
    else some depth
  | _ => some depth

/-- The items up to a closing bracket, and the tokens behind it. -/
def items? (depth : Nat) (item : List Token) :
    List Token → Option (List (List Token) × List Token)
  | [] => none
  | t :: ts =>
    match depthBehind depth t with
    | some depth => items? depth (item ++ [t]) ts
    | none =>
      if t = .other (.char ',') then (items? 0 [] ts).map fun p => (item :: p.1, p.2)
      else some ([item], ts)

/-- A name with a declaration behind it. -/
def column? (ts : List Token) : Option Column :=
  match ts.dropWhile blank with
  | .name n :: rest => some ⟨n, (rest.dropWhile blank).rdropWhile blank⟩
  | _ => none

/-- The columns of a list between brackets that ends the text. -/
def columns? (ts : List Token) : Option (List Column) :=
  match items? 0 [] ts with
  | some (items, rest) => if rest.all blank then items.mapM column? else none
  | none => none

/-- The creation of a table. -/
def createTable? (ts : List Token) : Option Ddl :=
  match behind? "CREATE TABLE IF NOT EXISTS " ts with
  | some (.name table :: ts) =>
    ((behind? " (" ts).bind columns?).map (.createTable table)
  | _ => none

/-- The addition of one column to a table. -/
def addColumn? (ts : List Token) : Option Ddl :=
  match behind? "ALTER TABLE " ts with
  | some (.name table :: ts) =>
    (behind? " ADD COLUMN IF NOT EXISTS " ts).bind fun ts =>
      if ts.foldlM depthBehind 0 = some 0 then (column? ts).map (.addColumn table) else none
  | _ => none

/-- The definition that a text is. -/
def read? (text : List Point) : Option Ddl :=
  (Sql.read text).bind fun ts => (createTable? ts).or (addColumn? ts)

/-! ## Texts that a reader takes apart -/

theorem behind?_append (text : String) (ts : List Token) :
    behind? text (pieceTokens (.fixed text) ++ ts) = some ts := by
  have hprefix : (pieceTokens (.fixed text)).isPrefixOf (pieceTokens (.fixed text) ++ ts) = true :=
    List.isPrefixOf_iff_prefix.2 (List.prefix_append _ _)
  rw [behind?, if_pos hprefix, List.drop_left]

/-- An item goes on over tokens that do not end it. -/
theorem items?_append {ts : List Token} {depth depth' : Nat}
    (h : ts.foldlM depthBehind depth = some depth') (item rest : List Token) :
    items? depth item (ts ++ rest) = items? depth' (item ++ ts) rest := by
  induction ts generalizing depth item with
  | nil =>
    cases h
    rw [List.nil_append, List.append_nil]
  | cons t ts ih =>
    rw [List.foldlM_cons] at h
    -- the depth behind the token tells whether it ends the item
    cases ht : depthBehind depth t with
    | none =>
      rw [ht] at h
      cases h
    | some d =>
      rw [ht] at h
      rw [List.cons_append, items?, ht]
      dsimp only
      rw [ih h, List.append_assoc]
      rfl

/-- A declaration that holds no quotes, ends no item and is not surrounded by white space. -/
structure Neat (declaration : String) : Prop where
  plain : Plain declaration
  closed : (pieceTokens (.fixed declaration)).foldlM depthBehind 0 = some 0
  left : (pieceTokens (.fixed declaration)).dropWhile blank = pieceTokens (.fixed declaration)
  right : (pieceTokens (.fixed declaration)).rdropWhile blank = pieceTokens (.fixed declaration)

/-- A text that declares a column: a name, a space and a neat declaration. -/
def Declares (sql : Sql) (c : Column) : Prop :=
  ∃ v declaration, IsName v ∧ Neat declaration ∧ sql = [pieceOf v, .fixed (" " ++ declaration)] ∧
    c = ⟨v.points, pieceTokens (.fixed declaration)⟩

theorem Declares.tokens_eq {sql : Sql} {c : Column} (h : Declares sql c) :
    tokens sql = .name c.name :: .other (.char ' ') :: c.declaration := by
  obtain ⟨v, declaration, hv, -, rfl, rfl⟩ := h
  rw [tokens_cons, tokens_cons, tokens_nil, List.append_nil]
  have hfixed : pieceTokens (.fixed (" " ++ declaration)) =
      .other (.char ' ') :: pieceTokens (.fixed declaration) := by
    simp [pieceTokens, Text.points]
  rw [hfixed]
  rcases hv.cases with ⟨t, rfl⟩ | ⟨t, rfl⟩
  · rfl
  · rfl

theorem Declares.spaced {sql : Sql} {c : Column} (h : Declares sql c) : Spaced sql := by
  obtain ⟨v, declaration, hv, hneat, rfl, -⟩ := h
  have hplain : Plain (" " ++ declaration) := by
    intro c hc
    rw [String.toList_append, List.mem_append] at hc
    rcases hc with hc | hc
    · exact (show Plain " " by decide) c hc
    · exact hneat.plain c hc
  have hbounded : Bounded (points [.fixed (" " ++ declaration)]) := by
    refine bounded_fixed ?_ []
    rw [opens, String.toList_append]
    rfl
  rcases hv.cases with ⟨t, rfl⟩ | ⟨t, rfl⟩
  · exact ⟨hbounded, hplain, trivial⟩
  · exact ⟨hbounded, hplain, trivial⟩

/-- The declaration of a column does not end an item. -/
theorem Declares.closed {sql : Sql} {c : Column} (h : Declares sql c) :
    (tokens sql).foldlM depthBehind 0 = some 0 := by
  rw [h.tokens_eq]
  obtain ⟨v, declaration, -, hneat, -, rfl⟩ := h
  exact hneat.closed

/-- White space around a declared column is passed over. -/
theorem Declares.column? {sql : Sql} {c : Column} (h : Declares sql c) (before behind : List Token)
    (hbefore : ∀ t ∈ before, blank t = true) (hbehind : ∀ t ∈ behind, blank t = true) :
    column? (before ++ tokens sql ++ behind) = some c := by
  have hname : blank (.name c.name) = false := rfl
  have hspace : blank (.other (.char ' ')) = true := rfl
  have hdrop : (before ++ tokens sql ++ behind).dropWhile blank =
      .name c.name :: .other (.char ' ') :: (c.declaration ++ behind) := by
    rw [List.append_assoc, List.dropWhile_append_of_pos hbefore, h.tokens_eq]
    rw [List.cons_append, List.cons_append, List.dropWhile_cons_of_neg (by rw [hname]; decide)]
  have hdeclaration : ((c.declaration ++ behind).dropWhile blank).rdropWhile blank =
      c.declaration := by
    obtain ⟨v, declaration, -, hneat, -, rfl⟩ := h
    dsimp only
    -- a declaration that is all white space is empty, and then what stands behind it is dropped as
    -- well
    rw [List.dropWhile_append, hneat.left]
    split
    · next hempty =>
      rw [List.isEmpty_iff.1 hempty, List.dropWhile_eq_nil_iff.2 hbehind]
      rfl
    · rw [List.rdropWhile, List.reverse_append,
        List.dropWhile_append_of_pos fun t ht => hbehind t (List.mem_reverse.1 ht)]
      exact hneat.right
  rw [Ddl.column?, hdrop]
  dsimp only
  rw [List.dropWhile_cons_of_pos hspace, hdeclaration]

theorem spaced_of_declares {sqls : List Sql} {columns : List Column}
    (h : List.Forall₂ Declares sqls columns) : ∀ sql ∈ sqls, Spaced sql := by
  induction h with
  | nil => exact fun sql hsql => absurd hsql List.not_mem_nil
  | cons hsql _ ih => exact List.forall_mem_cons.2 ⟨hsql.spaced, ih⟩

/-- Declared columns that are listed up to a closing bracket are read in order. -/
theorem items?_join {sqls : List Sql} {columns : List Column}
    (h : List.Forall₂ Declares sqls columns) (hne : sqls ≠ []) {before : List Token}
    (hbefore : ∀ t ∈ before, blank t = true) :
    ∃ items, items? 0 before (tokens (join ",\n  " sqls) ++ pieceTokens (.fixed "\n)")) =
        some (items, []) ∧
      items.mapM Ddl.column? = some columns := by
  -- by induction on the columns, with any white space before the first of them
  induction h generalizing before with
  | nil => exact absurd rfl hne
  | @cons sql c sqls columns hsql hrest ih =>
    have hlast : ∀ t ∈ [Token.other (.char '\n')], blank t = true := by decide
    cases sqls with
    | nil =>
      cases hrest
      refine ⟨[before ++ tokens sql ++ [.other (.char '\n')]], ?_, ?_⟩
      · rw [join, items?_append hsql.closed]
        rfl
      · rw [List.mapM_cons, hsql.column? _ _ hbefore hlast]
        rfl
    | cons sql' sqls =>
      -- behind the comma the next item begins with a line break and two spaces
      have hgap : ∀ t ∈ pieceTokens (.fixed "\n  "), blank t = true := by decide
      obtain ⟨items, hitems, hcolumns⟩ := ih (List.cons_ne_nil _ _) hgap
      refine ⟨(before ++ tokens sql) :: items, ?_, ?_⟩
      · have hjoin : join ",\n  " (sql :: sql' :: sqls) =
            sql ++ .fixed ",\n  " :: join ",\n  " (sql' :: sqls) := rfl
        have hseparator : pieceTokens (.fixed ",\n  ") =
            .other (.char ',') :: pieceTokens (.fixed "\n  ") := rfl
        have hclosed : (pieceTokens (.fixed "\n  ")).foldlM depthBehind 0 = some 0 := by decide
        rw [hjoin, tokens_append, tokens_cons, hseparator, List.append_assoc,
          items?_append hsql.closed, List.cons_append, List.cons_append, items?]
        show Option.map _ (items? 0 [] _) = _
        rw [List.append_assoc, items?_append hclosed, List.nil_append, hitems]
        rfl
      · have hcolumn := hsql.column? before [] hbefore (by decide)
        rw [List.append_nil] at hcolumn
        rw [List.mapM_cons, hcolumn, hcolumns]
        rfl

end Ddl

/-! ## What is written -/

/-- How the column of a field is declared: its type, and whether it may be null. -/
def FieldType.declaration (t : FieldType) (required : Bool) : String :=
  t.columnType ++ (if required then " NOT NULL" else " NULL")

/-- The column of a field. -/
def FieldDefinition.declared (d : FieldDefinition) : Column :=
  ⟨d.name.points, pieceTokens (.fixed ((d.fieldType.map (·.declaration d.required)).getD ""))⟩

/-- A bookkeeping column. -/
def systemColumn (c : String × String) : Column := ⟨Text.points c.1, pieceTokens (.fixed c.2)⟩

/-- The columns of a table that is created from a schema. -/
def FieldSchema.tableColumns (s : FieldSchema) : List Column :=
  systemColumns.map systemColumn ++ s.userFields.map (·.declared)

theorem FieldType.neat_declaration (t : FieldType) (required : Bool) :
    Ddl.Neat (t.declaration required) := by
  cases t <;> cases required <;> exact ⟨by decide, by decide, by decide, by decide⟩

theorem declares_column {d : FieldDefinition} {sql : Sql} (h : d.column = .ok sql) :
    Ddl.Declares sql d.declared := by
  obtain ⟨p, hp, h⟩ := bind_eq_ok.1 h
  obtain ⟨hname, rfl⟩ := nameOf_eq_ok.1 hp
  obtain ⟨type, htype, h⟩ := bind_eq_ok.1 h
  unfold FieldDefinition.columnType at htype
  cases hfield : d.fieldType with
  | none =>
    rw [hfield] at htype
    cases htype
  | some t =>
    rw [hfield] at htype
    cases htype
    cases h
    refine ⟨d.name, t.declaration d.required, hname, t.neat_declaration d.required, ?_, ?_⟩
    · rw [String.append_assoc]
      rfl
    · rw [FieldDefinition.declared, hfield]
      rfl

theorem declares_systemColumns :
    List.Forall₂ Ddl.Declares systemColumnDefinitions (systemColumns.map systemColumn) := by
  have hneat : ∀ c ∈ systemColumns, IsName (.text c.1) ∧ Ddl.Neat c.2 := by
    intro c hc
    simp only [systemColumns, List.mem_cons, List.not_mem_nil, or_false] at hc
    rcases hc with rfl | rfl | rfl | rfl | rfl | rfl | rfl | rfl <;>
      exact ⟨rfl, by decide, by decide, by decide, by decide⟩
  rw [systemColumnDefinitions, List.forall₂_map_left_iff, List.forall₂_map_right_iff,
    List.forall₂_same]
  intro c hc
  obtain ⟨hname, htext⟩ := hneat c hc
  exact ⟨.text c.1, c.2, hname, htext, rfl, rfl⟩

/-! ## Written definitions read back -/

theorem tokens_name {v : Value} (h : IsName v) : pieceTokens (pieceOf v) = [.name v.points] := by
  rcases h.cases with ⟨t, rfl⟩ | ⟨t, rfl⟩
  · rfl
  · rfl

theorem spaced_name {v : Value} (h : IsName v) {rest : Sql} (hrest : Spaced rest)
    (hbounded : Bounded (points rest)) : Spaced (pieceOf v :: rest) := by
  rcases h.cases with ⟨t, rfl⟩ | ⟨t, rfl⟩
  · exact ⟨hbounded, hrest⟩
  · exact ⟨hbounded, hrest⟩

/-- The statement that creates a table reads back as the table and its columns. -/
theorem read_createTable {table : Value} {s : FieldSchema} {sql : Sql}
    (h : createTable table s = .ok sql) :
    Ddl.read? (points sql) = some (.createTable table.points s.tableColumns) := by
  obtain ⟨declared, hdeclared, h⟩ := bind_eq_ok.1 h
  obtain ⟨p, hp, h⟩ := bind_eq_ok.1 h
  obtain ⟨hname, rfl⟩ := nameOf_eq_ok.1 hp
  cases h
  have hcolumns :
      List.Forall₂ Ddl.Declares (systemColumnDefinitions ++ declared) s.tableColumns := by
    refine List.rel_append declares_systemColumns ?_
    rw [List.forall₂_map_right_iff]
    exact ((mapM_eq_ok.1 hdeclared).imp fun d sql hsql => declares_column hsql).flip
  have hne : systemColumnDefinitions ++ declared ≠ [] :=
    List.append_ne_nil_of_left_ne_nil (by decide) declared
  generalize systemColumnDefinitions ++ declared = definitions at hcolumns hne ⊢
  -- the text can be cut into the tokens of its pieces
  have hspaced : Spaced ([.fixed "CREATE TABLE IF NOT EXISTS ", pieceOf table, .fixed " (\n  "] ++
      join ",\n  " definitions ++ [.fixed "\n)"]) := by
    have hjoin := spaced_join (show Plain ",\n  " by decide) (by decide) _
      (Ddl.spaced_of_declares hcolumns)
    have hclosing : Spaced [.fixed "\n)"] := ⟨by decide, trivial⟩
    have hopening :
        Spaced ([.fixed "CREATE TABLE IF NOT EXISTS ", pieceOf table, .fixed " (\n  "] ++
        join ",\n  " definitions) :=
      ⟨by decide, spaced_name hname ⟨by decide, hjoin⟩ (bounded_fixed (by decide) _)⟩
    exact spaced_append hopening hclosing (bounded_fixed (by decide) [])
  have hgap : ∀ t ∈ pieceTokens (.fixed "\n  "), Ddl.blank t = true := by decide
  have hclosed : (pieceTokens (.fixed "\n  ")).foldlM Ddl.depthBehind 0 = some 0 := by decide
  obtain ⟨items, hitems, hread⟩ := Ddl.items?_join hcolumns hne hgap
  -- what stands between the brackets is read as the columns
  have hcolumns? : Ddl.columns? (pieceTokens (.fixed "\n  ") ++
      (tokens (join ",\n  " definitions) ++ pieceTokens (.fixed "\n)"))) = some s.tableColumns := by
    rw [Ddl.columns?, Ddl.items?_append hclosed, List.nil_append, hitems]
    exact hread
  -- behind the bracket that opens the list stands a line break
  have hbracket : pieceTokens (.fixed " (\n  ") =
      pieceTokens (.fixed " (") ++ pieceTokens (.fixed "\n  ") := rfl
  rw [Ddl.read?, read_points hspaced]
  have htokens : tokens ([.fixed "CREATE TABLE IF NOT EXISTS ", pieceOf table, .fixed " (\n  "] ++
      join ",\n  " definitions ++ [.fixed "\n)"]) =
      pieceTokens (.fixed "CREATE TABLE IF NOT EXISTS ") ++ .name table.points ::
        (pieceTokens (.fixed " (") ++ (pieceTokens (.fixed "\n  ") ++
          (tokens (join ",\n  " definitions) ++ pieceTokens (.fixed "\n)")))) := by
    simp [tokens_name hname, hbracket]
  have hcreate : Ddl.createTable? (tokens ([.fixed "CREATE TABLE IF NOT EXISTS ", pieceOf table,
      .fixed " (\n  "] ++ join ",\n  " definitions ++ [.fixed "\n)"])) =
      some (.createTable table.points s.tableColumns) := by
    rw [htokens, Ddl.createTable?, Ddl.behind?_append]
    dsimp only
    rw [Ddl.behind?_append, Option.bind_some, hcolumns?]
    rfl
  rw [Option.bind_some, hcreate]
  rfl

/-- The statement that adds the column of a field reads back as the table and the column. -/
theorem read_addColumn {table : Value} {d : FieldDefinition} {sql : Sql}
    (h : addColumn table d = .ok sql) :
    Ddl.read? (points sql) = some (.addColumn table.points d.declared) := by
  obtain ⟨p, hp, h⟩ := bind_eq_ok.1 h
  obtain ⟨hname, rfl⟩ := nameOf_eq_ok.1 hp
  obtain ⟨column, hcolumn, h⟩ := bind_eq_ok.1 h
  cases h
  have hdeclares := declares_column hcolumn
  have hspaced : Spaced ([.fixed "ALTER TABLE ", pieceOf table,
      .fixed " ADD COLUMN IF NOT EXISTS "] ++ column) :=
    ⟨by decide, spaced_name hname ⟨by decide, hdeclares.spaced⟩ (bounded_fixed (by decide) _)⟩
  have htokens : tokens ([.fixed "ALTER TABLE ", pieceOf table,
      .fixed " ADD COLUMN IF NOT EXISTS "] ++ column) =
      pieceTokens (.fixed "ALTER TABLE ") ++ .name table.points ::
        (pieceTokens (.fixed " ADD COLUMN IF NOT EXISTS ") ++ tokens column) := by
    simp [tokens_name hname]
  -- the text does not open as the creation of a table does
  have hcreate : Ddl.createTable? (tokens ([.fixed "ALTER TABLE ", pieceOf table,
      .fixed " ADD COLUMN IF NOT EXISTS "] ++ column)) = none := by
    rw [htokens]
    rfl
  have hcolumn? : Ddl.column? (tokens column) = some d.declared := by
    have hread := hdeclares.column? [] [] (by decide) (by decide)
    rwa [List.nil_append, List.append_nil] at hread
  rw [Ddl.read?, read_points hspaced, Option.bind_some, hcreate, Option.none_or, htokens,
    Ddl.addColumn?, Ddl.behind?_append]
  dsimp only
  rw [Ddl.behind?_append, Option.bind_some, if_pos hdeclares.closed, hcolumn?]
  rfl

end DocumentStore
