import DocumentStore.Proofs.Catalog.Ddl
import DocumentStore.Proofs.Statement.FormRoles

/-!
# Reading what an UPDATE assigns

A reader of the SET list of an UPDATE. It works on the tokens of a text without the white space
between them, so a name may hold anything: commas divide the list, an item is a name, an equals sign
and a sum, and plus signs divide the sum. A term of a sum is a column, or a parameter with the text
around it that says how it is bound. What an UPDATE is written for reads back as the items of its
form (`read?_update`).
-/

set_option autoImplicit false

namespace DocumentStore

open Sql
open Text (Point)

namespace SetList

/-- A term of a sum: what a row holds in a column, or a parameter that is bound in the way of a
kind. -/
inductive Term where
  | column (name : List Point)
  | parameter (kind : ColumnKind) (number : Int)
deriving DecidableEq

/-- What a column is assigned: a sum of terms. -/
structure Item where
  target : List Point
  terms : List Term
deriving DecidableEq

/-! ## The reader -/

/-- The tokens that are no white space. -/
def bare (ts : List Token) : List Token := ts.filter fun t => !Ddl.blank t

/-- A term: a column, a placeholder with or without a cast, or a placeholder of seconds. -/
def term? : List Token → Option Term
  | [.name n] => some (.column n)
  | .placeholder i :: cast =>
    if cast = [] then some (.parameter .plain i)
    else if cast = pieceTokens (.fixed "::text::timestamp") then some (.parameter .dateTime i)
    else none
  | ts =>
    match Ddl.behind? "to_timestamp(" ts with
    | some [.placeholder i, .other (.char ')')] => some (.parameter .timestamp i)
    | _ => none

/-- An item: a name, an equals sign and a sum. -/
def item? : List Token → Option Item
  | .name n :: .other (.char '=') :: sum =>
    ((sum.splitOn (.other (.char '+'))).mapM term?).map fun terms => ⟨n, terms⟩
  | _ => none

/-- The tokens up to the first of some words. -/
def upTo (words : List String) : List Token → List Token
  | [] => []
  | t :: ts =>
    if words.any fun word => (Ddl.behind? word (t :: ts)).isSome then [] else t :: upTo words ts

/-- The items of an UPDATE's SET list. -/
def read? (ts : List Token) : Option (List Item) :=
  match Ddl.behind? "UPDATE" (bare ts) with
  | some (.name _ :: ts) =>
    (Ddl.behind? "SET" ts).bind fun ts =>
      ((upTo ["WHERE", "RETURNING"] ts).splitOn (.other (.char ','))).mapM item?
  | _ => none

/-! ## Terms and items as they are written -/

/-- The tokens of a term. -/
def Term.tokens : Term → List Token
  | .column n => [.name n]
  | .parameter .plain i => [.placeholder i]
  | .parameter .dateTime i => .placeholder i :: pieceTokens (.fixed "::text::timestamp")
  | .parameter .timestamp i =>
    pieceTokens (.fixed "to_timestamp(") ++ [.placeholder i, .other (.char ')')]

/-- The tokens of an item. -/
def Item.tokens (item : Item) : List Token :=
  .name item.target :: .other (.char '=') ::
    [.other (.char '+')].intercalate (item.terms.map Term.tokens)

/-- The signs and capital letters that divide an UPDATE. -/
def dividers : List Token := ['+', ',', 'W', 'R'].map fun c => .other (.char c)

theorem term?_tokens (t : Term) : term? t.tokens = some t := by
  cases t with
  | column n => rfl
  | parameter kind i => cases kind <;> rfl

/-- Nothing in a term divides an UPDATE. -/
theorem divider_not_mem_term {d : Token} (hd : d ∈ dividers) (t : Term) : d ∉ t.tokens := by
  have hplaceholder (i : Int) : d ≠ .placeholder i := by
    rintro rfl
    exact absurd hd (by simp [dividers])
  have hname (n : List Point) : d ≠ .name n := by
    rintro rfl
    exact absurd hd (by simp [dividers])
  have hcast : ∀ d ∈ dividers, d ∉ pieceTokens (.fixed "::text::timestamp") := by decide
  have hseconds : ∀ d ∈ dividers, d ∉ pieceTokens (.fixed "to_timestamp(") := by decide
  have hclose : ∀ d ∈ dividers, d ≠ .other (.char ')') := by decide
  cases t with
  | column n => simp [Term.tokens, hname]
  | parameter kind i =>
    cases kind with
    | timestamp => simp [Term.tokens, hplaceholder, hseconds d hd, hclose d hd]
    | dateTime => simp [Term.tokens, hplaceholder, hcast d hd]
    | plain => simp [Term.tokens, hplaceholder]

theorem mem_intercalate {α : Type} {sep : α} {ls : List (List α)} {x : α}
    (h : x ∈ [sep].intercalate ls) : x = sep ∨ ∃ l ∈ ls, x ∈ l := by
  induction ls with
  | nil => exact absurd h List.not_mem_nil
  | cons l ls ih =>
    cases ls with
    | nil => exact .inr ⟨l, List.mem_singleton.2 rfl, by simpa [List.intercalate] using h⟩
    | cons k ls =>
      have hcons : [sep].intercalate (l :: k :: ls) = l ++ sep :: [sep].intercalate (k :: ls) := by
        simp [List.intercalate]
      rw [hcons, List.mem_append, List.mem_cons] at h
      rcases h with h | h | h
      · exact .inr ⟨l, List.mem_cons_self, h⟩
      · exact .inl h
      · rcases ih h with h | ⟨m, hm, hx⟩
        · exact .inl h
        · exact .inr ⟨m, List.mem_cons_of_mem l hm, hx⟩

/-- A plus sign apart, nothing in an item divides an UPDATE. -/
theorem divider_not_mem_item {d : Token} (hd : d ∈ dividers) (hplus : d ≠ .other (.char '+'))
    (item : Item) : d ∉ item.tokens := by
  have hname : d ≠ .name item.target := by
    rintro rfl
    exact absurd hd (by simp [dividers])
  have hequals : ∀ d ∈ dividers, d ≠ .other (.char '=') := by decide
  intro hmem
  rw [Item.tokens, List.mem_cons, List.mem_cons] at hmem
  rcases hmem with h | h | h
  · exact hname h
  · exact hequals d hd h
  · rcases mem_intercalate h with h | ⟨l, hl, hdl⟩
    · exact hplus h
    · obtain ⟨t, -, rfl⟩ := List.mem_map.1 hl
      exact divider_not_mem_term hd t hdl

/-- What is written item by item reads back item by item. -/
theorem mapM_map_some {α β : Type} {f : β → Option α} {g : α → β} {as : List α}
    (h : ∀ a ∈ as, f (g a) = some a) : (as.map g).mapM f = some as := by
  induction as with
  | nil => rfl
  | cons a as ih =>
    obtain ⟨ha, has⟩ := List.forall_mem_cons.1 h
    simp [ha, ih has]

theorem item?_tokens {item : Item} (hterms : item.terms ≠ []) : item? item.tokens = some item := by
  have hsplit : ([.other (.char '+')].intercalate (item.terms.map Term.tokens)).splitOn
      (.other (.char '+')) = item.terms.map Term.tokens := by
    refine List.splitOn_intercalate _ (fun l hl => ?_) (by simpa using hterms)
    obtain ⟨t, -, rfl⟩ := List.mem_map.1 hl
    exact divider_not_mem_term (by decide) t
  show (((([.other (.char '+')].intercalate (item.terms.map Term.tokens)).splitOn
    (.other (.char '+'))).mapM term?).map fun terms => Item.mk item.target terms) = some item
  rw [hsplit, mapM_map_some fun t _ => term?_tokens t]
  rfl

/-! ## The text around a SET list -/

/-- No word is found in tokens that do not hold its first character. -/
theorem upTo_append {words : List String} {ts : List Token}
    (h : ∀ t ∈ ts, ∀ word ∈ words, (pieceTokens (.fixed word)).head? ≠ some t ∧ word ≠ "")
    (rest : List Token) : upTo words (ts ++ rest) = ts ++ upTo words rest := by
  induction ts with
  | nil => rfl
  | cons t ts ih =>
    obtain ⟨ht, hts⟩ := List.forall_mem_cons.1 h
    have hnone : (words.any fun word => (Ddl.behind? word (t :: (ts ++ rest))).isSome) = false := by
      rw [List.any_eq_false]
      intro word hword hsome
      obtain ⟨hhead, hne⟩ := ht word hword
      rw [Ddl.behind?] at hsome
      split at hsome
      · next hprefix =>
        have hpoints : pieceTokens (.fixed word) ≠ [] := by
          simpa [pieceTokens, Text.points] using hne
        obtain ⟨first, others, hfirst⟩ := List.exists_cons_of_ne_nil hpoints
        rw [hfirst, List.isPrefixOf_cons_cons, Bool.and_eq_true, beq_iff_eq] at hprefix
        rw [hfirst, List.head?_cons, hprefix.1] at hhead
        exact hhead rfl
      · cases hsome
    rw [List.cons_append, upTo, hnone, if_neg Bool.false_ne_true, ih hts, List.cons_append]

/-- Items are not taken for the clauses behind them: none holds the first letter of a word that
opens one. -/
theorem upTo_items (items : List Item) (rest : List Token) :
    upTo ["WHERE", "RETURNING"] ([.other (.char ',')].intercalate (items.map Item.tokens) ++ rest) =
      [.other (.char ',')].intercalate (items.map Item.tokens) ++
        upTo ["WHERE", "RETURNING"] rest := by
  have hwords : ∀ word ∈ ["WHERE", "RETURNING"], word ≠ "" ∧
      ∃ d ∈ dividers, (pieceTokens (.fixed word)).head? = some d ∧
        d ≠ .other (.char '+') ∧ d ≠ .other (.char ',') := by decide
  refine upTo_append (fun t ht word hword => ?_) rest
  obtain ⟨hne, d, hd, hhead, hplus, hcomma⟩ := hwords word hword
  refine ⟨fun h => ?_, hne⟩
  obtain rfl : d = t := Option.some.inj (hhead.symm.trans h)
  rcases mem_intercalate ht with h | ⟨l, hl, hdl⟩
  · exact hcomma h
  · obtain ⟨item, -, rfl⟩ := List.mem_map.1 hl
    exact divider_not_mem_item hd hplus item hdl

/-- Commas divide items, and nothing else does. -/
theorem splitOn_items {items : List Item} (hitems : items ≠ []) :
    ([.other (.char ',')].intercalate (items.map Item.tokens)).splitOn (.other (.char ',')) =
      items.map Item.tokens := by
  refine List.splitOn_intercalate _ (fun l hl => ?_) fun h => hitems (List.map_eq_nil_iff.1 h)
  obtain ⟨item, -, rfl⟩ := List.mem_map.1 hl
  exact divider_not_mem_item (by decide) (by decide) item

theorem bare_append (a b : List Token) : bare (a ++ b) = bare a ++ bare b := List.filter_append _ _

/-- What stands around separated texts are the separators. -/
theorem bare_join (sqls : List Sql) :
    bare (tokens (join ", " sqls)) =
      [.other (.char ',')].intercalate (sqls.map fun sql => bare (tokens sql)) := by
  fun_induction join ", " sqls with
  | case1 => rfl
  | case2 sql => simp [List.intercalate]
  | case3 sql rest hne ih =>
    obtain ⟨next, others, rfl⟩ := List.exists_cons_of_ne_nil fun h => hne h
    have hcomma : bare (pieceTokens (.fixed ", ")) = [.other (.char ',')] := by decide
    rw [tokens_append, tokens_cons, bare_append, bare_append, hcomma, ih]
    simp [List.intercalate]

end SetList

/-! ## Forms -/

open SetList

section Reading

variable {ν : Type} (label : ν → List Point) (n : Naming ν)

/-- Values that are added, numbered from an index on. -/
def addedTerms (k : Nat) (i : Int) : List Term := (upFrom i k).map (.parameter .plain)

/-- The item of an assignment, numbered from an index on. -/
def AssignmentForm.item (a : AssignmentForm ν) (i : Int) : Item :=
  ⟨label a.column,
    if a.sets then .parameter (n.kind a.column) i :: addedTerms a.increments (i + 1)
    else .column (label a.column) :: addedTerms a.increments i⟩

/-- The items of assignments, numbered from an index on. -/
def itemsFrom : List (AssignmentForm ν) → Int → List Item
  | [], _ => []
  | a :: as, i => a.item label n i :: itemsFrom as (i + a.arity)

variable {label n} (hn : ∀ c, pieceTokens (n.piece c) = [.name (label c)])

/-- A sum has a first term. -/
theorem terms_ne_nil_of_mem {as : List (AssignmentForm ν)} {i : Int} {item : Item}
    (h : item ∈ itemsFrom label n as i) : item.terms ≠ [] := by
  induction as generalizing i with
  | nil => exact absurd h List.not_mem_nil
  | cons a as ih =>
    rcases List.mem_cons.1 h with rfl | h
    · rw [AssignmentForm.item]
      cases a.sets <;> simp
    · exact ih h

/-- Values that are added stand behind a first term. -/
theorem bare_increments (t : Term) (k : Nat) (i : Int) :
    t.tokens ++ bare (tokens (incrementsSql k i)) =
      [.other (.char '+')].intercalate ((t :: addedTerms k i).map Term.tokens) := by
  induction k generalizing t i with
  | zero => simp [incrementsSql, bare, addedTerms, List.intercalate]
  | succ k ih =>
    have hplus : bare (pieceTokens (.fixed " + ")) = [.other (.char '+')] := by decide
    have hnumber : bare (pieceTokens (.placeholder i)) = (Term.parameter .plain i).tokens := rfl
    have hadded : addedTerms (k + 1) i = .parameter .plain i :: addedTerms k (i + 1) := by
      rw [addedTerms, upFrom_succ]
      rfl
    rw [incrementsSql, tokens_cons, tokens_cons, bare_append, bare_append, hplus,
      hnumber, ih, hadded]
    simp [List.intercalate]

/-- A value that is set is a parameter of the kind of its column. -/
theorem bare_set (column : ν) (i : Int) :
    bare (tokens (setSql n column i)) = (Term.parameter (n.kind column) i).tokens := by
  rw [setSql]
  cases n.kind column with
  | timestamp => rfl
  | dateTime => rfl
  | plain => rfl

include hn

/-- An assignment is written as its item. -/
theorem bare_assignment (a : AssignmentForm ν) (i : Int) :
    bare (tokens (a.sql n i)) = (a.item label n i).tokens := by
  have hname : bare (tokens [n.piece a.column, .fixed " = "]) =
      [.name (label a.column), .other (.char '=')] := by
    rw [tokens_cons, hn]
    rfl
  rw [AssignmentForm.sql, tokens_append, bare_append, hname, AssignmentForm.item, Item.tokens]
  cases a.sets with
  | true =>
    rw [if_pos rfl, tokens_append, bare_append, bare_set, bare_increments]
    rfl
  | false =>
    have hcolumn : bare (pieceTokens (n.piece a.column)) =
        (Term.column (label a.column)).tokens := by
      rw [hn]
      rfl
    rw [if_neg Bool.false_ne_true, tokens_cons, bare_append, hcolumn, bare_increments]
    rfl

/-- Assignments are written as their items. -/
theorem bare_assignments (as : List (AssignmentForm ν)) (i : Int) :
    bare (tokens (join ", " (numbered AssignmentForm.arity (AssignmentForm.sql n) as i))) =
      [.other (.char ',')].intercalate ((itemsFrom label n as i).map Item.tokens) := by
  rw [bare_join]
  congr 1
  induction as generalizing i with
  | nil => rfl
  | cons a as ih => rw [numbered, List.map_cons, bare_assignment hn, ih, itemsFrom, List.map_cons]

/-- The SET list of an UPDATE reads back as the items of what it assigns. -/
theorem read?_update (table : ν) {assignments : List (AssignmentForm ν)}
    (hassigns : assignments ≠ []) (conditions : List (ConditionForm ν)) :
    SetList.read? (tokens ((Form.update assignments conditions).sql n (n.piece table))) =
      some (itemsFrom label n assignments 1) := by
  let items := itemsFrom label n assignments 1
  let list := [Token.other (.char ',')].intercalate (items.map Item.tokens)
  let behind := bare (tokens (whereSql n conditions (assignmentsArity assignments + 1 : Nat) ++
    [.fixed " RETURNING *"]))
  have hbare : bare (tokens ((Form.update assignments conditions).sql n (n.piece table))) =
      pieceTokens (.fixed "UPDATE") ++ .name (label table) ::
        (pieceTokens (.fixed "SET") ++ (list ++ behind)) := by
    have hopen : bare (pieceTokens (.fixed "UPDATE ")) = pieceTokens (.fixed "UPDATE") := by decide
    have hset : bare (pieceTokens (.fixed " SET ")) = pieceTokens (.fixed "SET") := by decide
    simp only [Form.sql, tokens_cons, tokens_append, bare_append, hn, hopen, hset,
      bare_assignments hn]
    simp only [behind, tokens_append, bare_append]
    rfl
  have hend : upTo ["WHERE", "RETURNING"] behind = [] := by
    cases conditions with
    | nil => rfl
    | cons c conditions => rfl
  have hsome : items ≠ [] := by
    obtain ⟨a, as, rfl⟩ := List.exists_cons_of_ne_nil hassigns
    exact List.cons_ne_nil _ _
  have hitems : (items.map Item.tokens).mapM item? = some items :=
    mapM_map_some fun item hitem => item?_tokens (terms_ne_nil_of_mem hitem)
  rw [SetList.read?, hbare, Ddl.behind?_append]
  dsimp only
  rw [Ddl.behind?_append, Option.bind_some, upTo_items, hend, List.append_nil, splitOn_items hsome,
    hitems]

end Reading

end DocumentStore
