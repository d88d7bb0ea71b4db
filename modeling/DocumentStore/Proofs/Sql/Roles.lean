import DocumentStore.Proofs.Sql.Reading
import Mathlib.Data.List.Find

/-!
# What placeholders stand for

A second reader goes over the tokens of a statement and tells, for each placeholder, what stands
next to it: the operand of a condition, the value of a column, an increment of a column, the limit,
or the rows to skip. It knows the clause that it is in by the keyword that was last read outside
names, the name that was read last, and the names that are listed in brackets and wait for their
values. It does not look at the numbers of the placeholders.
-/

set_option autoImplicit false

namespace DocumentStore.Sql

open Text (Point)

/-! ## The reader -/

/-- What a placeholder stands for. -/
inductive Role where
  | operand (column comparison : List Point)
  | value (column : List Point)
  | increment (column : List Point)
  | limit
  | skip
deriving DecidableEq, Repr

/-- The clauses of statements: the one before any keyword, and those in which placeholders stand. -/
inductive Clause where
  | opening
  | values
  | set
  | restriction
  | limit
  | skip
deriving DecidableEq, Repr

/-- The texts that open clauses. -/
def Clause.openings : List (String × Clause) :=
  [(") VALUES(", .values), (" SET ", .set), (" WHERE ", .restriction), (" LIMIT ", .limit),
   (" OFFSET ", .skip)]

/-- The clause behind a text, when a clause comes before it. -/
def Clause.behind (clause : Clause) (text : List Point) : Clause :=
  match openings.find? fun e => (Text.points e.1).isSuffixOf text with
  | some e => e.2
  | none => clause

/-- Where the reader stands: its clause, the names that are listed in brackets, the last name, and
the text since the last name or placeholder. -/
structure Site where
  clause : Clause
  listed : List (List Point)
  column : List Point
  text : List Point

namespace Site

/-- The clause at the end of the text that was read. -/
def current (s : Site) : Clause := s.clause.behind s.text

/-- Behind a name: the first in brackets begins a list, any other is listed behind the names before
it. -/
def onName (s : Site) (name : List Point) : Site :=
  ⟨s.current, if (Text.points "(").isSuffixOf s.text then [name] else s.listed ++ [name], name, []⟩

/-- What a placeholder stands for. Behind a plus sign a value is added. -/
def role (s : Site) : Role :=
  match s.current with
  | .values => .value (s.listed.headD [])
  | .set => if (Text.points " + ").isSuffixOf s.text then .increment s.column else .value s.column
  | .limit => .limit
  | .skip => .skip
  | _ => .operand s.column s.text

/-- Behind a placeholder: a listed name has its value. -/
def onPlaceholder (s : Site) : Site :=
  ⟨s.current, if s.current = .values then s.listed.tail else s.listed, s.column, []⟩

/-- Takes one token. -/
def next (s : Site) : Token → Site
  | .name n => s.onName n
  | .placeholder _ => s.onPlaceholder
  | .other p => ⟨s.clause, s.listed, s.column, s.text ++ [p]⟩

/-- What a token stands for, when it is a placeholder. -/
def told (s : Site) : Token → List Role
  | .placeholder _ => [s.role]
  | _ => []

/-- Where the reader stands behind tokens. -/
def after (s : Site) (ts : List Token) : Site := ts.foldl next s

/-- What the placeholders among tokens stand for. -/
def roles : Site → List Token → List Role
  | _, [] => []
  | s, t :: ts => s.told t ++ roles (s.next t) ts

/-- The start of a text. -/
def start : Site := ⟨.opening, [], [], []⟩

end Site

/-- What the placeholders of a text stand for, in order. -/
def roles (ts : List Token) : List Role := Site.start.roles ts

/-! ## One piece after the other -/

namespace Site

@[simp] theorem after_nil (s : Site) : s.after [] = s := rfl

@[simp] theorem after_append (s : Site) (a b : List Token) :
    s.after (a ++ b) = (s.after a).after b := List.foldl_append

@[simp] theorem roles_nil (s : Site) : s.roles [] = [] := rfl

@[simp] theorem roles_append (s : Site) (a b : List Token) :
    s.roles (a ++ b) = s.roles a ++ (s.after a).roles b := by
  induction a generalizing s with
  | nil => rfl
  | cons t a ih =>
    rw [List.cons_append, roles, roles, ih, List.append_assoc]
    rfl

/-- Only placeholders stand for something. -/
theorem roles_eq_nil (s : Site) {ts : List Token} (h : numbers ts = []) : s.roles ts = [] := by
  induction ts generalizing s with
  | nil => rfl
  | cons t ts ih =>
    cases t with
    | placeholder n => cases h
    | name n => exact ih (s.onName n) h
    | other p => exact ih _ h

@[simp] theorem roles_fixed (s : Site) (text : String) : s.roles (pieceTokens (.fixed text)) = [] :=
  s.roles_eq_nil (numbers_fixed text)

@[simp] theorem roles_placeholder (s : Site) (n : Int) :
    s.roles (pieceTokens (.placeholder n)) = [s.role] := rfl

@[simp] theorem after_placeholder (s : Site) (n : Int) :
    s.after (pieceTokens (.placeholder n)) = s.onPlaceholder := rfl

@[simp] theorem clause_onPlaceholder (s : Site) : s.onPlaceholder.clause = s.current := rfl

/-- Fixed text is put behind the text that was read. -/
@[simp] theorem after_fixed (s : Site) (text : String) :
    s.after (pieceTokens (.fixed text)) =
      ⟨s.clause, s.listed, s.column, s.text ++ Text.points text⟩ := by
  -- one code point after the other, whatever was read before
  have hrun (ps : List Point) (t : List Point) :
      after ⟨s.clause, s.listed, s.column, t⟩ (ps.map .other) =
        ⟨s.clause, s.listed, s.column, t ++ ps⟩ := by
    induction ps generalizing t with
    | nil =>
      rw [List.append_nil]
      rfl
    | cons p ps ih =>
      have hrest := ih (t ++ [p])
      rw [List.append_assoc] at hrest
      exact hrest
  exact hrun (Text.points text) s.text

end Site

/-! ## Clauses -/

/-- A text that is not the end of any opening of a clause, unless it is all of it. What was read
before such a text does not matter. -/
def Settled (text : String) : Prop :=
  ∀ e ∈ Clause.openings,
    (Text.points text).isSuffixOf (Text.points e.1) = true → Text.points text = Text.points e.1

instance (text : String) : Decidable (Settled text) :=
  inferInstanceAs (Decidable (∀ e ∈ Clause.openings,
    (Text.points text).isSuffixOf (Text.points e.1) = true → Text.points text = Text.points e.1))

/-- The clause behind a settled text is the same whatever was read before. -/
theorem Clause.behind_append {text : String} (h : Settled text) (clause : Clause)
    (before : List Point) :
    clause.behind (before ++ Text.points text) = clause.behind (Text.points text) := by
  have hsuffix : ∀ e ∈ openings, (Text.points e.1).isSuffixOf (before ++ Text.points text) =
      (Text.points e.1).isSuffixOf (Text.points text) := by
    intro e he
    rw [Bool.eq_iff_iff, List.isSuffixOf_iff_suffix, List.isSuffixOf_iff_suffix]
    constructor
    · intro hopening
      -- two ends of one text: one of them is the end of the other
      rcases List.suffix_or_suffix_of_suffix hopening (List.suffix_append before _) with hle | hle
      · exact hle
      · have hsame := h e he (List.isSuffixOf_iff_suffix.2 hle)
        exact hsame ▸ List.suffix_refl _
    · intro hopening
      exact hopening.trans (List.suffix_append before _)
  have hfind : openings.find? (fun e =>
        (Text.points e.1).isSuffixOf (before ++ Text.points text)) =
      openings.find? fun e => (Text.points e.1).isSuffixOf (Text.points text) :=
    List.find?_congr hsuffix
  unfold behind
  rw [hfind]

/-- The clause behind a settled text is settled by the clause before it. -/
theorem Site.current_after_fixed {text : String} (h : Settled text) (s : Site) :
    (s.after (pieceTokens (.fixed text))).current = s.clause.behind (Text.points text) := by
  rw [Site.after_fixed]
  exact Clause.behind_append h s.clause s.text

/-- Behind the opening of a clause the reader is in that clause, wherever it comes from. -/
theorem Site.current_opened {text : String} {clause : Clause} (h : (text, clause) ∈ Clause.openings)
    (s : Site) : (s.after (pieceTokens (.fixed text))).current = clause := by
  have hsettled : ∀ e ∈ Clause.openings, Settled e.1 := by decide
  have hbehind : ∀ e ∈ Clause.openings, s.clause.behind (Text.points e.1) = e.2 := by
    cases s.clause <;> decide
  rw [Site.current_after_fixed (hsettled _ h)]
  exact hbehind _ h

end DocumentStore.Sql
