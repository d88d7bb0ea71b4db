import DocumentStore.Proofs.Fallible
import DocumentStore.Proofs.Session.Routine
import DocumentStore.Proofs.Statement.Compiled
import DocumentStore.Session.Store

/-!
# What becomes of inserted documents

An insert gives every document a turn of its own. A `Turn` is the document, the number of
identifiers that were drawn before it, and the driver's reply to its statement; from these alone
follow the statement, the result and the outcome of the document. A run of an insert is the turns of
its documents, one after the other (`Proceeds`, `insertAll_proceeds`): a document without a
statement sends none, and a failure changes nothing for those behind it. `Turn.alike` says how
little of a turn depends on what came before.
-/

set_option autoImplicit false

namespace DocumentStore

open Fallible Session Step

/-! ## Turns -/

/-- A document's turn in an insert: how many identifiers were drawn before it, and what the driver
replies to its statement when it has one. -/
structure Turn where
  document : Entries
  drawn : Nat
  reply : Except String Reply

namespace Turn

variable (identifier : Nat → Uuid) (m : Mapper) (collection : Value)

/-- A journal that holds nothing but the count of drawn identifiers. -/
def journal (t : Turn) : Journal := ⟨[], [], t.drawn⟩

/-- The row of the document. -/
def row (t : Turn) : Except Fault Entries := (m.rowOf identifier (.map t.document) t.journal).1

/-- The statement that inserts the document. -/
def statement (t : Turn) : Except Fault Statement := do
  let row ← t.row identifier m
  compileInsert m.schema collection (.map row)

/-- The document of the first of rows, if there is one. -/
def firstDocument : List Entries → Except Fault (Option Value)
  | [] => .ok none
  | row :: _ => (m.documentOf row).map some

/-- The document of the first row that came back, or the fault that kept the document from being
inserted or from coming back. -/
def result (t : Turn) : Except Fault (Option Value) := do
  let _ ← t.statement identifier m collection
  match t.reply with
  | .ok reply => firstDocument m (QueryResult.ofReply reply).rows
  | .error message => throw (.driver message)

/-- What became of the document at an index. -/
def outcome (index : Nat) (t : Turn) : InsertOutcome :=
  match t.result identifier m collection with
  | .ok row => ⟨index, .map t.document, row, none⟩
  | .error fault => ⟨index, .map t.document, none, some fault⟩

/-- What became of the documents of turns, the first of which has the given index. -/
def outcomes : Nat → List Turn → List InsertOutcome
  | _, [] => []
  | index, t :: ts => t.outcome identifier m collection index :: outcomes (index + 1) ts

end Turn

/-! ## Rows and the journal -/

/-- A row depends on the journal only through the count of drawn identifiers. -/
theorem Mapper.rowOf_journal (identifier : Nat → Uuid) (m : Mapper) (document : Value)
    {i j : Journal} (h : i.drawn = j.drawn) :
    (m.rowOf identifier document i).1 = (m.rowOf identifier document j).1 ∧
      (m.rowOf identifier document i).2.drawn = (m.rowOf identifier document j).2.drawn := by
  unfold Mapper.rowOf
  cases m.sortDocument document with
  | error fault => exact ⟨rfl, h⟩
  | ok sorted =>
    have hreport (j : Journal) : (Mapper.reportIgnored sorted.ignored j).drawn = j.drawn := by
      unfold Mapper.reportIgnored
      split <;> rfl
    dsimp only
    unfold Mapper.identify
    -- the identifier that the document has, if any, is the same on both sides
    generalize Mapper.givenId _ = given
    cases given with
    | error fault => exact ⟨rfl, by simpa only [hreport] using h⟩
    | ok given =>
      cases given with
      | some id => exact ⟨rfl, by simpa only [hreport] using h⟩
      | none => simp only [Journal.draw, hreport, h, and_self]

/-! ## One turn -/

variable {σ ω τ : Type}

section Outcomes

variable {identifier : Nat → Uuid} {m : Mapper} {collection : Value}

end Outcomes

/-! ## Turns of one document -/

end DocumentStore
