import DocumentStore.Event.Calls
import DocumentStore.Log.Line
import DocumentStore.Main
import DocumentStore.Page
import DocumentStore.Session.Rehearsal
import DocumentStore.Proofs.Statement.Bindings
import DocumentStore.Proofs.Statement.Restriction
import DocumentStore.Proofs.Statement.ValueIndependence
import DocumentStore.Proofs.Statement.Casts
import DocumentStore.Proofs.Statement.Updating
import DocumentStore.Proofs.Query.Grammar
import DocumentStore.Proofs.Query.Like
import DocumentStore.Proofs.Query.Anchors
import DocumentStore.Proofs.Session.InsertReport
import DocumentStore.Proofs.Session.OpenConnections
import DocumentStore.Proofs.Session.Finding
import DocumentStore.Proofs.Catalog.Admission
import DocumentStore.Proofs.Catalog.InsertColumns
import DocumentStore.Proofs.Document.ReadBack
import DocumentStore.Proofs.Event.Delivery
import DocumentStore.Proofs.Json.Ascii
import DocumentStore.Proofs.Page.Walk
import DocumentStore.Proofs.Json.Floats
import DocumentStore.Proofs.Query.Milliseconds
import DocumentStore.Proofs.Query.NormalForm
import DocumentStore.Proofs.Query.EpochSeconds
import DocumentStore.Proofs.Page.Described
import DocumentStore.Proofs.Json.Trees
import DocumentStore.Proofs.Statement.Failures
import DocumentStore.Proofs.Command.Compiling
import DocumentStore.Proofs.Schema.CollectionFile
import DocumentStore.Proofs.Catalog.Resolution
import DocumentStore.Proofs.Session.Password
import DocumentStore.Proofs.Command.Releasing
