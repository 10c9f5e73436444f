import EntityDiagram.Text.Quoted
import EntityDiagram.Ddl.Statement
import EntityDiagram.Issue
import EntityDiagram.Session.Connection
import EntityDiagram.Decimal.Layout
import EntityDiagram.Json.Value
import EntityDiagram.Json.Reading
import EntityDiagram.Json.Pretty
import EntityDiagram.Json.Record
import EntityDiagram.Snapshot.Basic
import EntityDiagram.CommandLine.Folder
import EntityDiagram.Diagram.Renaming
import EntityDiagram.Main
import EntityDiagram.Proofs.Keyed
import EntityDiagram.Proofs.Session.Edit
import EntityDiagram.Proofs.Session.Run
import EntityDiagram.Proofs.Session.Consistency
import EntityDiagram.Proofs.Session.Timeline
import EntityDiagram.Proofs.Ddl.Clauses
import EntityDiagram.Proofs.Ddl.Splitting
import EntityDiagram.Proofs.Json.Decoding
import EntityDiagram.Proofs.Snapshot.RoundTrip
import EntityDiagram.Proofs.Ddl.ConstraintName
import EntityDiagram.Proofs.Session.Refusal
import EntityDiagram.Proofs.Session.IndexSoundness
import EntityDiagram.Proofs.Session.DistinctIds
import EntityDiagram.Proofs.Session.Drawing
import EntityDiagram.Proofs.Dialect.Registration
import EntityDiagram.Proofs.Graph.Components
import EntityDiagram.Proofs.Issue.Circular
import EntityDiagram.Proofs.Ddl.Schema
import EntityDiagram.Proofs.Ddl.Caveats
import EntityDiagram.Proofs.Decimal.Rounding
import EntityDiagram.Proofs.Decimal.Shortest
import EntityDiagram.Proofs.Json.Acceptance
import EntityDiagram.Proofs.Snapshot.Acceptance
import EntityDiagram.Proofs.Session.Saving
import EntityDiagram.Proofs.Dialect.Fallback
import EntityDiagram.Proofs.Json.Agreement
import EntityDiagram.Proofs.Json.Record
import EntityDiagram.Proofs.Snapshot.Agreement
import EntityDiagram.Proofs.Identifier.Sanitizing
import EntityDiagram.Proofs.Identifier.Keeping
import EntityDiagram.Proofs.Session.Connection
import EntityDiagram.Proofs.Session.FieldRemoval
import EntityDiagram.Proofs.Session.FieldRenaming
import EntityDiagram.Proofs.Session.RemovalOrder
import EntityDiagram.Proofs.Ddl.Uncommented
import EntityDiagram.Proofs.Ddl.PrimaryKey
import EntityDiagram.Proofs.Ddl.TypedDefault
import EntityDiagram.Proofs.Ddl.DefaultProbe
import EntityDiagram.Proofs.Dialect.Quotation
import EntityDiagram.Proofs.Ddl.LiteralDefault
import EntityDiagram.Proofs.Session.DefaultRetyping
import EntityDiagram.Proofs.Ddl.BackslashEscape
import EntityDiagram.Proofs.Identifier.Grammar
import EntityDiagram.Proofs.Dialect.GivenNames
import EntityDiagram.Proofs.Dialect.BuiltinNames
import EntityDiagram.Proofs.Ddl.LineComment
import EntityDiagram.Proofs.Session.FieldPatching
import EntityDiagram.Proofs.Session.Reordering
