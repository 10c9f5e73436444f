import EntityDiagram.Json.Pretty
import EntityDiagram.Snapshot.Decoder

/-!
# Snapshots

A snapshot is the text of a saved diagram. It is read back straight from the text, or by way of a
value, where an engine can be filled in for a diagram that names none.
-/

namespace EntityDiagram

open Json

/-- Why a text is no snapshot. -/
structure SnapshotError where
  fault : Fault
  deriving DecidableEq, Repr

/-- What is said about a text that is no snapshot. -/
def SnapshotError.message (error : SnapshotError) : String :=
  "Invalid snapshot: " ++ error.fault.message

namespace Diagram

/-- The text of a saved diagram. -/
def toSnapshot (diagram : Diagram) : String := (Snapshot.ofDiagram diagram).pretty

/-- The diagram that a text describes. -/
def ofSnapshot (text : String) : Except SnapshotError Diagram :=
  ((Document.ofText text).decode (Snapshot.diagram.ofTree Json.maxDepth)).mapError SnapshotError.mk

end Diagram

/-- A value in which an object without an engine has the given one. -/
def Snapshot.withDialect (dialect : Dialect) : Value → Value
  | .object fields => .object (fields.insert "dialect" (.string dialect.id))
  | value => value

/-- The diagram that a text describes, with the given engine where the text names none. -/
def Diagram.ofSnapshotOr (dialect : Dialect) (text : String) : Except SnapshotError Diagram :=
  (do
    let value ← (Document.ofText text).read
    Snapshot.diagram.ofValue (Snapshot.withDialect dialect value)).mapError SnapshotError.mk

end EntityDiagram
