/-!
# Why an edit is refused

An edit that is refused changes nothing, so a caller may treat the refusal as no edit at all.
-/

namespace EntityDiagram

/-- Why an edit is refused. -/
inductive EditError where
  | tableNotFound (id : String)
  | fieldNotFound (tableId fieldId : String)
  | indexNotFound (tableId indexId : String)
  | relationshipNotFound (id : String)
  | noteNotFound (id : String)
  | areaNotFound (id : String)
  /-- A side of a new relationship is not there. -/
  | unresolvedEndpoint (tableId fieldId : String)
  /-- A new member has the id of one that is there. -/
  | duplicateId (id : String)
  deriving DecidableEq, Repr

namespace EditError

/-- Whether the edit was refused because what it addresses is not there. -/
def isNotFound : EditError → Bool
  | unresolvedEndpoint .. => false
  | duplicateId _ => false
  | _ => true

/-- What is said about a refusal. -/
def message : EditError → String
  | tableNotFound id => s!"Table not found: {id}"
  | fieldNotFound tableId fieldId => s!"Field {fieldId} not found in table {tableId}"
  | indexNotFound tableId indexId => s!"Index {indexId} not found in table {tableId}"
  | relationshipNotFound id => s!"Relationship not found: {id}"
  | noteNotFound id => s!"Note not found: {id}"
  | areaNotFound id => s!"Area not found: {id}"
  | unresolvedEndpoint tableId fieldId =>
    s!"Relationship endpoint {tableId}.{fieldId} does not resolve"
  | duplicateId id => s!"Duplicate id: {id}"

end EditError

end EntityDiagram
