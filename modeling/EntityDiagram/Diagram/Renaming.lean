import EntityDiagram.Diagram.Basic

/-!
# Ids of a diagram

Ids tell the members of a diagram apart and carry no meaning of their own, so that all of them may
be exchanged for others.
-/

namespace EntityDiagram

namespace Table

/-- The table with other ids for itself, its fields and its indexes. -/
def mapIds (rename : String → String) (table : Table) : Table :=
  { table with
    id := rename table.id
    fields := table.fields.map fun field => { field with id := rename field.id }
    indexes := table.indexes.map fun index => { index with id := rename index.id } }

end Table

/-- The relationship with other ids for itself and for its sides. -/
def Relationship.mapIds (rename : String → String) (relationship : Relationship) :
    Relationship :=
  { relationship with
    id := rename relationship.id
    startTableId := rename relationship.startTableId
    startFieldId := rename relationship.startFieldId
    endTableId := rename relationship.endTableId
    endFieldId := rename relationship.endFieldId }

namespace Diagram

/-- The ids of all members in order: each table with its fields and indexes, and then the
relationships, notes and areas. -/
def ids (diagram : Diagram) : List String :=
  (diagram.tables.flatMap fun table =>
    table.id :: (table.fields.map Field.id ++ table.indexes.map Index.id)) ++
    diagram.relationships.map Relationship.id ++ diagram.notes.map Note.id ++
    diagram.areas.map Area.id

/-- The diagram with other ids for all of its members. -/
def mapIds (rename : String → String) (diagram : Diagram) : Diagram :=
  { diagram with
    tables := diagram.tables.map (Table.mapIds rename)
    relationships := diagram.relationships.map (Relationship.mapIds rename)
    notes := diagram.notes.map fun note => { note with id := rename note.id }
    areas := diagram.areas.map fun area => { area with id := rename area.id } }

end Diagram

end EntityDiagram
