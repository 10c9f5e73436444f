import EntityDiagram.Session.Patch
import EntityDiagram.Session.Shelf

/-!
# Edits

An `Edit` is a change that can be undone. `Edit.apply` gives the changed diagram together with the
member concerned, or the cause for which the edit is refused. Taking out a table takes its
relationships along; taking out or renaming a field is carried on to the indexes that name it.
-/

namespace EntityDiagram

namespace Table

/-- The fields of a table. -/
def fieldShelf (table : Table) : Shelf Table Field where
  items := Table.fields
  withItems table fields := { table with fields }
  missing id := .fieldNotFound table.id id

/-- The indexes of a table. -/
def indexShelf (table : Table) : Shelf Table Index where
  items := Table.indexes
  withItems table indexes := { table with indexes }
  missing id := .indexNotFound table.id id

/-- The indexes with a column called by its new name, unless some field still has the old one. -/
def renameColumn (old new : String) (table : Table) : Table :=
  if new == old || table.hasFieldNamed old then table
  else
    { table with
      indexes := table.indexes.map fun index =>
        { index with fields := index.fields.map fun name => if name == old then new else name } }

/-- The indexes without a column, unless some field still has the name. Indexes without columns
go. -/
def forgetColumn (name : String) (table : Table) : Table :=
  if table.hasFieldNamed name then table
  else
    { table with
      indexes := (table.indexes.map fun index =>
          { index with fields := index.fields.filter (· != name) }).filter
        fun index => !index.fields.isEmpty }

/-- Change a field; a new name is carried on to the indexes. -/
def updateField (id : String) (patch : FieldPatch) (table : Table) :
    Except EditError (Table × Field) :=
  match table.field? id with
  | none => .error (.fieldNotFound table.id id)
  | some field =>
    let changed := { table with fields := Keyed.update patch.apply id table.fields }
    .ok (changed.renameColumn field.name (patch.apply field).name, patch.apply field)

/-- Take out a field, and its name out of the indexes. -/
def deleteField (id : String) (table : Table) : Except EditError (Table × Field) := do
  let (rest, field) ← table.fieldShelf.delete id table
  return (rest.forgetColumn field.name, field)

end Table

namespace Diagram

/-- The tables of a diagram. -/
def tableShelf : Shelf Diagram Table where
  items := Diagram.tables
  withItems diagram tables := { diagram with tables }
  missing := .tableNotFound

/-- The relationships of a diagram. -/
def relationshipShelf : Shelf Diagram Relationship where
  items := Diagram.relationships
  withItems diagram relationships := { diagram with relationships }
  missing := .relationshipNotFound

/-- The notes of a diagram. -/
def noteShelf : Shelf Diagram Note where
  items := Diagram.notes
  withItems diagram notes := { diagram with notes }
  missing := .noteNotFound

/-- The areas of a diagram. -/
def areaShelf : Shelf Diagram Area where
  items := Diagram.areas
  withItems diagram areas := { diagram with areas }
  missing := .areaNotFound

/-- Make a change inside the table with an id. -/
def inTable {β : Type} (tableId : String) (change : Table → Except EditError (Table × β))
    (diagram : Diagram) : Except EditError (Diagram × β) :=
  match diagram.table? tableId with
  | none => .error (.tableNotFound tableId)
  | some table => do
    let (changed, answer) ← change table
    return ({ diagram with tables := Keyed.update (fun _ => changed) tableId diagram.tables },
      answer)

/-- Take out a table and every relationship on it. -/
def deleteTable (id : String) (diagram : Diagram) : Except EditError (Diagram × Table) := do
  let (rest, table) ← tableShelf.delete id diagram
  return ({ rest with
    relationships := rest.relationships.filter fun r => !r.touchesTable id }, table)

/-- Take out a field and every relationship on it. -/
def deleteField (tableId fieldId : String) (diagram : Diagram) :
    Except EditError (Diagram × Field) := do
  let (rest, field) ← diagram.inTable tableId (Table.deleteField fieldId)
  return ({ rest with
    relationships := rest.relationships.filter fun r => !r.touches ⟨tableId, fieldId⟩ }, field)

/-- Whether an endpoint is there, as a refusal if it is not. -/
def requireEndpoint (diagram : Diagram) (endpoint : Endpoint) : Except EditError Unit :=
  if diagram.resolves endpoint then .ok ()
  else .error (.unresolvedEndpoint endpoint.tableId endpoint.fieldId)

/-- Add a relationship; its id must be new and both of its sides must be there. -/
def addRelationship (relationship : Relationship) (diagram : Diagram) :
    Except EditError Diagram :=
  if Keyed.contains diagram.relationships relationship.id then
    .error (.duplicateId relationship.id)
  else do
    diagram.requireEndpoint relationship.start
    diagram.requireEndpoint relationship.target
    return { diagram with relationships := diagram.relationships ++ [relationship] }

/-- The patch that stores a default as a person typed it, sorted by the engine of the diagram. An
absent or blank text clears the default. -/
def defaultPatch (diagram : Diagram) (raw : Option String) : FieldPatch :=
  { default := some ((raw.filter (!Text.isAllBlank ·)).map (DefaultValue.infer diagram.config)) }

end Diagram

/-- A change of a diagram that can be undone. -/
inductive Edit where
  | setTitle (title : String)
  | setDialect (dialect : Dialect)
  | addTable (table : Table)
  | updateTable (id : String) (patch : TablePatch)
  | deleteTable (id : String)
  | reorderTable (id : String) (target : Nat)
  | addField (tableId : String) (field : Field)
  | updateField (tableId id : String) (patch : FieldPatch)
  | setFieldDefault (tableId id : String) (raw : Option String)
  | deleteField (tableId id : String)
  | reorderField (tableId id : String) (target : Nat)
  | addIndex (tableId : String) (index : Index)
  | updateIndex (tableId id : String) (patch : IndexPatch)
  | deleteIndex (tableId id : String)
  | reorderIndex (tableId id : String) (target : Nat)
  | addRelationship (relationship : Relationship)
  | updateRelationship (id : String) (patch : RelationshipPatch)
  | deleteRelationship (id : String)
  | reorderRelationship (id : String) (target : Nat)
  | addNote (note : Note)
  | updateNote (id : String) (patch : NotePatch)
  | deleteNote (id : String)
  | reorderNote (id : String) (target : Nat)
  | addArea (area : Area)
  | updateArea (id : String) (patch : AreaPatch)
  | deleteArea (id : String)
  | reorderArea (id : String) (target : Nat)
  deriving DecidableEq, Repr

/-- What an edit shows to the caller: the member that it added, changed or took out, if any. -/
inductive Member where
  | none
  | table (table : Table)
  | field (field : Field)
  | index (index : Index)
  | relationship (relationship : Relationship)
  | note (note : Note)
  | area (area : Area)
  deriving DecidableEq, Repr

namespace Edit

/-- A whole with a member to show. -/
def showing {σ β : Type} (member : β → Member) (result : Except EditError (σ × β)) :
    Except EditError (σ × Member) :=
  result.map fun (whole, b) => (whole, member b)

/-- A whole with the given member to show. -/
def presenting {σ : Type} (member : Member) (result : Except EditError σ) :
    Except EditError (σ × Member) :=
  result.map fun whole => (whole, member)

/-- The diagram after an edit, with the member concerned, or the cause of a refusal. -/
def apply (diagram : Diagram) : Edit → Except EditError (Diagram × Member)
  | setTitle title => .ok ({ diagram with title }, .none)
  | setDialect dialect => .ok ({ diagram with dialect }, .none)
  | addTable table => presenting (.table table) (Diagram.tableShelf.add table diagram)
  | updateTable id patch =>
    showing .table (Diagram.tableShelf.update id patch.apply diagram)
  | deleteTable id => showing .table (diagram.deleteTable id)
  | reorderTable id target => presenting .none (Diagram.tableShelf.reorder id target diagram)
  | addField tableId field =>
    diagram.inTable tableId fun table =>
      presenting (.field field) (table.fieldShelf.add field table)
  | updateField tableId id patch =>
    diagram.inTable tableId fun table => showing .field (table.updateField id patch)
  | setFieldDefault tableId id raw =>
    diagram.inTable tableId fun table =>
      showing .field (table.updateField id (diagram.defaultPatch raw))
  | deleteField tableId id => showing .field (diagram.deleteField tableId id)
  | reorderField tableId id target =>
    diagram.inTable tableId fun table =>
      presenting .none (table.fieldShelf.reorder id target table)
  | addIndex tableId index =>
    diagram.inTable tableId fun table =>
      presenting (.index index) (table.indexShelf.add index table)
  | updateIndex tableId id patch =>
    diagram.inTable tableId fun table =>
      showing .index (table.indexShelf.update id patch.apply table)
  | deleteIndex tableId id =>
    diagram.inTable tableId fun table => showing .index (table.indexShelf.delete id table)
  | reorderIndex tableId id target =>
    diagram.inTable tableId fun table =>
      presenting .none (table.indexShelf.reorder id target table)
  | addRelationship relationship =>
    presenting (.relationship relationship) (diagram.addRelationship relationship)
  | updateRelationship id patch =>
    showing .relationship (Diagram.relationshipShelf.update id patch.apply diagram)
  | deleteRelationship id =>
    showing .relationship (Diagram.relationshipShelf.delete id diagram)
  | reorderRelationship id target =>
    presenting .none (Diagram.relationshipShelf.reorder id target diagram)
  | addNote note => presenting (.note note) (Diagram.noteShelf.add note diagram)
  | updateNote id patch => showing .note (Diagram.noteShelf.update id patch.apply diagram)
  | deleteNote id => showing .note (Diagram.noteShelf.delete id diagram)
  | reorderNote id target => presenting .none (Diagram.noteShelf.reorder id target diagram)
  | addArea area => presenting (.area area) (Diagram.areaShelf.add area diagram)
  | updateArea id patch => showing .area (Diagram.areaShelf.update id patch.apply diagram)
  | deleteArea id => showing .area (Diagram.areaShelf.delete id diagram)
  | reorderArea id target => presenting .none (Diagram.areaShelf.reorder id target diagram)

end Edit

end EntityDiagram
