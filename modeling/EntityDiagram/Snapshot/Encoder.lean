import EntityDiagram.Diagram.Basic
import EntityDiagram.Json.Value

/-!
# Diagrams as JSON values

Every member of a diagram becomes an object with all its keys in a fixed order. Positions are
pairs, absent options are null, and choices are stored under their names.
-/

namespace EntityDiagram

open Json

namespace Snapshot

/-- The names under which the kinds of relationships are stored. -/
def cardinalityNames : List (String × Cardinality) :=
  [("one_to_one", .oneToOne), ("one_to_many", .oneToMany), ("many_to_one", .manyToOne)]

/-- The names under which referential actions are stored. -/
def actionNames : List (String × ForeignKeyAction) :=
  [("no_action", .noAction), ("restrict", .restrict), ("cascade", .cascade),
    ("set_null", .setNull), ("set_default", .setDefault)]

/-- The names under which engines are stored. -/
def dialectNames : List (String × Dialect) := Dialect.all.map fun dialect => (dialect.id, dialect)

/-- The name of a choice among named ones. -/
def nameOf {α : Type} [DecidableEq α] (names : List (String × α)) (choice : α) : String :=
  ((names.find? (·.2 = choice)).map Prod.fst).getD ""

/-- A floating-point number. -/
def ofFloat (x : Float) : Value := .number (.real x)

/-- A whole number. -/
def ofNat (n : Nat) : Value := .number (.integer n)

/-- A whole number of 32 bits that may be absent. -/
def ofWord? : Option UInt32 → Value
  | none => .null
  | some n => ofNat n.toNat

/-- A list of texts. -/
def ofTexts (texts : List String) : Value := .ofItems (texts.map .string)

/-- A place as a pair. -/
def ofPosition (position : Position) : Value := .ofItems [ofFloat position.x, ofFloat position.y]

/-- A default value by its kind and its text. -/
def ofDefault (default : DefaultValue) : Value :=
  let kind := match default with
    | .literal _ => "literal"
    | .expression _ => "expression"
    | .keyword _ => "keyword"
  .ofFields [("kind", .string kind), ("value", .string default.text)]

/-- A field with all its attributes. -/
def ofField (field : Field) : Value := .ofFields [
  ("id", .string field.id),
  ("name", .string field.name),
  ("type", .string field.dataType),
  ("size", ofWord? field.size),
  ("precision", ofWord? field.precision),
  ("scale", ofWord? field.scale),
  ("primary", .bool field.primary),
  ("unique", .bool field.unique),
  ("notNull", .bool field.notNull),
  ("increment", .bool field.increment),
  ("unsigned", .bool field.unsigned),
  ("isArray", .bool field.isArray),
  ("default", (field.default.map ofDefault).getD .null),
  ("check", .ofText? field.check),
  ("comment", .string field.comment)]

/-- An index with the names of its columns. -/
def ofIndex (index : Index) : Value := .ofFields [
  ("id", .string index.id),
  ("name", .ofText? index.name),
  ("unique", .bool index.unique),
  ("fields", ofTexts index.fields),
  ("indexType", .ofText? index.indexType)]

/-- A table with its fields and indexes. -/
def ofTable (table : Table) : Value := .ofFields [
  ("id", .string table.id),
  ("name", .string table.name),
  ("position", ofPosition table.position),
  ("comment", .string table.comment),
  ("color", .ofText? table.color),
  ("fields", .ofItems (table.fields.map ofField)),
  ("indexes", .ofItems (table.indexes.map ofIndex))]

/-- A relationship with the ids of its sides. -/
def ofRelationship (relationship : Relationship) : Value := .ofFields [
  ("id", .string relationship.id),
  ("name", .ofText? relationship.name),
  ("startTableId", .string relationship.startTableId),
  ("startFieldId", .string relationship.startFieldId),
  ("endTableId", .string relationship.endTableId),
  ("endFieldId", .string relationship.endFieldId),
  ("cardinality", .string (nameOf cardinalityNames relationship.cardinality)),
  ("updateConstraint", .string (nameOf actionNames relationship.updateConstraint)),
  ("deleteConstraint", .string (nameOf actionNames relationship.deleteConstraint))]

/-- A note with its text. -/
def ofNote (note : Note) : Value := .ofFields [
  ("id", .string note.id),
  ("title", .string note.title),
  ("content", .string note.content),
  ("position", ofPosition note.position),
  ("color", .ofText? note.color),
  ("height", ofFloat note.height)]

/-- An area with its size. -/
def ofArea (area : Area) : Value := .ofFields [
  ("id", .string area.id),
  ("name", .string area.name),
  ("position", ofPosition area.position),
  ("width", ofFloat area.width),
  ("height", ofFloat area.height),
  ("color", .ofText? area.color)]

/-- A diagram with all its members. -/
def ofDiagram (diagram : Diagram) : Value := .ofFields [
  ("title", .string diagram.title),
  ("dialect", .string (nameOf dialectNames diagram.dialect)),
  ("tables", .ofItems (diagram.tables.map ofTable)),
  ("relationships", .ofItems (diagram.relationships.map ofRelationship)),
  ("notes", .ofItems (diagram.notes.map ofNote)),
  ("areas", .ofItems (diagram.areas.map ofArea))]

end Snapshot

end EntityDiagram
