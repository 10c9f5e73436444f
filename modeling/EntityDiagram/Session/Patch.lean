import EntityDiagram.Diagram.Basic

/-!
# Partial updates

A patch names the attributes to change and leaves the others alone. An attribute that may be absent
is given as an option inside the option: `some none` clears it.
-/

namespace EntityDiagram

/-- Changes to a table. -/
structure TablePatch where
  name : Option String := none
  comment : Option String := none
  color : Option (Option String) := none
  deriving DecidableEq, Repr

/-- The table with the changes made. -/
def TablePatch.apply (patch : TablePatch) (table : Table) : Table :=
  { table with
    name := patch.name.getD table.name
    comment := patch.comment.getD table.comment
    color := patch.color.getD table.color }

/-- Changes to a field. -/
structure FieldPatch where
  name : Option String := none
  dataType : Option String := none
  size : Option (Option UInt32) := none
  precision : Option (Option UInt32) := none
  scale : Option (Option UInt32) := none
  primary : Option Bool := none
  unique : Option Bool := none
  notNull : Option Bool := none
  increment : Option Bool := none
  unsigned : Option Bool := none
  isArray : Option Bool := none
  default : Option (Option DefaultValue) := none
  check : Option (Option String) := none
  comment : Option String := none
  deriving DecidableEq, Repr

namespace FieldPatch

/-- The change of nothing but the name. -/
def rename (name : String) : FieldPatch := { name := some name }

/-- The field with every attribute changed that the patch names. -/
def assign (patch : FieldPatch) (field : Field) : Field :=
  { field with
    name := patch.name.getD field.name
    dataType := patch.dataType.getD field.dataType
    size := patch.size.getD field.size
    precision := patch.precision.getD field.precision
    scale := patch.scale.getD field.scale
    primary := patch.primary.getD field.primary
    unique := patch.unique.getD field.unique
    notNull := patch.notNull.getD field.notNull
    increment := patch.increment.getD field.increment
    unsigned := patch.unsigned.getD field.unsigned
    isArray := patch.isArray.getD field.isArray
    default := patch.default.getD field.default
    check := patch.check.getD field.check
    comment := patch.comment.getD field.comment }

/-- The field with the changes made. A field that then counts up is never null and has no
default, whatever the patch says. -/
def apply (patch : FieldPatch) (field : Field) : Field :=
  let changed := patch.assign field
  if changed.increment then changed.asIncrement else changed

@[simp] theorem id_apply (patch : FieldPatch) (field : Field) :
    (patch.apply field).id = field.id := by
  simp only [apply]
  split <;> rfl

end FieldPatch

/-- Changes to an index. -/
structure IndexPatch where
  name : Option (Option String) := none
  unique : Option Bool := none
  fields : Option (List String) := none
  indexType : Option (Option String) := none
  deriving DecidableEq, Repr

/-- The index with the changes made. -/
def IndexPatch.apply (patch : IndexPatch) (index : Index) : Index :=
  { index with
    name := patch.name.getD index.name
    unique := patch.unique.getD index.unique
    fields := patch.fields.getD index.fields
    indexType := patch.indexType.getD index.indexType }

/-- Changes to a relationship; its sides stay where they are. -/
structure RelationshipPatch where
  name : Option (Option String) := none
  cardinality : Option Cardinality := none
  updateConstraint : Option ForeignKeyAction := none
  deleteConstraint : Option ForeignKeyAction := none
  deriving DecidableEq, Repr

/-- The relationship with the changes made. -/
def RelationshipPatch.apply (patch : RelationshipPatch) (relationship : Relationship) :
    Relationship :=
  { relationship with
    name := patch.name.getD relationship.name
    cardinality := patch.cardinality.getD relationship.cardinality
    updateConstraint := patch.updateConstraint.getD relationship.updateConstraint
    deleteConstraint := patch.deleteConstraint.getD relationship.deleteConstraint }

/-- Changes to a note. -/
structure NotePatch where
  title : Option String := none
  content : Option String := none
  color : Option (Option String) := none
  height : Option Float := none
  deriving DecidableEq, Repr

/-- The note with the changes made. -/
def NotePatch.apply (patch : NotePatch) (note : Note) : Note :=
  { note with
    title := patch.title.getD note.title
    content := patch.content.getD note.content
    color := patch.color.getD note.color
    height := patch.height.getD note.height }

/-- Changes to an area. -/
structure AreaPatch where
  name : Option String := none
  width : Option Float := none
  height : Option Float := none
  color : Option (Option String) := none
  deriving DecidableEq, Repr

/-- The area with the changes made. -/
def AreaPatch.apply (patch : AreaPatch) (area : Area) : Area :=
  { area with
    name := patch.name.getD area.name
    width := patch.width.getD area.width
    height := patch.height.getD area.height
    color := patch.color.getD area.color }

@[simp] theorem TablePatch.id_apply (patch : TablePatch) (table : Table) :
    (patch.apply table).id = table.id := rfl

@[simp] theorem IndexPatch.id_apply (patch : IndexPatch) (index : Index) :
    (patch.apply index).id = index.id := rfl

@[simp] theorem RelationshipPatch.id_apply (patch : RelationshipPatch)
    (relationship : Relationship) : (patch.apply relationship).id = relationship.id := rfl

@[simp] theorem NotePatch.id_apply (patch : NotePatch) (note : Note) :
    (patch.apply note).id = note.id := rfl

@[simp] theorem AreaPatch.id_apply (patch : AreaPatch) (area : Area) :
    (patch.apply area).id = area.id := rfl

end EntityDiagram
