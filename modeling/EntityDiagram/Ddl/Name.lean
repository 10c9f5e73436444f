import EntityDiagram.Diagram.Basic

/-!
# Names in the written SQL

Identifiers are cut at the longest length that every engine takes. A foreign key or an index
without a name of its own gets one from the tables and columns that it joins.
-/

namespace EntityDiagram

/-- A text cut to the longest identifier. -/
def truncateIdentifier (name : String) : String :=
  String.ofList (name.toList.take maxIdentifierLength)

@[simp] theorem toList_truncateIdentifier (name : String) :
    (truncateIdentifier name).toList = name.toList.take maxIdentifierLength := by
  simp [truncateIdentifier]

theorem length_truncateIdentifier_le (name : String) :
    (truncateIdentifier name).length ≤ maxIdentifierLength := by
  rw [← String.length_toList, toList_truncateIdentifier, List.length_take]
  exact Nat.min_le_left _ _

namespace Ddl

/-- A name given by the user if there is one, else the made-up name, cut to length. -/
def givenNameOr (given : Option String) (madeUp : String) : String :=
  truncateIdentifier ((Text.nonBlank? given).getD madeUp)

/-- A foreign key with both of its sides found in the diagram. -/
structure ForeignKey where
  name : String
  table : Table
  field : Field
  refTable : Table
  refField : Field
  onUpdate : ForeignKeyAction
  onDelete : ForeignKeyAction
  deriving DecidableEq, Repr

/-- An index with those of its columns that the table has; there is at least one. -/
structure IndexDefinition where
  table : Table
  index : Index
  name : String
  columns : List String
  deriving DecidableEq, Repr

end Ddl

namespace Table

/-- The name of an index: its own, or one made of the table and the listed columns. -/
def indexName (table : Table) (index : Index) : String :=
  Ddl.givenNameOr index.name
    (table.name ++ "_" ++ String.intercalate "_" index.fields ++ "_index")

/-- The definition of an index, or `none` if the table has none of its columns. -/
def indexDefinition? (table : Table) (index : Index) : Option Ddl.IndexDefinition :=
  let columns := table.columnsOf index
  if columns.isEmpty then none
  else some { table, index, name := table.indexName index, columns }

/-- The field whose column declares the primary key of its table, where an engine wants a column
that counts up to do so: the only primary field, if it counts up. -/
def inlinePrimaryKey? (table : Table) (config : DialectConfig) : Option Field :=
  match config.increment, table.primaryFields with
  | .inlinePrimaryKey _, [field] => if field.increment then some field else none
  | _, _ => none

end Table

namespace Relationship

/-- The name of the constraint: its own, or one made of the sides it joins. -/
def constraintName (relationship : Relationship) (table : Table) (field : Field)
    (refTable : Table) : String :=
  Ddl.givenNameOr relationship.name
    ("fk_" ++ table.name ++ "_" ++ field.name ++ "_" ++ refTable.name)

end Relationship

namespace Diagram

/-- The foreign key of a relationship, or `none` if one of its sides is no longer there. -/
def foreignKey? (diagram : Diagram) (relationship : Relationship) : Option Ddl.ForeignKey := do
  let (table, field) ← diagram.resolve? relationship.start
  let (refTable, refField) ← diagram.resolve? relationship.target
  return {
    name := relationship.constraintName table field refTable
    table, field, refTable, refField
    onUpdate := relationship.updateConstraint
    onDelete := relationship.deleteConstraint }

theorem foreignKey?_isSome (diagram : Diagram) (relationship : Relationship) :
    (diagram.foreignKey? relationship).isSome =
      (diagram.resolves relationship.start && diagram.resolves relationship.target) := by
  simp only [foreignKey?, resolves]
  cases diagram.resolve? relationship.start <;> cases diagram.resolve? relationship.target <;> rfl

end Diagram

end EntityDiagram
