import EntityDiagram.Ddl.Name

/-!
# What a diagram defines

Before any SQL is written, a diagram is laid out as a list of definitions: its tables with their
elements, then comments, then indexes, then foreign keys. The engine decides which comments,
indexes and foreign keys are definitions of their own and which are elements of their table.
-/

namespace EntityDiagram.Ddl

/-- What may be switched when SQL is written. -/
structure Options where
  /-- Whether to skip what is there already, where the engine can say so. -/
  ifNotExists : Bool := false
  /-- Whether comments on tables and columns are written. -/
  includeComments : Bool := true
  deriving DecidableEq, Repr

/-- One line between the parentheses of a table. -/
inductive Element where
  | column (field : Field)
  | primaryKey (columns : List String)
  | index (index : IndexDefinition)
  | foreignKey (key : ForeignKey)
  deriving DecidableEq, Repr

/-- One statement of the written SQL. -/
inductive Definition where
  /-- A table with its elements. -/
  | table (table : Table) (elements : List Element)
  /-- The comment of a table. -/
  | tableComment (table : Table)
  /-- The comment of a column. -/
  | columnComment (table : Table) (field : Field)
  /-- An index outside its table. -/
  | index (index : IndexDefinition)
  /-- A foreign key outside its table. -/
  | foreignKey (key : ForeignKey)
  deriving DecidableEq, Repr

end EntityDiagram.Ddl

namespace EntityDiagram

open Ddl

namespace Table

/-- The indexes of a table that can be defined, in order. -/
def indexDefinitions (table : Table) : List IndexDefinition :=
  table.indexes.filterMap table.indexDefinition?

/-- The element that lists the primary key, unless a column declares it or there is none. -/
def primaryKeyElements (table : Table) (config : DialectConfig) : List Element :=
  if (table.inlinePrimaryKey? config).isSome || table.primaryFields.isEmpty then []
  else [.primaryKey (table.primaryFields.map Field.name)]

/-- The comments of a table and of its columns. -/
def commentDefinitions (table : Table) : List Definition :=
  (if table.hasComment then [.tableComment table] else []) ++
    (table.fields.filter Field.hasComment).map (.columnComment table)

end Table

namespace Diagram

/-- The foreign keys whose referring side is the table with an id, in order. -/
def foreignKeysFrom (diagram : Diagram) (tableId : String) : List ForeignKey :=
  (diagram.relationships.filter (·.startTableId == tableId)).filterMap diagram.foreignKey?

/-- The elements of a table: columns, primary key, and the indexes and foreign keys that the
engine declares inside. -/
def tableElements (diagram : Diagram) (config : DialectConfig) (table : Table) : List Element :=
  table.fields.map .column ++
    table.primaryKeyElements config ++
    (if config.inlineIndexes then table.indexDefinitions.map .index else []) ++
    match config.foreignKeys with
    | .inline => (diagram.foreignKeysFrom table.id).map .foreignKey
    | .alterTable => []

/-- All that the diagram defines for an engine, in the order in which it is written. -/
def definitions (diagram : Diagram) (config : DialectConfig) (options : Options) :
    List Definition :=
  diagram.tables.map (fun table => .table table (diagram.tableElements config table)) ++
    (if options.includeComments && config.commentStyle == .statement then
      diagram.tables.flatMap Table.commentDefinitions else []) ++
    (if config.inlineIndexes then []
      else (diagram.tables.flatMap Table.indexDefinitions).map .index) ++
    match config.foreignKeys with
    | .alterTable => (diagram.relationships.filterMap diagram.foreignKey?).map .foreignKey
    | .inline => []

/-- The columns among the elements of a table are those of the table. -/
theorem mem_fields_of_mem_tableElements {diagram : Diagram} {config : DialectConfig}
    {table : Table} {field : Field}
    (member : .column field ∈ diagram.tableElements config table) : field ∈ table.fields := by
  simp only [tableElements, List.mem_append] at member
  rcases member with ((column | key) | index) | foreignKey
  · simpa using column
  · rw [Table.primaryKeyElements] at key
    split at key <;> simp at key
  · split at index <;> simp at index
  · split at foreignKey <;> simp at foreignKey

/-- The tables that a diagram defines are its own, with their elements. -/
theorem mem_tables_of_mem_definitions {diagram : Diagram} {config : DialectConfig}
    {options : Options} {table : Table} {elements : List Element}
    (member : .table table elements ∈ diagram.definitions config options) :
    table ∈ diagram.tables ∧ elements = diagram.tableElements config table := by
  simp only [definitions, List.mem_append] at member
  rcases member with ((defined | comment) | index) | foreignKey
  · obtain ⟨other, listed, same⟩ := List.mem_map.mp defined
    obtain ⟨rfl, rfl⟩ := Definition.table.inj same
    exact ⟨listed, rfl⟩
  · split at comment <;> simp [Table.commentDefinitions] at comment
  · split at index <;> simp at index
  · split at foreignKey <;> simp at foreignKey

/-- Something that the diagram asks for and that cannot be defined. -/
inductive Omission where
  /-- An index of which the table has no column. -/
  | index (index : Index) (table : Table)
  /-- A relationship with a side that is no longer there. -/
  | relationship (relationship : Relationship)
  deriving DecidableEq, Repr

/-- What an omission is called in messages. -/
def Omission.message : Omission → String
  | .index missing table => s!"Skipping index {missing.id} on {table.name}: no resolvable fields"
  | .relationship stale => s!"Skipping relationship {stale.id}: endpoint no longer exists"

/-- The indexes of a table that cannot be defined. -/
def indexOmissions (table : Table) : List Omission :=
  (table.indexes.filter fun index => (table.indexDefinition? index).isNone).map
    fun index => .index index table

/-- The relationships among some that cannot be defined. -/
def relationshipOmissions (diagram : Diagram) (relationships : List Relationship) :
    List Omission :=
  (relationships.filter fun relationship => (diagram.foreignKey? relationship).isNone).map
    .relationship

/-- All that is left out when the diagram is written for an engine, in the order in which it is
met. -/
def omissions (diagram : Diagram) (config : DialectConfig) : List Omission :=
  match config.foreignKeys with
  | .alterTable =>
    diagram.tables.flatMap indexOmissions ++ diagram.relationshipOmissions diagram.relationships
  | .inline =>
    diagram.tables.flatMap fun table =>
      let keys := diagram.relationshipOmissions
        (diagram.relationships.filter (·.startTableId == table.id))
      if config.inlineIndexes then indexOmissions table ++ keys else keys ++ indexOmissions table

end Diagram

end EntityDiagram
