import EntityDiagram.Ddl.Statement
import EntityDiagram.Proofs.Keyed

/-!
# SQL without comments

Comments are written in five ways: behind a column, behind a table, as lines in front of a table,
as statements, and as extended properties. When comments are switched off none of them is left:
the SQL is that of the diagram whose tables and columns have no comment at all, which is the same
whether comments are switched on or off. Every step of the writing is followed here for a diagram
and for the same diagram with its comments taken out.
-/

namespace EntityDiagram

/-! ### Diagrams without comments -/

/-- The field without its comment. -/
def Field.uncommented (field : Field) : Field := { field with comment := "" }

/-- The table without its comment and those of its fields. -/
def Table.uncommented (table : Table) : Table :=
  { table with comment := "", fields := table.fields.map Field.uncommented }

/-- The diagram without the comments of its tables and fields. -/
def Diagram.uncommented (diagram : Diagram) : Diagram :=
  { diagram with tables := diagram.tables.map Table.uncommented }

@[simp] theorem Field.hasComment_uncommented (field : Field) :
    field.uncommented.hasComment = false := rfl

namespace Table

variable (table : Table)

@[simp] theorem hasComment_uncommented : table.uncommented.hasComment = false := rfl

/-- A table without comments has none to write. -/
theorem commentDefinitions_uncommented : table.uncommented.commentDefinitions = [] := by
  simp [commentDefinitions, uncommented, List.filter_map, Function.comp_def, hasComment,
    Text.isAllBlank]

theorem hasFieldNamed_uncommented (name : String) :
    table.uncommented.hasFieldNamed name = table.hasFieldNamed name := by
  simp [hasFieldNamed, uncommented, List.any_map, Function.comp_def, Field.uncommented]

theorem columnsOf_uncommented (index : Index) :
    table.uncommented.columnsOf index = table.columnsOf index :=
  List.filter_congr fun name _ => table.hasFieldNamed_uncommented name

theorem primaryFields_uncommented :
    table.uncommented.primaryFields = table.primaryFields.map Field.uncommented := by
  simp [primaryFields, uncommented, List.filter_map, Function.comp_def, Field.uncommented]

theorem inlinePrimaryKey?_uncommented (config : DialectConfig) :
    table.uncommented.inlinePrimaryKey? config =
      (table.inlinePrimaryKey? config).map Field.uncommented := by
  rw [inlinePrimaryKey?, inlinePrimaryKey?, primaryFields_uncommented]
  rcases config.increment with sql | sql | sql
  · rfl
  · rfl
  · rcases table.primaryFields with _ | ⟨field, _ | ⟨second, rest⟩⟩
    · rfl
    · change (if field.increment then some field.uncommented else none) =
        Option.map Field.uncommented (if field.increment then some field else none)
      split <;> rfl
    · rfl

theorem field?_uncommented (id : String) :
    table.uncommented.field? id = (table.field? id).map Field.uncommented :=
  Keyed.find?_map_of_key_eq (f := Field.uncommented) (fun _ => rfl) table.fields id

end Table

/-! ### What such a diagram defines -/

namespace Ddl

/-- The foreign key between the same tables and fields without their comments. -/
def ForeignKey.uncommented (key : ForeignKey) : ForeignKey :=
  { key with
    table := key.table.uncommented
    field := key.field.uncommented
    refTable := key.refTable.uncommented
    refField := key.refField.uncommented }

/-- The index on the same table without its comments. -/
def IndexDefinition.uncommented (definition : IndexDefinition) : IndexDefinition :=
  { definition with table := definition.table.uncommented }

/-- The element of a table without comments. -/
def Element.uncommented : Element → Element
  | .column field => .column field.uncommented
  | .primaryKey columns => .primaryKey columns
  | .index definition => .index definition.uncommented
  | .foreignKey key => .foreignKey key.uncommented

/-- The definition of the same without comments. -/
def Definition.uncommented : Definition → Definition
  | .table own elements => .table own.uncommented (elements.map Element.uncommented)
  | .tableComment own => .tableComment own.uncommented
  | .columnComment own field => .columnComment own.uncommented field.uncommented
  | .index definition => .index definition.uncommented
  | .foreignKey key => .foreignKey key.uncommented

/-- Whether a definition is there for a comment alone. -/
def Definition.isComment : Definition → Bool
  | .tableComment _ | .columnComment _ _ => true
  | .table _ _ | .index _ | .foreignKey _ => false

/-- The options with comments switched off. -/
def Options.withoutComments (options : Options) : Options :=
  { options with includeComments := false }

end Ddl

open Ddl

namespace Table

variable (table : Table)

theorem indexDefinitions_uncommented :
    table.uncommented.indexDefinitions =
      table.indexDefinitions.map IndexDefinition.uncommented := by
  have same : ∀ index, table.uncommented.indexDefinition? index =
      (table.indexDefinition? index).map IndexDefinition.uncommented := by
    intro index
    simp only [indexDefinition?, columnsOf_uncommented]
    split <;> rfl
  rw [indexDefinitions, indexDefinitions, List.map_filterMap]
  exact List.filterMap_congr fun index _ => same index

theorem primaryKeyElements_uncommented (config : DialectConfig) :
    table.uncommented.primaryKeyElements config =
      (table.primaryKeyElements config).map Element.uncommented := by
  simp only [primaryKeyElements, inlinePrimaryKey?_uncommented, primaryFields_uncommented,
    Option.isSome_map, List.isEmpty_map, List.map_map, apply_ite (List.map Element.uncommented)]
  rfl

end Table

namespace Diagram

variable (diagram : Diagram)

theorem resolve?_uncommented (endpoint : Endpoint) :
    diagram.uncommented.resolve? endpoint =
      (diagram.resolve? endpoint).map fun found => (found.1.uncommented, found.2.uncommented) := by
  have found : diagram.uncommented.table? endpoint.tableId =
      (diagram.table? endpoint.tableId).map Table.uncommented :=
    Keyed.find?_map_of_key_eq (f := Table.uncommented) (fun _ => rfl) diagram.tables _
  rw [resolve?, resolve?, found]
  cases diagram.table? endpoint.tableId with
  | none => rfl
  | some table =>
      simp only [Option.map_some, Option.bind_eq_bind, Option.bind_some, table.field?_uncommented]
      cases table.field? endpoint.fieldId <;> rfl

theorem foreignKey?_uncommented (relationship : Relationship) :
    diagram.uncommented.foreignKey? relationship =
      (diagram.foreignKey? relationship).map ForeignKey.uncommented := by
  simp only [foreignKey?, resolve?_uncommented]
  cases diagram.resolve? relationship.start with
  | none => rfl
  | some referring => cases diagram.resolve? relationship.target <;> rfl

theorem foreignKeys_uncommented (relationships : List Relationship) :
    relationships.filterMap diagram.uncommented.foreignKey? =
      (relationships.filterMap diagram.foreignKey?).map ForeignKey.uncommented := by
  rw [List.map_filterMap]
  exact List.filterMap_congr fun relationship _ => diagram.foreignKey?_uncommented relationship

theorem tableElements_uncommented (config : DialectConfig) (table : Table) :
    diagram.uncommented.tableElements config table.uncommented =
      (diagram.tableElements config table).map Element.uncommented := by
  have keys : diagram.uncommented.foreignKeysFrom table.uncommented.id =
      (diagram.foreignKeysFrom table.id).map ForeignKey.uncommented :=
    diagram.foreignKeys_uncommented _
  rw [tableElements, tableElements, table.primaryKeyElements_uncommented,
    table.indexDefinitions_uncommented, keys]
  cases config.inlineIndexes <;> cases config.foreignKeys <;>
    simp [Table.uncommented, Element.uncommented, Function.comp_def]

/-- Without comments a diagram defines, whatever the options, what it defines when comments are
switched off. -/
theorem definitions_uncommented (config : DialectConfig) (options : Options) :
    diagram.uncommented.definitions config options =
      (diagram.definitions config options.withoutComments).map Definition.uncommented := by
  have tables : diagram.uncommented.tables = diagram.tables.map Table.uncommented := rfl
  have relationships : diagram.uncommented.relationships = diagram.relationships := rfl
  have silent :
      diagram.tables.flatMap (fun table => table.uncommented.commentDefinitions) = [] := by
    simp [Table.commentDefinitions_uncommented]
  rw [definitions, definitions, tables, relationships, foreignKeys_uncommented]
  simp only [List.flatMap_map, silent, ite_self, Options.withoutComments, Bool.false_and,
    Bool.false_eq_true, if_false, Table.indexDefinitions_uncommented]
  cases config.inlineIndexes <;> cases config.foreignKeys <;>
    simp [Definition.uncommented, Function.comp_def, tableElements_uncommented, List.map_flatMap]

end Diagram

/-! ### How it is written -/

namespace Ddl.Target

variable (target : Target)

/-- The target with comments switched off. -/
def withoutComments (target : Target) : Target :=
  { target with options := target.options.withoutComments }

theorem identityPieces_uncommented (table : Table) (field : Field) :
    target.identityPieces table.uncommented field.uncommented =
      target.withoutComments.identityPieces table field := by
  have declares : (table.uncommented.inlinePrimaryKey? target.config).any
      (·.id == field.uncommented.id) =
        (table.inlinePrimaryKey? target.config).any (·.id == field.id) := by
    rw [Table.inlinePrimaryKey?_uncommented]
    cases table.inlinePrimaryKey? target.config <;> rfl
  rw [identityPieces, identityPieces, declares]
  rfl

/-- A column without a comment is written as with comments switched off. -/
theorem columnPieces_uncommented (table : Table) (field : Field) :
    target.columnPieces table.uncommented field.uncommented =
      target.withoutComments.columnPieces table field := by
  have silent : target.columnCommentPieces field.uncommented = [] := by
    rw [columnCommentPieces, Field.hasComment_uncommented, Bool.and_false]
    rfl
  have off : target.withoutComments.columnCommentPieces field = [] := rfl
  rw [columnPieces, columnPieces, identityPieces_uncommented, silent, off]
  rfl

theorem elementPieces_uncommented (table : Table) (element : Element) :
    target.elementPieces table.uncommented element.uncommented =
      target.withoutComments.elementPieces table element := by
  cases element with
  | column field => exact target.columnPieces_uncommented table field
  | primaryKey columns => rfl
  | index definition => rfl
  | foreignKey key => rfl

theorem withTableComment_uncommented (table : Table) (sql : String) :
    target.withTableComment table.uncommented sql = sql ∧
      target.withoutComments.withTableComment table sql = sql := by
  constructor
  · exact target.withTableComment_of_not_hasComment table.hasComment_uncommented sql
  · rw [withTableComment]
    cases target.withoutComments.comments <;> rfl

theorem tableStatement_uncommented (table : Table) (elements : List Element) :
    target.tableStatement table.uncommented (elements.map Element.uncommented) =
      target.withoutComments.tableStatement table elements := by
  have pieces : (elements.map Element.uncommented).map (target.elementPieces table.uncommented) =
      elements.map (target.withoutComments.elementPieces table) := by
    rw [List.map_map]
    exact List.map_congr_left fun element _ => target.elementPieces_uncommented table element
  rw [tableStatement, tableStatement, pieces, (target.withTableComment_uncommented table _).1,
    (target.withTableComment_uncommented table _).2]
  rfl

/-- What is no comment is written without its comments as with comments switched off. -/
theorem statement_uncommented {definition : Definition} (defines : definition.isComment = false) :
    target.statement definition.uncommented = target.withoutComments.statement definition := by
  cases definition with
  | table table elements => exact target.tableStatement_uncommented table elements
  | tableComment table => cases defines
  | columnComment table field => cases defines
  | index definition => rfl
  | foreignKey key => rfl

end Ddl.Target

namespace Diagram

variable (diagram : Diagram)

/-- With comments switched off nothing that is defined is a comment. -/
theorem isComment_of_mem_definitions {config : DialectConfig} {options : Options}
    {definition : Definition}
    (member : definition ∈ diagram.definitions config options.withoutComments) :
    definition.isComment = false := by
  simp only [definitions, Options.withoutComments, Bool.false_and, Bool.false_eq_true, if_false,
    List.append_nil, List.mem_append] at member
  rcases member with (table | index) | key
  · obtain ⟨table, -, rfl⟩ := List.mem_map.mp table
    rfl
  · split at index
    · cases index
    · obtain ⟨index, -, rfl⟩ := List.mem_map.mp index
      rfl
  · split at key
    · obtain ⟨key, -, rfl⟩ := List.mem_map.mp key
      rfl
    · cases key

theorem statementsFor_uncommented (target : Target) :
    diagram.uncommented.statementsFor target = diagram.statementsFor target.withoutComments := by
  rw [statementsFor, definitions_uncommented, List.map_map]
  exact List.map_congr_left fun definition member =>
    target.statement_uncommented (diagram.isComment_of_mem_definitions member)

/-- With comments switched off the SQL of a diagram is, for every engine, that of the diagram
without comments, for which it does not matter whether they are switched on. Hence no comment is
seen in it: two diagrams that differ in comments only are then written in the same way. -/
theorem statements_withoutComments (engine : Engine) (options : Options) :
    diagram.statements engine options.withoutComments =
        diagram.uncommented.statements engine options ∧
      ∀ other : Diagram, other.uncommented = diagram.uncommented →
        other.statements engine options.withoutComments =
          diagram.statements engine options.withoutComments := by
  have silent : ∀ any : Diagram, any.statements engine options.withoutComments =
      any.uncommented.statements engine options := by
    intro any
    rw [statements, statements, statementsFor_uncommented]
    rfl
  refine ⟨silent diagram, fun other same => ?_⟩
  rw [silent other, silent diagram, same]

end Diagram

end EntityDiagram
