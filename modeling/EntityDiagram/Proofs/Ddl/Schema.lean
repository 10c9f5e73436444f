import EntityDiagram.Ddl.Statement
import EntityDiagram.Proofs.Keyed
import Mathlib.Data.Set.Function

/-!
# What the written SQL depends on

SQL is written from the schema of a diagram: from its tables with their columns and indexes, and
from its foreign keys. Where things lie on the canvas does not matter, and ids matter only as far as
they tell tables and fields apart. The schema is cut out of a diagram here, with other ids put in
the place of its own, and every step of the writing is shown to give the same for it.
-/

namespace EntityDiagram

/-- Other ids for tables and for fields. -/
structure Renaming where
  table : String → String
  field : String → String

/-- Every id is kept. -/
def Renaming.refl : Renaming := ⟨id, id⟩

/-! ### The schema of a diagram -/

/-- A field under its other id. -/
def Field.schema (ρ : Renaming) (field : Field) : Field := { field with id := ρ.field field.id }

/-- An index without its id. -/
def Index.schema (index : Index) : Index := { index with id := "" }

/-- A table and its fields under their other ids, without a place and a colour. -/
def Table.schema (ρ : Renaming) (table : Table) : Table where
  id := ρ.table table.id
  name := table.name
  comment := table.comment
  fields := table.fields.map (Field.schema ρ)
  indexes := table.indexes.map Index.schema

/-- A relationship between the other ids of its sides, without its own id and its cardinality. -/
def Relationship.schema (ρ : Renaming) (relationship : Relationship) : Relationship where
  id := ""
  name := relationship.name
  startTableId := ρ.table relationship.startTableId
  startFieldId := ρ.field relationship.startFieldId
  endTableId := ρ.table relationship.endTableId
  endFieldId := ρ.field relationship.endFieldId
  updateConstraint := relationship.updateConstraint
  deleteConstraint := relationship.deleteConstraint

namespace Diagram

/-- The tables and relationships of a diagram under their other ids, without all else. -/
def schema (ρ : Renaming) (diagram : Diagram) : Diagram where
  tables := diagram.tables.map (Table.schema ρ)
  relationships := diagram.relationships.map (Relationship.schema ρ)

@[simp] theorem tables_schema (ρ : Renaming) (diagram : Diagram) :
    (diagram.schema ρ).tables = diagram.tables.map (Table.schema ρ) := rfl

@[simp] theorem relationships_schema (ρ : Renaming) (diagram : Diagram) :
    (diagram.schema ρ).relationships = diagram.relationships.map (Relationship.schema ρ) := rfl

/-- The ids of tables that occur in a diagram, also those that no table has. -/
def tableIds (diagram : Diagram) : List String :=
  diagram.tables.map Table.id ++
    diagram.relationships.flatMap fun r => [r.startTableId, r.endTableId]

/-- The ids of fields that occur in a diagram, also those that no field has. -/
def fieldIds (diagram : Diagram) : List String :=
  (diagram.tables.flatMap fun table => table.fields.map Field.id) ++
    diagram.relationships.flatMap fun r => [r.startFieldId, r.endFieldId]

variable {diagram : Diagram}

theorem id_mem_tableIds {table : Table} (listed : table ∈ diagram.tables) :
    table.id ∈ diagram.tableIds :=
  List.mem_append_left _ (List.mem_map_of_mem listed)

theorem fields_subset_fieldIds {table : Table} (listed : table ∈ diagram.tables) :
    table.fields.map Field.id ⊆ diagram.fieldIds :=
  fun _ own => List.mem_append_left _ (List.mem_flatMap.mpr ⟨table, listed, own⟩)

/-- The ids of the sides of a relationship occur, whether the sides are there or not. -/
theorem sides_mem_ids {r : Relationship} (drawn : r ∈ diagram.relationships) :
    (r.startTableId ∈ diagram.tableIds ∧ r.startFieldId ∈ diagram.fieldIds) ∧
      r.endTableId ∈ diagram.tableIds ∧ r.endFieldId ∈ diagram.fieldIds := by
  have tables {id : String} (side : id ∈ [r.startTableId, r.endTableId]) :
      id ∈ diagram.tableIds :=
    List.mem_append_right _ (List.mem_flatMap.mpr ⟨r, drawn, side⟩)
  have fields {id : String} (side : id ∈ [r.startFieldId, r.endFieldId]) :
      id ∈ diagram.fieldIds :=
    List.mem_append_right _ (List.mem_flatMap.mpr ⟨r, drawn, side⟩)
  exact ⟨⟨tables (by simp), fields (by simp)⟩, tables (by simp), fields (by simp)⟩

end Diagram

/-- Different ids of a diagram stay different. -/
structure Renaming.Separates (ρ : Renaming) (diagram : Diagram) : Prop where
  tables : Set.InjOn ρ.table {id | id ∈ diagram.tableIds}
  fields : Set.InjOn ρ.field {id | id ∈ diagram.fieldIds}

theorem Renaming.separates_refl (diagram : Diagram) : Renaming.refl.Separates diagram where
  tables := Set.injOn_id _
  fields := Set.injOn_id _

/-! ### Tables by themselves -/

namespace Table

variable {ρ : Renaming} {table : Table}

theorem hasFieldNamed_schema (name : String) :
    (table.schema ρ).hasFieldNamed name = table.hasFieldNamed name := by
  simp [hasFieldNamed, schema, List.any_map, Function.comp_def, Field.schema]

theorem columnsOf_schema (index : Index) :
    (table.schema ρ).columnsOf index.schema = table.columnsOf index :=
  List.filter_congr fun name _ => hasFieldNamed_schema name

theorem primaryFields_schema :
    (table.schema ρ).primaryFields = table.primaryFields.map (Field.schema ρ) := by
  simp [primaryFields, schema, List.filter_map, Function.comp_def, Field.schema]

theorem inlinePrimaryKey?_schema (config : DialectConfig) :
    (table.schema ρ).inlinePrimaryKey? config =
      (table.inlinePrimaryKey? config).map (Field.schema ρ) := by
  rw [inlinePrimaryKey?, inlinePrimaryKey?, primaryFields_schema]
  rcases config.increment with sql | sql | sql
  · rfl
  · rfl
  · rcases table.primaryFields with _ | ⟨field, _ | ⟨second, rest⟩⟩
    · rfl
    · change (if field.increment then some (field.schema ρ) else none) =
        Option.map (Field.schema ρ) (if field.increment then some field else none)
      split <;> rfl
    · rfl

/-- A field under its other id is what its other id leads to. -/
theorem field?_schema {id : String}
    (apart : ∀ field ∈ table.fields, ρ.field field.id = ρ.field id → field.id = id) :
    (table.schema ρ).field? (ρ.field id) = (table.field? id).map (Field.schema ρ) :=
  Keyed.find?_map (fun _ => rfl) apart

end Table

/-! ### What a diagram defines -/

namespace Ddl

/-- A foreign key between tables and fields under their other ids. -/
def ForeignKey.schema (ρ : Renaming) (key : ForeignKey) : ForeignKey :=
  { key with
    table := key.table.schema ρ
    field := key.field.schema ρ
    refTable := key.refTable.schema ρ
    refField := key.refField.schema ρ }

/-- The definition of an index of a table under its other id. -/
def IndexDefinition.schema (ρ : Renaming) (definition : IndexDefinition) : IndexDefinition :=
  { definition with table := definition.table.schema ρ, index := definition.index.schema }

/-- An element of a table under its other id. -/
def Element.schema (ρ : Renaming) : Element → Element
  | .column field => .column (field.schema ρ)
  | .primaryKey columns => .primaryKey columns
  | .index definition => .index (definition.schema ρ)
  | .foreignKey key => .foreignKey (key.schema ρ)

/-- A definition with tables and fields under their other ids. -/
def Definition.schema (ρ : Renaming) : Definition → Definition
  | .table own elements => .table (own.schema ρ) (elements.map (Element.schema ρ))
  | .tableComment own => .tableComment (own.schema ρ)
  | .columnComment own field => .columnComment (own.schema ρ) (field.schema ρ)
  | .index definition => .index (definition.schema ρ)
  | .foreignKey key => .foreignKey (key.schema ρ)

end Ddl

open Ddl

namespace Table

variable {ρ : Renaming} {table : Table}

theorem indexDefinition?_schema (index : Index) :
    (table.schema ρ).indexDefinition? index.schema =
      (table.indexDefinition? index).map (IndexDefinition.schema ρ) := by
  simp only [indexDefinition?, columnsOf_schema]
  split <;> rfl

theorem indexDefinitions_schema :
    (table.schema ρ).indexDefinitions =
      table.indexDefinitions.map (IndexDefinition.schema ρ) := by
  rw [indexDefinitions, indexDefinitions, schema, List.filterMap_map, List.map_filterMap]
  exact List.filterMap_congr fun index _ => indexDefinition?_schema index

theorem primaryKeyElements_schema (config : DialectConfig) :
    (table.schema ρ).primaryKeyElements config =
      (table.primaryKeyElements config).map (Element.schema ρ) := by
  simp only [primaryKeyElements, inlinePrimaryKey?_schema, primaryFields_schema,
    Option.isSome_map, List.isEmpty_map, List.map_map, apply_ite (List.map (Element.schema ρ))]
  rfl

theorem commentDefinitions_schema :
    (table.schema ρ).commentDefinitions =
      table.commentDefinitions.map (Definition.schema ρ) := by
  have own : (table.schema ρ).hasComment = table.hasComment := rfl
  have columns : (table.schema ρ).fields.filter Field.hasComment =
      (table.fields.filter Field.hasComment).map (Field.schema ρ) := List.filter_map
  rw [commentDefinitions, commentDefinitions, own, columns]
  cases table.hasComment <;> simp [Definition.schema, Function.comp_def]

end Table

namespace Diagram

variable {ρ : Renaming} {diagram : Diagram} (separates : ρ.Separates diagram)

include separates

/-- Ids that are there are found under the other ids as under their own. -/
theorem resolve?_schema {tableId fieldId : String} (source : tableId ∈ diagram.tableIds)
    (column : fieldId ∈ diagram.fieldIds) :
    (diagram.schema ρ).resolve? ⟨ρ.table tableId, ρ.field fieldId⟩ =
      (diagram.resolve? ⟨tableId, fieldId⟩).map fun found =>
        (found.1.schema ρ, found.2.schema ρ) := by
  have tables : ∀ table ∈ diagram.tables,
      ρ.table table.id = ρ.table tableId → table.id = tableId := by
    intro table listed
    exact separates.tables (id_mem_tableIds listed) source
  have found : (diagram.schema ρ).table? (ρ.table tableId) =
      (diagram.table? tableId).map (Table.schema ρ) :=
    Keyed.find?_map (fun _ => rfl) tables
  rw [resolve?, resolve?, found]
  cases leads : diagram.table? tableId with
  | none => rfl
  | some table =>
      have fields : ∀ field ∈ table.fields,
          ρ.field field.id = ρ.field fieldId → field.id = fieldId := by
        intro field own
        have listed := Keyed.mem_of_find?_eq_some leads
        exact separates.fields (fields_subset_fieldIds listed (List.mem_map_of_mem own)) column
      have column := Table.field?_schema fields
      simp only [Option.map_some, Option.bind_eq_bind, Option.bind_some, column]
      cases table.field? fieldId <;> rfl

theorem foreignKey?_schema {r : Relationship} (drawn : r ∈ diagram.relationships) :
    (diagram.schema ρ).foreignKey? (r.schema ρ) =
      (diagram.foreignKey? r).map (ForeignKey.schema ρ) := by
  obtain ⟨source, target⟩ := sides_mem_ids drawn
  have start := resolve?_schema separates source.1 source.2
  have finish := resolve?_schema separates target.1 target.2
  simp only [foreignKey?, Relationship.start, Relationship.target, Relationship.schema, start,
    finish]
  cases diagram.resolve? ⟨r.startTableId, r.startFieldId⟩ with
  | none => rfl
  | some referring =>
      cases diagram.resolve? ⟨r.endTableId, r.endFieldId⟩ with
      | none => rfl
      | some referred => rfl

theorem foreignKeys_schema {relationships : List Relationship}
    (drawn : relationships ⊆ diagram.relationships) :
    (relationships.map (Relationship.schema ρ)).filterMap (diagram.schema ρ).foreignKey? =
      (relationships.filterMap diagram.foreignKey?).map (ForeignKey.schema ρ) := by
  rw [List.filterMap_map, List.map_filterMap]
  exact List.filterMap_congr fun r member => foreignKey?_schema separates (drawn member)

theorem foreignKeysFrom_schema {table : Table} (listed : table ∈ diagram.tables) :
    (diagram.schema ρ).foreignKeysFrom (table.schema ρ).id =
      (diagram.foreignKeysFrom table.id).map (ForeignKey.schema ρ) := by
  have kept : (diagram.schema ρ).relationships.filter (·.startTableId == (table.schema ρ).id) =
      (diagram.relationships.filter (·.startTableId == table.id)).map (Relationship.schema ρ) := by
    rw [relationships_schema, List.filter_map]
    refine congrArg (List.map (Relationship.schema ρ)) (List.filter_congr fun r drawn => ?_)
    rw [Bool.eq_iff_iff, Function.comp_apply, beq_iff_eq, beq_iff_eq]
    exact separates.tables.eq_iff (sides_mem_ids drawn).1.1 (id_mem_tableIds listed)
  rw [foreignKeysFrom, foreignKeysFrom, kept]
  exact foreignKeys_schema separates fun _ => List.mem_of_mem_filter

theorem tableElements_schema (config : DialectConfig) {table : Table}
    (listed : table ∈ diagram.tables) :
    (diagram.schema ρ).tableElements config (table.schema ρ) =
      (diagram.tableElements config table).map (Element.schema ρ) := by
  have columns : (table.schema ρ).fields.map Element.column =
      (table.fields.map .column).map (Element.schema ρ) := by
    simp [Table.schema, Element.schema, Function.comp_def]
  have indexes : (table.indexDefinitions.map (IndexDefinition.schema ρ)).map Element.index =
      (table.indexDefinitions.map .index).map (Element.schema ρ) := by
    simp [Element.schema, Function.comp_def]
  have keys : ((diagram.foreignKeysFrom table.id).map (ForeignKey.schema ρ)).map
      Element.foreignKey = ((diagram.foreignKeysFrom table.id).map .foreignKey).map
        (Element.schema ρ) := by
    simp [Element.schema, Function.comp_def]
  rw [tableElements, tableElements, columns, Table.primaryKeyElements_schema,
    Table.indexDefinitions_schema, foreignKeysFrom_schema separates listed, indexes, keys]
  cases config.inlineIndexes <;> cases config.foreignKeys <;> simp

/-- What a schema defines is what its diagram defines, under the other ids. -/
theorem definitions_schema (config : DialectConfig) (options : Options) :
    (diagram.schema ρ).definitions config options =
      (diagram.definitions config options).map (Definition.schema ρ) := by
  have tables : (diagram.schema ρ).tables.map (fun table =>
      Definition.table table ((diagram.schema ρ).tableElements config table)) =
      (diagram.tables.map fun table =>
        Definition.table table (diagram.tableElements config table)).map
          (Definition.schema ρ) := by
    rw [tables_schema, List.map_map, List.map_map]
    refine List.map_congr_left fun table listed => ?_
    have elements := tableElements_schema separates config listed
    exact congrArg (Definition.table (table.schema ρ)) elements
  have comments : (diagram.schema ρ).tables.flatMap Table.commentDefinitions =
      (diagram.tables.flatMap Table.commentDefinitions).map (Definition.schema ρ) := by
    simp [List.flatMap_map, List.map_flatMap, Table.commentDefinitions_schema]
  have indexes : ((diagram.schema ρ).tables.flatMap Table.indexDefinitions).map
      Definition.index = ((diagram.tables.flatMap Table.indexDefinitions).map
        Definition.index).map (Definition.schema ρ) := by
    simp [List.flatMap_map, List.map_flatMap, Table.indexDefinitions_schema,
      Definition.schema, Function.comp_def]
  have keys : ((diagram.schema ρ).relationships.filterMap (diagram.schema ρ).foreignKey?).map
      Definition.foreignKey = ((diagram.relationships.filterMap diagram.foreignKey?).map
        Definition.foreignKey).map (Definition.schema ρ) := by
    rw [relationships_schema, foreignKeys_schema separates (List.Subset.refl _)]
    simp [Definition.schema, Function.comp_def]
  rw [definitions, definitions, tables, comments, indexes, keys]
  simp only [List.map_append, apply_ite (List.map (Definition.schema ρ)), List.map_nil]
  cases config.foreignKeys <;> rfl

end Diagram

/-! ### How definitions are written -/

/-- A column that declares the primary key is a column of its table. -/
theorem Table.mem_fields_of_inlinePrimaryKey? {table : Table} {config : DialectConfig}
    {key : Field} (found : table.inlinePrimaryKey? config = some key) : key ∈ table.fields := by
  rw [inlinePrimaryKey?] at found
  split at found
  · next only =>
    have primary : key ∈ table.primaryFields := by
      rw [only]
      split at found
      · exact List.mem_singleton.mpr (Option.some.inj found).symm
      · cases found
    exact List.mem_of_mem_filter primary
  · cases found

namespace Ddl.Target

variable {ρ : Renaming} {table : Table} (target : Target)
  (apart : Set.InjOn ρ.field {id | id ∈ table.fields.map Field.id})

include apart

/-- Whether a column counts up depends on ids only in whether they are equal. -/
theorem identityPieces_schema {field : Field} (listed : field ∈ table.fields) :
    target.identityPieces (table.schema ρ) (field.schema ρ) =
      target.identityPieces table field := by
  have declares : ((table.schema ρ).inlinePrimaryKey? target.config).any
      (·.id == (field.schema ρ).id) =
        (table.inlinePrimaryKey? target.config).any (·.id == field.id) := by
    rw [Table.inlinePrimaryKey?_schema]
    cases found : table.inlinePrimaryKey? target.config with
    | none => rfl
    | some key =>
        have known := Table.mem_fields_of_inlinePrimaryKey? found
        have same : ρ.field key.id = ρ.field field.id ↔ key.id = field.id :=
          apart.eq_iff (List.mem_map_of_mem known) (List.mem_map_of_mem listed)
        change (ρ.field key.id == ρ.field field.id) = (key.id == field.id)
        rw [Bool.eq_iff_iff, beq_iff_eq, beq_iff_eq, same]
  rw [identityPieces, identityPieces, declares]
  rfl

theorem columnPieces_schema {field : Field} (listed : field ∈ table.fields) :
    target.columnPieces (table.schema ρ) (field.schema ρ) = target.columnPieces table field := by
  rw [columnPieces, columnPieces, identityPieces_schema target apart listed]
  rfl

theorem elementPieces_schema {element : Element}
    (columns : ∀ field, element = .column field → field ∈ table.fields) :
    target.elementPieces (table.schema ρ) (element.schema ρ) =
      target.elementPieces table element := by
  cases element with
  | column field => exact columnPieces_schema target apart (columns field rfl)
  | primaryKey columns => rfl
  | index definition => rfl
  | foreignKey key => rfl

theorem tableStatement_schema {elements : List Element}
    (columns : ∀ field, .column field ∈ elements → field ∈ table.fields) :
    target.tableStatement (table.schema ρ) (elements.map (Element.schema ρ)) =
      target.tableStatement table elements := by
  have pieces : (elements.map (Element.schema ρ)).map (target.elementPieces (table.schema ρ)) =
      elements.map (target.elementPieces table) := by
    rw [List.map_map]
    refine List.map_congr_left fun element member => ?_
    exact elementPieces_schema target apart fun field same => columns field (same ▸ member)
  rw [tableStatement, tableStatement, pieces]
  rfl

end Ddl.Target

namespace Diagram

variable {ρ : Renaming} {diagram : Diagram}

/-- The schema of a diagram is written as the diagram itself. -/
theorem statementsFor_schema (separates : ρ.Separates diagram) (target : Target) :
    (diagram.schema ρ).statementsFor target = diagram.statementsFor target := by
  rw [statementsFor, statementsFor, definitions_schema separates, List.map_map]
  refine List.map_congr_left fun definition member => ?_
  cases definition with
  | table table elements =>
      obtain ⟨listed, rfl⟩ := mem_tables_of_mem_definitions member
      have apart : Set.InjOn ρ.field {id | id ∈ table.fields.map Field.id} :=
        separates.fields.mono fun _ own => fields_subset_fieldIds listed own
      exact target.tableStatement_schema apart fun _ => mem_fields_of_mem_tableElements
  | tableComment table => rfl
  | columnComment table field => rfl
  | index definition => rfl
  | foreignKey key => rfl

/-- SQL depends on the schema alone. Two diagrams with the same schema, up to ids under which
different tables and different fields stay different, are written in the same way for every engine
and with all options. -/
theorem statements_eq_of_schema_eq {first second : Diagram} (separates : ρ.Separates first)
    (same : second.schema .refl = first.schema ρ) (engine : Engine) (options : Options) :
    second.statements engine options = first.statements engine options := by
  have own := statementsFor_schema (Renaming.separates_refl second)
    ⟨engine.config, engine.comments, options⟩
  rw [statements, statements, ← own, same, statementsFor_schema separates]

/-- Staff with a boss on the staff and a reference to a table that is gone, drawn twice under other
ids and in other colours: SQLite is given the same table, whose number declares the primary key. -/
theorem statements_eq_of_schema_eq_staff :
    let ρ : Renaming := ⟨("t/" ++ ·), ("f/" ++ ·)⟩
    let number (id : String) : Field :=
      { id, name := "number", dataType := "INT", primary := true, increment := true }
    let boss (id : String) : Field := { id, name := "boss", dataType := "INT" }
    let first : Diagram := {
      tables := [{
        id := "a", name := "staff", fields := [number "b", boss "c"]
        indexes := [{ id := "i", fields := ["boss"] }] }]
      relationships := [.between "r" ⟨"a", "c"⟩ ⟨"a", "b"⟩, .between "s" ⟨"a", "c"⟩ ⟨"d", "b"⟩] }
    let second : Diagram := {
      title := "Staff", dialect := .oracle, notes := [{ id := "n" }]
      tables := [{
        id := "t/a", name := "staff", position := ⟨8, 5⟩, color := some "#ffe4c4"
        fields := [number "f/b", boss "f/c"], indexes := [{ id := "k", fields := ["boss"] }] }]
      relationships := [
        { Relationship.between "p" ⟨"t/a", "f/c"⟩ ⟨"t/a", "f/b"⟩ with cardinality := .manyToOne },
        .between "q" ⟨"t/a", "f/c"⟩ ⟨"t/d", "f/b"⟩] }
    ρ.Separates first ∧ second.schema .refl = first.schema ρ ∧
      second.statements Dialect.sqlite.engine {} = first.statements Dialect.sqlite.engine {} ∧
      first.statements Dialect.sqlite.engine {} = [
        "CREATE TABLE \"staff\" (\n\t\"number\" INTEGER PRIMARY KEY AUTOINCREMENT NOT NULL,\n" ++
          "\t\"boss\" INTEGER,\n\tCONSTRAINT \"fk_staff_boss_staff\" FOREIGN KEY(\"boss\") " ++
          "REFERENCES \"staff\"(\"number\") ON UPDATE NO ACTION ON DELETE NO ACTION\n);",
        "CREATE INDEX \"staff_boss_index\" ON \"staff\" (\"boss\");"] := by
  intro ρ number boss first second
  have separates : ρ.Separates first :=
    ⟨fun _ _ _ _ same => by simpa [ρ] using same, fun _ _ _ _ same => by simpa [ρ] using same⟩
  have same : second.schema .refl = first.schema ρ := by rfl
  have written := statements_eq_of_schema_eq separates same Dialect.sqlite.engine {}
  exact ⟨separates, same, written, by decide +kernel⟩

end Diagram

end EntityDiagram
