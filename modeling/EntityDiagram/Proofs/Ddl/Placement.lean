import EntityDiagram.Ddl.Statement
import EntityDiagram.Proofs.Keyed

/-!
# Where foreign keys and indexes are written

Some engines want a foreign key or an index among the elements of its table, others in a statement
of its own. A `Placement` says which of them stand where, and `Placement.sql` spells out, clause by
clause, the SQL that a placement stands for. The statements of a diagram are those of the placement
for its engine. Whatever the engine, the same foreign keys and the same indexes are placed, each
once: those of the relationships with both sides there, and of the indexes with a column there.
-/

namespace EntityDiagram

namespace Ddl

namespace Target

variable (target : Target)

/-! ### The text of a clause -/

/-- The access method that an index is written with: the one asked for, in capitals and without the
blanks around it, if the engine knows it. A blank one is not asked for. -/
def method? (definition : IndexDefinition) : Option String :=
  match definition.index.indexType with
  | some asked =>
    if !Text.isAllBlank asked && target.config.supportsIndexType (Text.trim asked) then
      some (Text.upper (Text.trim asked))
    else none
  | none => none

/-- The word in front of an index without doubles. -/
def uniqueWord (definition : IndexDefinition) : String :=
  if definition.index.unique then "UNIQUE " else ""

/-- An index among the elements of its table. -/
def indexClause (definition : IndexDefinition) : String :=
  uniqueWord definition ++ "INDEX " ++ target.config.quoteIdentifier definition.name ++ " (" ++
    target.config.quotedList definition.columns ++ ")" ++
    match target.method? definition with
    | some method => " USING " ++ method
    | none => ""

/-- An index as a statement of its own. -/
def createIndex (definition : IndexDefinition) : String :=
  let create := "CREATE " ++ uniqueWord definition
  let index := "INDEX " ++ target.ifNotExists ++ target.config.quoteIdentifier definition.name ++
    " ON " ++ target.config.quoteIdentifier definition.table.name
  let columns := " (" ++ target.config.quotedList definition.columns ++ ")"
  match target.method? definition, target.config.indexTypePlacement with
  | none, _ => create ++ index ++ columns
  | some method, .modifier => create ++ method ++ " " ++ index ++ columns
  | some method, .usingBeforeColumns => create ++ index ++ " USING " ++ method ++ columns
  | some method, .usingSuffix => create ++ index ++ columns ++ " USING " ++ method

/-- The action of a foreign key on an event, where the engine knows it. -/
def actionClause (event : String) (action : ForeignKeyAction) (supported : Bool) : String :=
  if supported then " ON " ++ event ++ " " ++ action.sql else ""

/-- A foreign key among the elements of its table. -/
def foreignKeyClause (key : ForeignKey) : String :=
  "CONSTRAINT " ++ target.config.quoteIdentifier key.name ++ " FOREIGN KEY(" ++
    target.config.quoteIdentifier key.field.name ++ ") REFERENCES " ++
    target.config.quoteIdentifier key.refTable.name ++ "(" ++
    target.config.quoteIdentifier key.refField.name ++ ")" ++
    actionClause "UPDATE" key.onUpdate (target.config.supportsUpdateAction key.onUpdate) ++
    actionClause "DELETE" key.onDelete (target.config.supportsDeleteAction key.onDelete)

/-- A foreign key as a statement of its own. -/
def alterTable (key : ForeignKey) : String :=
  "ALTER TABLE " ++ target.config.quoteIdentifier key.table.name ++ " ADD " ++
    target.foreignKeyClause key

/-- A column: its name, and whatever else is said about it. -/
def columnLine (table : Table) (field : Field) : String :=
  target.config.quoteIdentifier field.name ++ " " ++
    Text.join " " (Piece.clauses (target.columnPieces table field)).tail

/-- The line for a primary key that no column declares, if there is one. -/
def primaryKeyLines (table : Table) : List String :=
  if (table.inlinePrimaryKey? target.config).isSome || table.primaryFields.isEmpty then []
  else ["PRIMARY KEY(" ++ target.config.quotedList (table.primaryFields.map Field.name) ++ ")"]

/-- The comment in front of a table. -/
def commentBefore (table : Table) : String :=
  match target.comments with
  | .sqlText =>
    if target.options.includeComments && table.hasComment then
      lineComment table.comment ++ "\n"
    else ""
  | _ => ""

/-- The comment behind a table. -/
def commentBehind (table : Table) : String :=
  match target.comments with
  | .sqlText => ""
  | _ =>
    if target.writesComments .inline && table.hasComment then
      " COMMENT=" ++ target.config.quoteString table.comment
    else ""

/-- A table with the given lines between its parentheses, and with its comment in front of it or
behind it where the engine wants it there. -/
def createTable (table : Table) (lines : List String) : String :=
  target.commentBefore table ++
    ("CREATE TABLE " ++ target.ifNotExists ++ target.config.quoteIdentifier table.name ++ " (\n" ++
      Text.join ",\n" (lines.map ("\t" ++ ·)) ++ "\n)") ++
    target.commentBehind table

/-- The statements for the comments of a diagram. -/
def commentStatements (diagram : Diagram) : List String :=
  (if target.options.includeComments && target.config.commentStyle == .statement then
    diagram.tables.flatMap Table.commentDefinitions else []).map fun comment =>
      (target.statement comment).sql

/-! ### The pieces of a clause make up its text -/

private theorem literals :
    "UNIQUE " = "UNIQUE" ++ " " ∧ " USING " = " " ++ "USING " ∧ " (" = " " ++ "(" ∧
      "CREATE " = "CREATE" ++ " " ∧ " ON " = " " ++ "ON " :=
  ⟨rfl, rfl, rfl, rfl, rfl⟩

theorem clauses_methodPieces (definition : IndexDefinition) :
    Piece.clauses (target.methodPieces definition) = (target.method? definition).toList := by
  rw [methodPieces, method?]
  cases definition.index.indexType with
  | none => rfl
  | some asked =>
      rw [Text.nonBlank?_some]
      cases blank : Text.isAllBlank asked <;>
        cases known : target.config.supportsIndexType (Text.trim asked) <;> simp [blank, known]

theorem clauses_usingPieces (definition : IndexDefinition) :
    Piece.clauses (behindWord "USING " (target.methodPieces definition)) =
      (target.method? definition).toList.map ("USING " ++ ·) := by
  rw [← clauses_methodPieces]
  induction target.methodPieces definition with
  | nil => rfl
  | cons piece rest ih => cases piece <;> simp_all [behindWord]

theorem text_inlineIndexPieces (definition : IndexDefinition) :
    Piece.text (target.inlineIndexPieces definition) = target.indexClause definition := by
  obtain ⟨unique, using', -⟩ := literals
  unfold Piece.text inlineIndexPieces indexClause uniqueWord
  -- The quoted names are opaque from here on: they would be compared letter by letter.
  generalize target.config.quoteIdentifier definition.name = name
  generalize target.config.quotedList definition.columns = columns
  simp only [unique, using', Piece.clauses_append, Piece.clauses_clauseIf,
    Piece.clauses_cons_clause, Piece.clauses_nil, clauses_usingPieces]
  cases definition.index.unique <;> cases target.method? definition <;>
    simp only [Bool.false_eq_true, if_true, if_false, Option.toList_none, Option.toList_some,
      List.map_nil, List.map_cons, List.append_nil, List.nil_append, List.cons_append,
      Text.join_cons_cons, Text.join_singleton, String.append_assoc, String.append_empty,
      String.empty_append]

theorem text_indexPieces (definition : IndexDefinition) :
    Piece.text (target.indexPieces definition) = target.createIndex definition := by
  obtain ⟨unique, using', parenthesis, create, -⟩ := literals
  unfold Piece.text indexPieces createIndex uniqueWord
  generalize target.config.quoteIdentifier definition.name = name
  generalize target.config.quoteIdentifier definition.table.name = table
  generalize target.config.quotedList definition.columns = columns
  simp only [unique, using', parenthesis, create]
  cases target.config.indexTypePlacement <;> cases definition.index.unique <;>
    cases method : target.method? definition <;>
    simp only [Piece.clauses_append, Piece.clauses_clauseIf, Piece.clauses_cons_clause,
      Piece.clauses_nil, clauses_usingPieces, clauses_methodPieces, method, Bool.false_eq_true,
      if_true, if_false, Option.toList_none, Option.toList_some, List.map_nil, List.map_cons,
      List.nil_append, List.cons_append, Text.join_cons_cons, Text.join_singleton,
      String.append_assoc, String.append_empty]

theorem clauses_actionPieces (key : ForeignKey) (event : String) (action : ForeignKeyAction)
    (supported : Bool) :
    Piece.clauses (target.actionPieces key event action supported) =
      if supported then ["ON " ++ event ++ " " ++ action.sql] else [] := by
  rw [actionPieces]
  split
  · rfl
  · split <;> rfl

theorem text_foreignKeyPieces (key : ForeignKey) :
    Piece.text (target.foreignKeyPieces key) = target.foreignKeyClause key := by
  obtain ⟨-, -, -, -, on⟩ := literals
  unfold Piece.text foreignKeyPieces foreignKeyClause actionClause
  dsimp only
  generalize target.config.quoteIdentifier key.name = name
  generalize target.config.quoteIdentifier key.field.name = field
  generalize target.config.quoteIdentifier key.refTable.name = refTable
  generalize target.config.quoteIdentifier key.refField.name = refField
  rw [on]
  simp only [Piece.clauses_append, Piece.clauses_cons_clause, Piece.clauses_nil,
    clauses_actionPieces]
  split <;> split <;>
    simp only [List.append_nil, List.nil_append, List.cons_append, Text.join_cons_cons,
      Text.join_singleton, String.append_assoc, String.append_empty]

theorem text_columnPieces (table : Table) (field : Field) :
    Piece.text (target.columnPieces table field) = target.columnLine table field := by
  unfold Piece.text columnLine columnPieces
  simp only [List.append_assoc, List.cons_append, List.nil_append, Piece.clauses_cons_clause,
    Text.join_cons_cons, List.tail_cons]

theorem text_primaryKeyElements (table : Table) :
    (table.primaryKeyElements target.config).map
        (fun element => Piece.text (target.elementPieces table element)) =
      target.primaryKeyLines table := by
  rw [Table.primaryKeyElements, primaryKeyLines]
  split
  · rfl
  · rw [List.map_singleton, elementPieces, Piece.text, Piece.clauses_cons_clause,
      Piece.clauses_nil, Text.join_singleton]

/-- A table with its comment is the text of the table as it is, between what the comment adds in
front of it and behind it. -/
theorem withTableComment_eq (table : Table) (sql : String) :
    target.withTableComment table sql =
      target.commentBefore table ++ sql ++ target.commentBehind table := by
  unfold withTableComment commentBefore commentBehind
  cases target.comments <;> dsimp only <;> split <;> simp [String.append_assoc]

theorem sql_statement_table (table : Table) (elements : List Element) :
    (target.statement (.table table elements)).sql =
      target.createTable table
        (elements.map fun element => Piece.text (target.elementPieces table element)) := by
  unfold statement tableStatement createTable
  dsimp only
  rw [withTableComment_eq, List.map_map, List.map_map, Function.comp_def]
  rfl

end Target

/-! ### Placements -/

/-- Which foreign keys and indexes stand among the elements of their tables, and which in
statements of their own. -/
structure Placement where
  /-- The foreign keys among the elements of a table, in order. -/
  keysIn : Table → List ForeignKey
  /-- The indexes among the elements of a table, in order. -/
  indexesIn : Table → List IndexDefinition
  /-- The foreign keys in statements of their own, in order. -/
  keys : List ForeignKey
  /-- The indexes in statements of their own, in order. -/
  indexes : List IndexDefinition

namespace Placement

/-- Every foreign key of some tables, wherever it stands. -/
def allKeys (placement : Placement) (tables : List Table) : List ForeignKey :=
  tables.flatMap placement.keysIn ++ placement.keys

/-- Every index of some tables, wherever it stands. -/
def allIndexes (placement : Placement) (tables : List Table) : List IndexDefinition :=
  tables.flatMap placement.indexesIn ++ placement.indexes

/-- The lines of a table: columns, primary key, and the indexes and foreign keys placed there. -/
def lines (placement : Placement) (target : Target) (table : Table) : List String :=
  table.fields.map (target.columnLine table) ++ target.primaryKeyLines table ++
    (placement.indexesIn table).map target.indexClause ++
    (placement.keysIn table).map target.foreignKeyClause

/-- The statements that a placement stands for: the tables, the comments, and the indexes and the
foreign keys that are not placed in a table. -/
def sql (placement : Placement) (target : Target) (diagram : Diagram) : List String :=
  diagram.tables.map (fun table => target.createTable table (placement.lines target table)) ++
    target.commentStatements diagram ++
    placement.indexes.map target.createIndex ++
    placement.keys.map target.alterTable

end Placement

end Ddl

open Ddl

/-- What SQL for a built-in engine is written for. -/
def Dialect.target (dialect : Dialect) (options : Options) : Target :=
  ⟨dialect.config, dialect.commentSyntax, options⟩

namespace Table

/-- An index is defined if one of its columns is there, with those of its columns that are. -/
theorem indexDefinition?_eq_some_iff {table : Table} {index : Index}
    {definition : IndexDefinition} :
    table.indexDefinition? index = some definition ↔
      (∃ column ∈ index.fields, table.hasFieldNamed column = true) ∧
        definition = ⟨table, index, table.indexName index, table.columnsOf index⟩ := by
  have some_column : (table.columnsOf index).isEmpty = false ↔
      ∃ column ∈ index.fields, table.hasFieldNamed column = true := by
    simp [columnsOf]
  rw [← some_column]
  simp only [indexDefinition?]
  split
  · next none => simp [none]
  · next found => simp [found, eq_comm]

theorem table_of_mem_indexDefinitions {table : Table} {definition : IndexDefinition}
    (member : definition ∈ table.indexDefinitions) : definition.table = table := by
  obtain ⟨index, -, defined⟩ := List.mem_filterMap.mp member
  rw [(indexDefinition?_eq_some_iff.mp defined).2]

end Table

namespace Diagram

/-- Where an engine wants the foreign keys and the indexes of a diagram. -/
def placement (diagram : Diagram) (config : DialectConfig) : Placement where
  keysIn table :=
    match config.foreignKeys with
    | .inline => diagram.foreignKeysFrom table.id
    | .alterTable => []
  indexesIn table := if config.inlineIndexes then table.indexDefinitions else []
  keys :=
    match config.foreignKeys with
    | .alterTable => diagram.relationships.filterMap diagram.foreignKey?
    | .inline => []
  indexes := if config.inlineIndexes then [] else diagram.tables.flatMap Table.indexDefinitions

variable {diagram : Diagram}

/-- The elements of a table make up the lines of its placement. -/
theorem text_tableElements (diagram : Diagram) (target : Target) (table : Table) :
    (diagram.tableElements target.config table).map
        (fun element => Piece.text (target.elementPieces table element)) =
      (diagram.placement target.config).lines target table := by
  simp only [tableElements, Placement.lines, placement, List.map_append,
    target.text_primaryKeyElements]
  cases target.config.inlineIndexes <;> cases target.config.foreignKeys <;>
    simp only [List.map_map, Function.comp_def, Target.elementPieces, Target.text_columnPieces,
      Target.text_inlineIndexPieces, Target.text_foreignKeyPieces, List.map_nil, if_true,
      Bool.false_eq_true, if_false]

/-- The statements of a diagram are those of its placement. -/
theorem sql_statementsFor (diagram : Diagram) (target : Target) :
    (diagram.statementsFor target).map Statement.sql =
      (diagram.placement target.config).sql target diagram := by
  have index : ∀ index, (target.statement (.index index)).sql = target.createIndex index :=
    target.text_indexPieces
  have key : ∀ key, (target.statement (.foreignKey key)).sql = target.alterTable key := by
    intro key
    unfold Target.statement Target.alterTable
    dsimp only
    exact congrArg _ (target.text_foreignKeyPieces key)
  simp only [statementsFor, definitions, Placement.sql, Target.commentStatements, List.map_append,
    List.map_map, Function.comp_def, target.sql_statement_table, text_tableElements]
  congr 1
  · congr 1
    simp only [placement]
    cases target.config.inlineIndexes <;>
      simp only [List.map_map, Function.comp_def, index, List.map_nil, if_true,
        Bool.false_eq_true, if_false]
  · simp only [placement]
    cases target.config.foreignKeys <;>
      simp only [List.map_map, Function.comp_def, key, List.map_nil]

/-! ### Which foreign keys and indexes there are -/

/-- The foreign key of a relationship joins the fields at its sides. -/
theorem foreignKey?_eq_some_iff {relationship : Relationship} {key : ForeignKey} :
    diagram.foreignKey? relationship = some key ↔
      diagram.resolve? relationship.start = some (key.table, key.field) ∧
        diagram.resolve? relationship.target = some (key.refTable, key.refField) ∧
        key.name = relationship.constraintName key.table key.field key.refTable ∧
        key.onUpdate = relationship.updateConstraint ∧
        key.onDelete = relationship.deleteConstraint := by
  simp only [foreignKey?, Option.bind_eq_bind, Option.bind_eq_some_iff, Prod.exists,
    Option.pure_def, Option.some.injEq]
  constructor
  · rintro ⟨table, field, start, refTable, refField, target, rfl⟩
    exact ⟨start, target, rfl, rfl, rfl⟩
  · rintro ⟨start, target, name, update, delete⟩
    refine ⟨_, _, start, _, _, target, ?_⟩
    rw [← name, ← update, ← delete]

/-- The table that a foreign key stands in is the start table of its relationship. -/
theorem id_of_foreignKey? {relationship : Relationship} {key : ForeignKey}
    (defined : diagram.foreignKey? relationship = some key) :
    diagram.table? relationship.startTableId = some key.table ∧
      key.table.id = relationship.startTableId := by
  obtain ⟨start, -⟩ := foreignKey?_eq_some_iff.mp defined
  have found := (resolve?_eq_some_iff.mp start).1
  exact ⟨found, Keyed.key_of_find?_eq_some found⟩

/-- Going through the tables meets every foreign key once, where the ids of tables are distinct. -/
theorem foreignKeysFrom_perm (distinct : (diagram.tables.map Table.id).Nodup) :
    (diagram.tables.flatMap fun table => diagram.foreignKeysFrom table.id).Perm
      (diagram.relationships.filterMap diagram.foreignKey?) := by
  have sorted := (Keyed.flatMap_filter_perm Relationship.startTableId diagram.relationships
    distinct).filterMap diagram.foreignKey?
  have listed : ∀ relationship ∈ diagram.relationships,
      (if (diagram.tables.map Table.id).contains relationship.startTableId then
        diagram.foreignKey? relationship else none) = diagram.foreignKey? relationship := by
    intro relationship _
    split
    · rfl
    · next absent =>
      symm
      rw [Option.eq_none_iff_forall_ne_some]
      intro key defined
      obtain ⟨found, id⟩ := id_of_foreignKey? defined
      refine absent (List.contains_iff_mem.mpr ?_)
      rw [← id]
      exact List.mem_map_of_mem (Keyed.mem_of_find?_eq_some found)
  rw [List.filterMap_filter, List.filterMap_congr listed, List.filterMap_flatMap,
    List.flatMap_map] at sorted
  exact sorted

theorem table_of_mem_foreignKeysFrom (distinct : (diagram.tables.map Table.id).Nodup)
    {table : Table} (listed : table ∈ diagram.tables) {key : ForeignKey}
    (member : key ∈ diagram.foreignKeysFrom table.id) : key.table = table := by
  obtain ⟨relationship, kept, defined⟩ := List.mem_filterMap.mp member
  have same : relationship.startTableId = table.id := by
    simpa using (List.mem_filter.mp kept).2
  have found := (id_of_foreignKey? defined).1
  have first : diagram.table? table.id = some table :=
    (Keyed.find?_eq_some_iff distinct).mpr ⟨listed, rfl⟩
  rw [same, first] at found
  exact (Option.some.inj found).symm

/-- Whatever the engine, the same indexes have a place. -/
theorem allIndexes_placement (diagram : Diagram) (config : DialectConfig) :
    (diagram.placement config).allIndexes diagram.tables =
      diagram.tables.flatMap Table.indexDefinitions := by
  simp only [Placement.allIndexes, placement]
  cases config.inlineIndexes <;> simp

/-- A placement holds what a diagram defines: the SQL of the diagram is the SQL of the placement,
every foreign key and every index stands in one place, and the engine decides in which. -/
structure Places (diagram : Diagram) (target : Target) (placement : Placement) : Prop where
  sql : (diagram.statementsFor target).map Statement.sql = placement.sql target diagram
  keys : (placement.allKeys diagram.tables).Perm
    (diagram.relationships.filterMap diagram.foreignKey?)
  key_inside : ∀ table ∈ diagram.tables, ∀ key ∈ placement.keysIn table, key.table = table
  keys_together : match target.config.foreignKeys with
    | .inline => placement.keys = []
    | .alterTable => ∀ table, placement.keysIn table = []
  indexes : placement.allIndexes diagram.tables = diagram.tables.flatMap Table.indexDefinitions
  index_inside : ∀ table, ∀ index ∈ placement.indexesIn table, index.table = table
  indexes_together :
    if target.config.inlineIndexes then placement.indexes = []
    else ∀ table, placement.indexesIn table = []

/-- The placement for an engine holds what the diagram defines. -/
theorem places_placement (distinct : (diagram.tables.map Table.id).Nodup) (target : Target) :
    diagram.Places target (diagram.placement target.config) where
  sql := diagram.sql_statementsFor target
  keys := by
    simp only [Placement.allKeys, placement]
    cases target.config.foreignKeys with
    | inline => simpa using foreignKeysFrom_perm distinct
    | alterTable => exact .of_eq (List.append_left_eq_self.mpr (by simp))
  key_inside := by
    intro table listed key
    simp only [placement]
    cases target.config.foreignKeys with
    | inline => exact table_of_mem_foreignKeysFrom distinct listed
    | alterTable => simp
  keys_together := by
    simp only [placement]
    cases target.config.foreignKeys <;> simp
  indexes := diagram.allIndexes_placement target.config
  index_inside := by
    intro table index
    simp only [placement]
    cases target.config.inlineIndexes with
    | false => simp
    | true => exact Table.table_of_mem_indexDefinitions
  indexes_together := by
    simp only [placement]
    cases target.config.inlineIndexes <;> simp

/-- Every two built-in engines are given the same foreign keys and the same indexes, each in the
places that the engine wants: a foreign key, with the names at its sides, for every relationship
whose sides are there, and an index for every one that has a column, with the columns it has. -/
theorem placements_agree (diagram : Diagram) (distinct : (diagram.tables.map Table.id).Nodup)
    (first second : Dialect) (firstOptions secondOptions : Options) :
    ∃ one two : Placement,
      (diagram.Places (first.target firstOptions) one ∧
        diagram.Places (second.target secondOptions) two) ∧
      (one.allKeys diagram.tables).Perm (two.allKeys diagram.tables) ∧
      one.allIndexes diagram.tables = two.allIndexes diagram.tables ∧
      (∀ relationship, (diagram.foreignKey? relationship).isSome =
        (diagram.resolves relationship.start && diagram.resolves relationship.target)) ∧
      (∀ relationship key, diagram.foreignKey? relationship = some key →
        diagram.resolve? relationship.start = some (key.table, key.field) ∧
          diagram.resolve? relationship.target = some (key.refTable, key.refField) ∧
          key.name = relationship.constraintName key.table key.field key.refTable) ∧
      (∀ (table : Table) (index : Index), (table.indexDefinition? index).isSome = true ↔
        ∃ column ∈ index.fields, table.hasFieldNamed column = true) ∧
      ∀ (table : Table) (index : Index) definition,
        table.indexDefinition? index = some definition →
          definition = ⟨table, index, table.indexName index, table.columnsOf index⟩ := by
  have one := places_placement distinct (first.target firstOptions)
  have two := places_placement distinct (second.target secondOptions)
  refine ⟨_, _, ⟨one, two⟩, one.keys.trans two.keys.symm, one.indexes.trans two.indexes.symm,
    diagram.foreignKey?_isSome, ?_, ?_, ?_⟩
  · intro relationship key defined
    obtain ⟨start, target, name, -⟩ := foreignKey?_eq_some_iff.mp defined
    exact ⟨start, target, name⟩
  · intro table index
    rw [Option.isSome_iff_exists]
    simp only [Table.indexDefinition?_eq_some_iff, exists_and_left, exists_eq, and_true]
  · intro table index definition defined
    exact (Table.indexDefinition?_eq_some_iff.mp defined).2

/-- A table that refers to itself, to a table that is gone, and has indexes on a column that is
gone: one foreign key and one index are left, in MySQL the index inside the table and the foreign
key apart, in SQLite the other way round. -/
theorem placements_agree_stale :
    let boss : Field := { id := "b", name := "boss", dataType := "INT" }
    let staff : Table := {
      id := "t", name := "staff", fields := [boss]
      indexes := [{ id := "i", fields := ["gone", "boss"] }, { id := "j", fields := ["gone"] }] }
    let diagram : Diagram := {
      tables := [staff]
      relationships := [.between "r" ⟨"t", "b"⟩ ⟨"t", "b"⟩, .between "s" ⟨"t", "b"⟩ ⟨"u", "b"⟩] }
    (diagram.tables.map Table.id).Nodup ∧
      ∃ one two : Placement,
        diagram.Places (Dialect.mysql.target {}) one ∧
        diagram.Places (Dialect.sqlite.target {}) two ∧
        one.keys.map ForeignKey.name = ["fk_staff_boss_staff"] ∧
        (two.keysIn staff).map ForeignKey.name = ["fk_staff_boss_staff"] ∧
        (one.indexesIn staff).map IndexDefinition.columns = [["boss"]] ∧
        two.indexes.map IndexDefinition.columns = [["boss"]] := by
  intro boss staff diagram
  have distinct : (diagram.tables.map Table.id).Nodup := List.nodup_singleton _
  obtain ⟨one, two, ⟨first, second⟩, -⟩ := placements_agree diagram distinct .mysql .sqlite {} {}
  have keys : (diagram.relationships.filterMap diagram.foreignKey?).map ForeignKey.name =
      ["fk_staff_boss_staff"] := by decide +kernel
  have indexes : (diagram.tables.flatMap Table.indexDefinitions).map IndexDefinition.columns =
      [["boss"]] := by decide +kernel
  have inFirst := first.keys.map ForeignKey.name
  have inSecond := second.keys.map ForeignKey.name
  rw [keys, List.perm_singleton] at inFirst inSecond
  have outside : one.keysIn staff = [] := first.keys_together staff
  have inside : two.keys = [] := second.keys_together
  have apart : one.indexes = [] := first.indexes_together
  have within : two.indexesIn staff = [] := second.indexes_together staff
  refine ⟨distinct, one, two, first, second, ?_, ?_, ?_, ?_⟩
  · simpa [Placement.allKeys, diagram, outside] using inFirst
  · simpa [Placement.allKeys, diagram, inside] using inSecond
  · rw [← indexes, ← first.indexes]
    simp [Placement.allIndexes, diagram, apart]
  · rw [← indexes, ← second.indexes]
    simp [Placement.allIndexes, diagram, within]

end Diagram

end EntityDiagram
