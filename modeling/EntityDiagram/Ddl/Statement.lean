import EntityDiagram.Ddl.Column

/-!
# Statements

A definition becomes one statement of SQL. Its text ends with a semicolon, then comes the batch
separator of the engine if it has one, then the caveats, each as a line comment.
-/

namespace EntityDiagram.Ddl

/-- A text as line comments: two dashes and a space in front of every line. -/
def lineComment (text : String) : String :=
  Text.join "\n" ((Text.lines text).map ("-- " ++ ·))

/-- One statement with the caveats about what it leaves out. -/
structure Statement where
  sql : String
  notes : List String := []
  deriving DecidableEq, Repr

/-- The statement as it is written for an engine. -/
def Statement.render (statement : Statement) (config : DialectConfig) : String :=
  statement.sql ++ ";" ++
    (match config.batchSeparator with
      | some separator => "\n" ++ separator
      | none => "") ++
    String.join (statement.notes.map fun note => "\n" ++ lineComment note)

namespace Target

/-- The access method of an index: its name in capitals if the engine knows it, else a caveat. -/
def methodPieces (target : Target) (definition : IndexDefinition) : List Piece :=
  match Text.nonBlank? definition.index.indexType with
  | none => []
  | some method =>
    if target.config.supportsIndexType method then [.clause (Text.upper method)]
    else
      [.caveat ("index " ++ definition.name ++ " on " ++ definition.table.name ++ ": " ++
        target.config.name ++ " does not support index type " ++ method ++ "; default used")]

/-- The pieces with a word in front of every clause. -/
def behindWord (word : String) (pieces : List Piece) : List Piece :=
  pieces.map fun
    | .clause sql => .clause (word ++ sql)
    | .caveat note => .caveat note

/-- An index among the elements of its table. -/
def inlineIndexPieces (target : Target) (definition : IndexDefinition) : List Piece :=
  Piece.clauseIf definition.index.unique "UNIQUE" ++
    [.clause ("INDEX " ++ target.config.quoteIdentifier definition.name ++ " (" ++
      target.config.quotedList definition.columns ++ ")")] ++
    behindWord "USING " (target.methodPieces definition)

/-- An index as a statement of its own, with the access method where the engine wants it. -/
def indexPieces (target : Target) (definition : IndexDefinition) : List Piece :=
  let method := target.methodPieces definition
  let name := .clause ("INDEX " ++ target.ifNotExists ++
    target.config.quoteIdentifier definition.name ++ " ON " ++
    target.config.quoteIdentifier definition.table.name)
  let columns := .clause ("(" ++ target.config.quotedList definition.columns ++ ")")
  [.clause "CREATE"] ++ Piece.clauseIf definition.index.unique "UNIQUE" ++
    match target.config.indexTypePlacement with
    | .modifier => method ++ [name, columns]
    | .usingBeforeColumns => [name] ++ behindWord "USING " method ++ [columns]
    | .usingSuffix => [name, columns] ++ behindWord "USING " method

/-- The action of a foreign key on one event: a clause if the engine knows it, nothing if it is no
action anyway, else a caveat. -/
def actionPieces (target : Target) (key : ForeignKey) (event : String) (action : ForeignKeyAction)
    (supported : Bool) : List Piece :=
  if supported then [.clause ("ON " ++ event ++ " " ++ action.sql)]
  else if action = .noAction then []
  else
    [.caveat (key.name ++ ": " ++ target.config.name ++ " does not support ON " ++ event ++ " " ++
      action.sql ++ "; clause omitted")]

/-- A foreign key as a constraint. -/
def foreignKeyPieces (target : Target) (key : ForeignKey) : List Piece :=
  let quote := target.config.quoteIdentifier
  [.clause ("CONSTRAINT " ++ quote key.name ++ " FOREIGN KEY(" ++ quote key.field.name ++
      ") REFERENCES " ++ quote key.refTable.name ++ "(" ++ quote key.refField.name ++ ")")] ++
    target.actionPieces key "UPDATE" key.onUpdate
      (target.config.supportsUpdateAction key.onUpdate) ++
    target.actionPieces key "DELETE" key.onDelete
      (target.config.supportsDeleteAction key.onDelete)

/-- One element of a table. -/
def elementPieces (target : Target) (table : Table) : Element → List Piece
  | .column field => target.columnPieces table field
  | .primaryKey columns => [.clause ("PRIMARY KEY(" ++ target.config.quotedList columns ++ ")")]
  | .index definition => target.inlineIndexPieces definition
  | .foreignKey key => target.foreignKeyPieces key

/-- The text of a table with its comment, where the engine keeps it there. -/
def withTableComment (target : Target) (table : Table) (sql : String) : String :=
  match target.comments with
  | .sqlText =>
    if target.options.includeComments && table.hasComment then
      lineComment table.comment ++ "\n" ++ sql
    else sql
  | _ =>
    if target.writesComments .inline && table.hasComment then
      sql ++ " COMMENT=" ++ target.config.quoteString table.comment
    else sql

/-- The text of a table without a comment stands as it is. -/
theorem withTableComment_of_not_hasComment (target : Target) {table : Table}
    (silent : table.hasComment = false) (sql : String) :
    target.withTableComment table sql = sql := by
  unfold withTableComment
  split <;> simp [silent]

/-- A table with its elements, one to a line. -/
def tableStatement (target : Target) (table : Table) (elements : List Element) : Statement :=
  let pieces := elements.map (target.elementPieces table)
  { sql := target.withTableComment table
      ("CREATE TABLE " ++ target.ifNotExists ++ target.config.quoteIdentifier table.name ++
        " (\n" ++ Text.join ",\n" (pieces.map fun line => "\t" ++ Piece.text line) ++ "\n)")
    notes := pieces.flatMap Piece.caveats }

/-- A comment on a table or on one of its columns as a statement. -/
def commentStatement (target : Target) (table : Table) (column : Option String)
    (comment : String) : Statement :=
  let config := target.config
  match target.comments with
  | .extendedProperty =>
    { sql := "EXEC sp_addextendedproperty 'MS_Description', " ++ config.quoteString comment ++
        ", 'SCHEMA', 'dbo', 'TABLE', " ++ config.quoteString table.name ++
        match column with
        | some name => ", 'COLUMN', " ++ config.quoteString name
        | none => "" }
  | _ =>
    { sql := (match column with
        | some name => "COMMENT ON COLUMN " ++ config.quoteIdentifier table.name ++ "." ++
            config.quoteIdentifier name
        | none => "COMMENT ON TABLE " ++ config.quoteIdentifier table.name) ++
        " IS " ++ config.quoteString comment }

/-- The statement of a definition. -/
def statement (target : Target) : Definition → Statement
  | .table table elements => target.tableStatement table elements
  | .tableComment table => target.commentStatement table none table.comment
  | .columnComment table field =>
    target.commentStatement table (some field.name) field.comment
  | .index definition =>
    let pieces := target.indexPieces definition
    { sql := Piece.text pieces, notes := Piece.caveats pieces }
  | .foreignKey key =>
    let pieces := target.foreignKeyPieces key
    { sql := "ALTER TABLE " ++ target.config.quoteIdentifier key.table.name ++ " ADD " ++
        Piece.text pieces
      notes := Piece.caveats pieces }

end Target

end EntityDiagram.Ddl

namespace EntityDiagram.Diagram

open Ddl

/-- The statements that define a diagram. -/
def statementsFor (diagram : Diagram) (target : Target) : List Statement :=
  (diagram.definitions target.config target.options).map target.statement

/-- The statements that define a diagram, as they are written for an engine. -/
def statements (diagram : Diagram) (engine : Engine) (options : Options) : List String :=
  (diagram.statementsFor ⟨engine.config, engine.comments, options⟩).map
    (Statement.render · engine.config)

/-- The whole of the SQL that defines a diagram, with an empty line between statements. -/
def ddl (diagram : Diagram) (engine : Engine) (options : Options) : String :=
  Text.join "\n\n" (diagram.statements engine options)

end EntityDiagram.Diagram
