import EntityDiagram.Ddl.Name
import EntityDiagram.Graph.Components
import EntityDiagram.Identifier

/-!
# Issues of a diagram

What a person should know about a diagram before it is written as SQL: bad names, duplicates,
missing types and columns, relationships that no longer hold, and tables whose foreign keys run in
a circle. Issues are reported and nothing is changed; a diagram with issues can be written all the
same.
-/

namespace EntityDiagram

/-- How serious an issue is. -/
inductive Severity where
  | warning
  | error
  deriving DecidableEq, Repr

/-- What a name belongs to. -/
inductive NamedThing where
  | table (name : String)
  | field (table name : String)
  deriving DecidableEq, Repr

/-- The thing as messages call it. -/
def NamedThing.title : NamedThing → String
  | .table own => "Table '" ++ own ++ "'"
  | .field owner own => "Field '" ++ owner ++ "." ++ own ++ "'"

/-- Something worth telling about a diagram. -/
inductive Issue where
  /-- A name breaks a rule. -/
  | name (thing : NamedThing) (fault : NameFault)
  | duplicateTable (name : String)
  | noFields (table : String)
  | duplicateField (table field : String)
  | noType (table field : String)
  | zeroSize (table field : String)
  /-- A column counts up and its type holds more than integers. -/
  | incrementType (table field dataType : String)
  | emptyIndex (index : String)
  | unknownColumn (index column : String)
  | duplicateIndex (index : String)
  /-- A relationship joins columns of different types. -/
  | mixedTypes (table : String) (field : Field) (refTable : String) (refField : Field)
  /-- A relationship has a side that is no longer there. -/
  | stale (relationship : String)
  /-- Foreign keys lead from each of some tables back to it. -/
  | circular (tables : List String)
  deriving DecidableEq, Repr

namespace Issue

/-- Quotes make a reserved word legal, and style is a matter of taste, so these only warn; so do
relationships that may well be meant as they are. -/
def severity : Issue → Severity
  | name _ (.reservedKeyword _) => .warning
  | name _ .startsWithUnderscore => .warning
  | name _ .endsWithUnderscore => .warning
  | name _ .consecutiveUnderscores => .warning
  | mixedTypes .. => .warning
  | circular _ => .warning
  | _ => .error

/-- What is said about an issue. -/
def message : Issue → String
  | name thing fault => thing.title ++ ": " ++ fault.message
  | duplicateTable table => s!"Duplicate table name '{table}'"
  | noFields table => (NamedThing.table table).title ++ " has no fields"
  | duplicateField table field =>
    (NamedThing.table table).title ++ " has a duplicate field '" ++ field ++ "'"
  | noType table field => (NamedThing.field table field).title ++ " has no type"
  | zeroSize table field => (NamedThing.field table field).title ++ " has size 0"
  | incrementType table field dataType =>
    (NamedThing.field table field).title ++ " auto-increments but " ++ dataType ++
      " is not an integer type"
  | emptyIndex index => s!"Index '{index}' has no fields"
  | unknownColumn index column => s!"Index '{index}' references unknown field '{column}'"
  | duplicateIndex index => s!"Duplicate index name '{index}'"
  | mixedTypes table field refTable refField =>
    s!"Relationship {table}.{field.name} -> {refTable}.{refField.name} joins " ++
      s!"{field.dataType} to {refField.dataType}"
  | stale relationship => s!"Relationship {relationship} has an endpoint that no longer exists"
  | circular tables =>
    "Circular foreign-key chain between " ++ String.intercalate ", " tables

/-- What is wrong with the name of a thing. -/
def ofName (thing : NamedThing) (text : String) : List Issue :=
  let findings := Identifier.validate text .standard
  (findings.errors ++ findings.warnings).map (.name thing)

/-- An issue, if the condition for it holds. -/
def when (condition : Bool) (issue : Issue) : List Issue := if condition then [issue] else []

end Issue

/-- The results of a function on each member of a list that also sees the members before it,
newest first. -/
def flatMapWithEarlier {α β : Type} (f : (earlier : List α) → α → List β) :
    (earlier : List α) → List α → List β
  | _, [] => []
  | earlier, a :: rest => f earlier a ++ flatMapWithEarlier f (a :: earlier) rest

/-- The form in which names of tables and fields are compared. -/
def comparedName (name : String) : String := Text.lower (Text.trim name)

namespace Table

/-- What is wrong with the type of a field. -/
def typeIssues (table : Table) (config : DialectConfig) (field : Field) : List Issue :=
  if Text.isAllBlank field.dataType then [.noType table.name field.name]
  else
    let info := config.typeInfo? field.dataType
    Issue.when (info.any (·.isSized) && field.size == some 0) (.zeroSize table.name field.name) ++
      Issue.when (field.increment && info.any (!·.isInteger))
        (.incrementType table.name field.name field.dataType)

/-- What is wrong with a field, seen with the fields before it. -/
def fieldIssues (table : Table) (config : DialectConfig) (earlier : List Field) (field : Field) :
    List Issue :=
  Issue.ofName (.field table.name field.name) field.name ++
    Issue.when (earlier.any fun other => comparedName other.name == comparedName field.name)
      (.duplicateField table.name field.name) ++
    table.typeIssues config field

/-- The form in which the name of an index is compared. -/
def comparedIndexName (table : Table) (index : Index) : String :=
  Text.lower (table.indexName index)

/-- What is wrong with an index, seen with the tables and the indexes of its table before it. -/
def indexIssues (table : Table) (earlierTables : List Table) (earlier : List Index)
    (index : Index) : List Issue :=
  let name := table.indexName index
  let compared := table.comparedIndexName index
  Issue.when index.fields.isEmpty (.emptyIndex name) ++
    (index.fields.filter (!table.hasFieldNamed ·)).map (.unknownColumn name) ++
    Issue.when
      (earlier.any (table.comparedIndexName · == compared) ||
        earlierTables.any fun other => other.indexes.any (other.comparedIndexName · == compared))
      (.duplicateIndex name)

/-- What is wrong with a table, seen with the tables before it. -/
def issues (config : DialectConfig) (earlier : List Table) (table : Table) : List Issue :=
  Issue.ofName (.table table.name) table.name ++
    Issue.when (earlier.any fun other => comparedName other.name == comparedName table.name)
      (.duplicateTable table.name) ++
    Issue.when table.fields.isEmpty (.noFields table.name) ++
    flatMapWithEarlier (table.fieldIssues config) [] table.fields ++
    flatMapWithEarlier (table.indexIssues earlier) [] table.indexes

end Table

/-- A list without the members that occur again later. -/
def lastOccurrences {α : Type} [BEq α] : List α → List α
  | [] => []
  | a :: rest => if rest.contains a then lastOccurrences rest else a :: lastOccurrences rest

namespace Diagram

/-- What is wrong with a relationship. -/
def relationshipIssues (diagram : Diagram) (relationship : Relationship) : List Issue :=
  match diagram.resolve? relationship.start, diagram.resolve? relationship.target with
  | some (table, field), some (refTable, refField) =>
    Issue.when (!Text.eqIgnoringCase field.dataType refField.dataType)
      (.mixedTypes table.name field refTable.name refField)
  | _, _ => [.stale relationship.id]

/-- The graph of references between tables: their ids, and an edge for every relationship between
two different ids that are there. -/
def references (diagram : Diagram) : Digraph String where
  vertices := lastOccurrences (diagram.tables.map Table.id)
  edges := (diagram.relationships.filter fun r =>
      r.startTableId != r.endTableId && Keyed.contains diagram.tables r.startTableId &&
        Keyed.contains diagram.tables r.endTableId).map
    fun r => (r.startTableId, r.endTableId)

/-- The name of the last table with an id. -/
def lastNameOf (diagram : Diagram) (id : String) : String :=
  ((Keyed.find? diagram.tables.reverse id).map Table.name).getD ""

/-- The circles of foreign keys: components of at least two tables, each named by its tables in
alphabetical order. A table that refers to itself is a plain hierarchy. -/
def circularIssues (diagram : Diagram) : List Issue :=
  (diagram.references.components.filter fun ids => 1 < ids.length).map
    fun ids => .circular (ids.map diagram.lastNameOf).mergeSort

/-- Everything worth telling about a diagram that is to be written for an engine. -/
def issues (diagram : Diagram) (config : DialectConfig) : List Issue :=
  flatMapWithEarlier (Table.issues config) [] diagram.tables ++
    diagram.relationships.flatMap diagram.relationshipIssues ++
    diagram.circularIssues

end Diagram

end EntityDiagram
