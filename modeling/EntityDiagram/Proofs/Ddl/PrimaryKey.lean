import EntityDiagram.Proofs.Ddl.Placement
import Mathlib.Data.List.ReduceOption

/-!
# The primary key is declared once

Whether a column declares the primary key of its table is decided when the column is written, and
once more when the line for the key is. Both decisions look at the primary fields and at the way in
which the engine counts up, and they agree: a table with a primary field declares its key in one
place and not in two, and a table without declares none. A column that counts up refuses null and
has no default, whatever its field says about that.
-/

namespace EntityDiagram

namespace Table

variable {table : Table} {config : DialectConfig}

/-- A column takes the primary key exactly if the engine wants that of columns that count up, and
the column is such a one and all of the key. -/
theorem inlinePrimaryKey?_eq_some_iff {field : Field} :
    table.inlinePrimaryKey? config = some field ↔
      (∃ sql, config.increment = .inlinePrimaryKey sql) ∧ table.primaryFields = [field] ∧
        field.increment = true := by
  unfold inlinePrimaryKey?
  split
  · next sql key strategy only =>
    cases counts : key.increment with
    | false =>
        suffices ¬(key = field ∧ field.increment = true) by simpa [strategy, only, counts]
        rintro ⟨rfl, other⟩
        exact absurd other (by simp [counts])
    | true =>
        suffices key = field → field.increment = true by simpa [strategy, only, counts]
        rintro rfl
        exact counts
  · next other =>
    suffices ¬((∃ sql, config.increment = .inlinePrimaryKey sql) ∧ table.primaryFields = [field] ∧
        field.increment = true) by simpa
    rintro ⟨⟨sql, strategy⟩, only, -⟩
    exact other sql field strategy only

theorem mem_fields_of_primaryFields_eq {field : Field} (only : table.primaryFields = [field]) :
    field ∈ table.fields := by
  have listed : field ∈ table.primaryFields := by simp [only]
  exact List.mem_of_mem_filter listed

end Table

namespace Ddl

/-- The clauses of a column, each in the place that it has in the line. -/
structure ColumnClauses where
  name : String
  type : String
  unsigned : Option String
  /-- Counting up, said behind the type. -/
  identity : Option String
  default : Option String
  notNull : Option String
  unique : Option String
  /-- Counting up, said behind the constraints. -/
  increment : Option String
  check : Option String
  comment : Option String
  deriving DecidableEq, Repr

/-- The clauses as a line, with a space between those that are there. -/
def ColumnClauses.line (column : ColumnClauses) : String :=
  Text.join " " <| List.reduceOption
    [some column.name, some column.type, column.unsigned, column.identity, column.default,
      column.notNull, column.unique, column.increment, column.check, column.comment]

/-- The clause among some pieces of which at most one is a clause. -/
def Piece.clause? (pieces : List Piece) : Option String := (Piece.clauses pieces).head?

theorem Piece.toList_clause? {pieces : List Piece} (few : (Piece.clauses pieces).length ≤ 1) :
    (Piece.clause? pieces).toList = Piece.clauses pieces := by
  unfold Piece.clause?
  match Piece.clauses pieces, few with
  | [], _ => rfl
  | [_], _ => rfl

theorem Piece.length_clauses_clauseIf (condition : Bool) (sql : String) :
    (Piece.clauses (Piece.clauseIf condition sql)).length ≤ 1 := by
  cases condition <;> simp

namespace Target

variable (target : Target) {table : Table} {field : Field}

/-- The clauses of a column. -/
def columnClauses (table : Table) (field : Field) : ColumnClauses where
  name := target.config.quoteIdentifier field.name
  type := field.sqlType target.config
  unsigned := Piece.clause? (target.unsignedPieces table field)
  identity := Piece.clause? (target.identityPieces table field)
  default := Piece.clause? (target.defaultPieces field)
  notNull := Piece.clause? (Piece.clauseIf field.isRequired "NOT NULL")
  unique := Piece.clause? (Piece.clauseIf field.unique "UNIQUE")
  increment := Piece.clause? (target.incrementPieces field)
  check := Piece.clause? (target.checkPieces table field)
  comment := Piece.clause? (target.columnCommentPieces field)

/-! ### A column is the line of its clauses -/

theorem clauses_arrayPieces (table : Table) (field : Field) :
    Piece.clauses (target.arrayPieces table field) = [] := by
  unfold arrayPieces
  split <;> rfl

theorem length_clauses_unsignedPieces (table : Table) (field : Field) :
    (Piece.clauses (target.unsignedPieces table field)).length ≤ 1 := by
  unfold unsignedPieces
  split
  · split <;> simp
  · simp

theorem length_clauses_identityPieces (table : Table) (field : Field) :
    (Piece.clauses (target.identityPieces table field)).length ≤ 1 := by
  unfold identityPieces
  split
  · split
    · simp
    · simp
    · split <;> simp
  · simp

theorem length_clauses_defaultPieces (field : Field) :
    (Piece.clauses (target.defaultPieces field)).length ≤ 1 := by
  unfold defaultPieces
  split <;> simp

theorem length_clauses_incrementPieces (field : Field) :
    (Piece.clauses (target.incrementPieces field)).length ≤ 1 := by
  unfold incrementPieces
  split
  · exact Piece.length_clauses_clauseIf _ _
  · simp

theorem length_clauses_checkPieces (table : Table) (field : Field) :
    (Piece.clauses (target.checkPieces table field)).length ≤ 1 := by
  unfold checkPieces
  split
  · simp
  · split <;> simp

/-- A column is written as the line of its clauses. -/
theorem columnLine_eq (table : Table) (field : Field) :
    target.columnLine table field = (target.columnClauses table field).line := by
  have slot : ∀ {pieces : List Piece}, (Piece.clauses pieces).length ≤ 1 →
      ∀ rest, List.reduceOption (Piece.clause? pieces :: rest) =
        Piece.clauses pieces ++ rest.reduceOption := by
    intro pieces few rest
    rw [← Piece.toList_clause? few]
    cases Piece.clause? pieces <;> rfl
  rw [← target.text_columnPieces, ColumnClauses.line, columnClauses, Piece.text, columnPieces]
  simp only [List.reduceOption_cons_of_some, slot (target.length_clauses_unsignedPieces _ _),
    slot (target.length_clauses_identityPieces _ _), slot (target.length_clauses_defaultPieces _),
    slot (Piece.length_clauses_clauseIf _ _), slot (target.length_clauses_incrementPieces _),
    slot (target.length_clauses_checkPieces _ _), columnCommentPieces, List.reduceOption_nil,
    Piece.clauses_append, Piece.clauses_cons_clause, clauses_arrayPieces, List.append_assoc,
    List.cons_append, List.nil_append, List.append_nil]

/-! ### A column that counts up -/

/-- A column that counts up refuses null and has no default. -/
theorem columnClauses_of_increment (table : Table) (counts : field.increment = true) :
    (target.columnClauses table field).notNull = some "NOT NULL" ∧
      (target.columnClauses table field).default = none := by
  constructor
  · simp [columnClauses, Field.isRequired, counts, Piece.clause?]
  · simp [columnClauses, defaultPieces, Field.defaultOperand?, counts, Piece.clause?]

/-- Whether a column declares the primary key: the engine has a clause by which a column that counts
up becomes the key, and the clause is in its place in the line. -/
def carriesKey (table : Table) (field : Field) : Bool :=
  match target.config.increment with
  | .inlinePrimaryKey sql => (target.columnClauses table field).identity == some sql
  | _ => false

theorem carriesKey_iff :
    target.carriesKey table field = true ↔
      field.increment = true ∧
        ∃ key, table.inlinePrimaryKey? target.config = some key ∧ key.id = field.id := by
  unfold carriesKey columnClauses identityPieces Piece.clause?
  cases strategy : target.config.increment with
  | keyword | identity =>
      have nobody : table.inlinePrimaryKey? target.config = none := by
        simp [Table.inlinePrimaryKey?, strategy]
      simp [nobody]
  | inlinePrimaryKey sql =>
      cases field.increment with
      | false => simp
      | true =>
          cases found : table.inlinePrimaryKey? target.config with
          | none => simp
          | some key => cases same : key.id == field.id <;> simp_all

/-- Where the ids of the fields are distinct, the column that declares the key is all of it. -/
theorem inlinePrimaryKey?_of_carriesKey (distinct : (table.fields.map Field.id).Nodup)
    (listed : field ∈ table.fields) (carries : target.carriesKey table field = true) :
    table.inlinePrimaryKey? target.config = some field := by
  obtain ⟨-, key, found, same⟩ := target.carriesKey_iff.mp carries
  have only := (Table.inlinePrimaryKey?_eq_some_iff.mp found).2.1
  rwa [List.inj_on_of_nodup_map distinct (Table.mem_fields_of_primaryFields_eq only) listed same]
    at found

/-- The columns that declare the key are the one that takes it, if one does. -/
theorem filter_carriesKey (distinct : (table.fields.map Field.id).Nodup) :
    table.fields.filter (target.carriesKey table) =
      (table.inlinePrimaryKey? target.config).toList := by
  cases found : table.inlinePrimaryKey? target.config with
  | none =>
      rw [Option.toList_none, List.filter_eq_nil_iff]
      intro field listed carries
      rw [target.inlinePrimaryKey?_of_carriesKey distinct listed carries] at found
      cases found
  | some key =>
      obtain ⟨-, only, counts⟩ := Table.inlinePrimaryKey?_eq_some_iff.mp found
      have carries : target.carriesKey table key = true :=
        target.carriesKey_iff.mpr ⟨counts, key, found, rfl⟩
      -- Only primary fields carry the key, so it is enough to look among those.
      have primary : table.fields.filter (target.carriesKey table) =
          table.primaryFields.filter (target.carriesKey table) := by
        rw [Table.primaryFields, List.filter_filter]
        refine List.filter_congr fun field listed => ?_
        cases claims : target.carriesKey table field with
        | false => rfl
        | true =>
            have same := target.inlinePrimaryKey?_of_carriesKey distinct listed claims
            have member : field ∈ table.primaryFields := by
              simp [(Table.inlinePrimaryKey?_eq_some_iff.mp same).2.1]
            exact (List.of_mem_filter member).symm
      rw [primary, only, List.filter_cons_of_pos carries, List.filter_nil, Option.toList_some]

/-! ### The lines behind the columns -/

/-- The words that open the lines of indexes and of foreign keys. -/
def laterOpenings : List String := ["INDEX ", "UNIQUE INDEX ", "CONSTRAINT "]

theorem opening_indexClause (definition : IndexDefinition) :
    ∃ word ∈ laterOpenings, word.toList <+: (target.indexClause definition).toList := by
  unfold indexClause uniqueWord
  cases definition.index.unique with
  | false => exact ⟨"INDEX ", by simp [laterOpenings], by simp⟩
  | true =>
      have opening : "UNIQUE INDEX " = "UNIQUE " ++ "INDEX " := rfl
      exact ⟨"UNIQUE INDEX ", by simp [laterOpenings], by simp [opening]⟩

theorem opening_foreignKeyClause (key : ForeignKey) :
    ∃ word ∈ laterOpenings, word.toList <+: (target.foreignKeyClause key).toList := by
  refine ⟨"CONSTRAINT ", by simp [laterOpenings], ?_⟩
  unfold foreignKeyClause
  simp only [String.append_assoc]
  rw [String.toList_append]
  exact List.prefix_append _ _

/-- The line for the key is there exactly if there are primary fields and none takes the key. -/
theorem length_primaryKeyLines (table : Table) :
    (table.inlinePrimaryKey? target.config).toList.length +
        (target.primaryKeyLines table).length =
      if table.primaryFields = [] then 0 else 1 := by
  unfold primaryKeyLines
  cases found : table.inlinePrimaryKey? target.config with
  | none => cases table.primaryFields <;> simp
  | some key => simp [(Table.inlinePrimaryKey?_eq_some_iff.mp found).2.1]

end Target

/-! ### The statement of a table -/

/-- The primary key of a table is declared once: by one of its columns, or by a line of its own, if
there are primary fields, and not at all otherwise. -/
structure DeclaresKeyOnce (target : Target) (table : Table) (keyLines : List String) : Prop where
  count : table.fields.countP (target.carriesKey table) + keyLines.length =
    if table.primaryFields = [] then 0 else 1
  /-- The column that declares the key is all of it and counts up. -/
  column : ∀ field ∈ table.fields, target.carriesKey table field = true →
    table.primaryFields = [field] ∧ field.increment = true
  /-- The line for the key lists all of its columns in order. -/
  line : ∀ line ∈ keyLines, line =
    "PRIMARY KEY(" ++ target.config.quotedList (table.primaryFields.map Field.name) ++ ")"
  /-- A column that counts up refuses null and has no default. -/
  increment : ∀ field ∈ table.fields, field.increment = true →
    (target.columnClauses table field).notNull = some "NOT NULL" ∧
      (target.columnClauses table field).default = none

theorem declaresKeyOnce_primaryKeyLines {table : Table}
    (distinct : (table.fields.map Field.id).Nodup) (target : Target) :
    DeclaresKeyOnce target table (target.primaryKeyLines table) where
  count := by
    rw [List.countP_eq_length_filter, target.filter_carriesKey distinct,
      target.length_primaryKeyLines]
  column := by
    intro field listed carries
    have found := target.inlinePrimaryKey?_of_carriesKey distinct listed carries
    exact (Table.inlinePrimaryKey?_eq_some_iff.mp found).2
  line := by
    intro line member
    unfold Target.primaryKeyLines at member
    split at member
    · cases member
    · exact List.mem_singleton.mp member
  increment := fun _ _ counts => target.columnClauses_of_increment table counts

end Ddl

namespace Diagram

open Ddl

/-- Whatever the engine and its way of counting up, a table with distinct ids is written with the
lines of its columns, a line for the primary key or none, and lines of indexes and foreign keys,
and declares its key once. -/
theorem tableStatement_declaresKeyOnce (diagram : Diagram) (target : Target) (table : Table)
    (distinct : (table.fields.map Field.id).Nodup) :
    ∃ keyLines later : List String,
      (target.statement (.table table (diagram.tableElements target.config table))).sql =
        target.createTable table
          (table.fields.map (fun field => (target.columnClauses table field).line) ++ keyLines ++
            later) ∧
      (∀ line ∈ later, ∃ word ∈ Target.laterOpenings, word.toList <+: line.toList) ∧
      DeclaresKeyOnce target table keyLines := by
  let placement := diagram.placement target.config
  refine ⟨target.primaryKeyLines table, (placement.indexesIn table).map target.indexClause ++
    (placement.keysIn table).map target.foreignKeyClause, ?_, ?_,
    declaresKeyOnce_primaryKeyLines distinct target⟩
  · rw [target.sql_statement_table, diagram.text_tableElements, Placement.lines]
    simp only [funext (target.columnLine_eq table), List.append_assoc, placement]
  · intro line member
    rcases List.mem_append.mp member with index | key
    · obtain ⟨definition, -, rfl⟩ := List.mem_map.mp index
      exact target.opening_indexClause definition
    · obtain ⟨relation, -, rfl⟩ := List.mem_map.mp key
      exact target.opening_foreignKeyClause relation

/-- A table whose only primary field counts up, with a default and no word about null: in SQLite
the column takes the key, and in MySQL a line does. -/
theorem tableStatement_declaresKeyOnce_counter :
    let counter : Field := {
      id := "f", name := "n", dataType := "INT", primary := true, increment := true
      default := some (.literal "5") }
    let table : Table := { id := "t", name := "c", fields := [counter] }
    let sqlite := Dialect.sqlite.target {}
    let mysql := Dialect.mysql.target {}
    (table.fields.map Field.id).Nodup ∧
      (DeclaresKeyOnce sqlite table [] ∧
        sqlite.columnLine table counter = "\"n\" INTEGER PRIMARY KEY AUTOINCREMENT NOT NULL") ∧
      DeclaresKeyOnce mysql table ["PRIMARY KEY(`n`)"] ∧
      mysql.columnLine table counter = "`n` INT NOT NULL AUTO_INCREMENT" := by
  intro counter table sqlite mysql
  have distinct : (table.fields.map Field.id).Nodup := List.nodup_singleton _
  obtain ⟨ofSqlite, -, -, -, inColumn⟩ := tableStatement_declaresKeyOnce {} sqlite table distinct
  obtain ⟨ofMysql, -, -, -, apart⟩ := tableStatement_declaresKeyOnce {} mysql table distinct
  have carried : table.fields.countP (sqlite.carriesKey table) = 1 := by rfl
  have uncarried : table.fields.countP (mysql.carriesKey table) = 0 := by rfl
  have texts : sqlite.columnLine table counter =
        "\"n\" INTEGER PRIMARY KEY AUTOINCREMENT NOT NULL" ∧
      mysql.columnLine table counter = "`n` INT NOT NULL AUTO_INCREMENT" ∧
      "PRIMARY KEY(" ++ mysql.config.quotedList ["n"] ++ ")" = "PRIMARY KEY(`n`)" :=
    ⟨by decide, by decide, by decide⟩
  have none : ofSqlite = [] := by
    have count : 1 + ofSqlite.length = 1 := carried ▸ inColumn.count
    exact List.length_eq_zero_iff.mp (by omega)
  have one : ofMysql = ["PRIMARY KEY(`n`)"] := by
    have count : 0 + ofMysql.length = 1 := uncarried ▸ apart.count
    obtain ⟨line, only⟩ := List.length_eq_one_iff.mp (show ofMysql.length = 1 by omega)
    rw [only, apart.line line (only ▸ List.mem_singleton_self line)]
    exact congrArg (List.cons · []) texts.2.2
  subst none one
  exact ⟨distinct, ⟨inColumn, texts.1⟩, apart, texts.2.1⟩

end Diagram

end EntityDiagram
