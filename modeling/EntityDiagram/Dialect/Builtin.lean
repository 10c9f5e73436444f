import EntityDiagram.Dialect.Config

/-!
# The five built-in engines

One description for each engine: MySQL, PostgreSQL, SQLite, SQL Server and Oracle. `Dialect` names
them, and `Dialect.ofName?` reads the names by which people call them.
-/

namespace EntityDiagram

namespace DialectConfig

/-- A logical type with its SQL name and nothing special about it. -/
def plain (name sql : String) : TypeInfo := { name, sql }

/-- The logical types of MySQL. -/
def mysqlTypes : List TypeInfo := [
  (plain "TINYINT" "TINYINT").integer,
  (plain "SMALLINT" "SMALLINT").integer,
  (plain "INT" "INT").integer,
  (plain "INTEGER" "INT").integer,
  (plain "BIGINT" "BIGINT").integer,
  (plain "DECIMAL" "DECIMAL").numeric.withPrecision,
  (plain "NUMERIC" "DECIMAL").numeric.withPrecision,
  (plain "NUMBER" "DECIMAL").numeric.withPrecision,
  (plain "FLOAT" "FLOAT").numeric,
  (plain "REAL" "DOUBLE").numeric,
  (plain "DOUBLE" "DOUBLE").numeric,
  (plain "CHAR" "CHAR").sized 1,
  (plain "VARCHAR" "VARCHAR").sized 255,
  plain "TEXT" "TEXT",
  (plain "BOOLEAN" "BOOLEAN").unquoted,
  plain "DATE" "DATE",
  plain "TIME" "TIME",
  plain "DATETIME" "DATETIME",
  plain "TIMESTAMP" "TIMESTAMP",
  (plain "UUID" "CHAR").sized 36,
  (plain "JSON" "JSON").withoutCheck,
  (plain "BLOB" "BLOB").withoutCheck,
  (plain "BINARY" "BINARY").sized 1,
  (plain "VARBINARY" "VARBINARY").sized 255]

/-- MySQL and MariaDB: comments and indexes inside the tables, unsigned integers. -/
def mysql : DialectConfig where
  id := "mysql"
  name := "MySQL"
  openQuote := '\x60'
  closeQuote := '\x60'
  increment := .keyword "AUTO_INCREMENT"
  commentStyle := .inline
  foreignKeys := .alterTable
  inlineIndexes := true
  indexTypes := ["BTREE", "HASH"]
  indexTypePlacement := .usingSuffix
  updateActions := [.noAction, .restrict, .cascade, .setNull]
  deleteActions := [.noAction, .restrict, .cascade, .setNull]
  batchSeparator := none
  supportsIfNotExists := true
  supportsUnsigned := true
  supportsArrays := false
  trueLiteral := "TRUE"
  falseLiteral := "FALSE"
  defaultFunctions := [
    "NOW()", "CURRENT_TIMESTAMP()", "UTC_TIMESTAMP()", "CURDATE()", "CURTIME()", "UUID()"]
  types := mysqlTypes

/-- The logical types of PostgreSQL. -/
def postgresqlTypes : List TypeInfo := [
  (plain "TINYINT" "SMALLINT").integer,
  (plain "SMALLINT" "SMALLINT").integer,
  (plain "INT" "INTEGER").integer,
  (plain "INTEGER" "INTEGER").integer,
  (plain "BIGINT" "BIGINT").integer,
  (plain "DECIMAL" "DECIMAL").numeric.withPrecision,
  (plain "NUMERIC" "NUMERIC").numeric.withPrecision,
  (plain "NUMBER" "NUMERIC").numeric.withPrecision,
  (plain "FLOAT" "REAL").numeric,
  (plain "REAL" "REAL").numeric,
  (plain "DOUBLE" "DOUBLE PRECISION").numeric,
  (plain "CHAR" "CHAR").sized 1,
  (plain "VARCHAR" "VARCHAR").sized 255,
  plain "TEXT" "TEXT",
  (plain "BOOLEAN" "BOOLEAN").unquoted,
  plain "DATE" "DATE",
  plain "TIME" "TIME",
  plain "DATETIME" "TIMESTAMP",
  plain "TIMESTAMP" "TIMESTAMP",
  plain "TIMESTAMPTZ" "TIMESTAMPTZ",
  plain "UUID" "UUID",
  (plain "JSON" "JSON").withoutCheck,
  (plain "JSONB" "JSONB").withoutCheck,
  (plain "BLOB" "BYTEA").withoutCheck,
  (plain "BINARY" "BYTEA").withoutCheck,
  (plain "VARBINARY" "BYTEA").withoutCheck]

/-- PostgreSQL: identity columns, arrays, statements for comments. -/
def postgresql : DialectConfig where
  id := "postgresql"
  name := "PostgreSQL"
  openQuote := '"'
  closeQuote := '"'
  increment := .identity "GENERATED BY DEFAULT AS IDENTITY"
  commentStyle := .statement
  foreignKeys := .alterTable
  inlineIndexes := false
  indexTypes := ["BTREE", "HASH", "GIST", "SPGIST", "GIN", "BRIN"]
  indexTypePlacement := .usingBeforeColumns
  updateActions := [.noAction, .restrict, .cascade, .setNull, .setDefault]
  deleteActions := [.noAction, .restrict, .cascade, .setNull, .setDefault]
  batchSeparator := none
  supportsIfNotExists := true
  supportsUnsigned := false
  supportsArrays := true
  trueLiteral := "TRUE"
  falseLiteral := "FALSE"
  defaultFunctions := [
    "NOW()", "CURRENT_TIMESTAMP()", "GEN_RANDOM_UUID()", "UUID_GENERATE_V4()",
    "CLOCK_TIMESTAMP()", "TRANSACTION_TIMESTAMP()"]
  types := postgresqlTypes

/-- The logical types of SQLite. -/
def sqliteTypes : List TypeInfo := [
  (plain "TINYINT" "INTEGER").integer,
  (plain "SMALLINT" "INTEGER").integer,
  (plain "INT" "INTEGER").integer,
  (plain "INTEGER" "INTEGER").integer,
  (plain "BIGINT" "INTEGER").integer,
  (plain "DECIMAL" "NUMERIC").numeric.withPrecision,
  (plain "NUMERIC" "NUMERIC").numeric.withPrecision,
  (plain "NUMBER" "NUMERIC").numeric.withPrecision,
  (plain "FLOAT" "REAL").numeric,
  (plain "REAL" "REAL").numeric,
  (plain "DOUBLE" "REAL").numeric,
  (plain "CHAR" "CHAR").sized 1,
  (plain "VARCHAR" "VARCHAR").sized 255,
  plain "TEXT" "TEXT",
  (plain "BOOLEAN" "INTEGER").unquoted,
  plain "DATE" "DATE",
  plain "TIME" "TIME",
  plain "DATETIME" "DATETIME",
  plain "TIMESTAMP" "TIMESTAMP",
  plain "UUID" "TEXT",
  plain "JSON" "TEXT",
  (plain "BLOB" "BLOB").withoutCheck,
  (plain "BINARY" "BLOB").withoutCheck,
  (plain "VARBINARY" "BLOB").withoutCheck]

/-- SQLite: foreign keys inside the tables, and keys that count up only as the single primary
key. -/
def sqlite : DialectConfig where
  id := "sqlite"
  name := "SQLite"
  openQuote := '"'
  closeQuote := '"'
  increment := .inlinePrimaryKey "PRIMARY KEY AUTOINCREMENT"
  commentStyle := .inline
  foreignKeys := .inline
  inlineIndexes := false
  indexTypes := []
  indexTypePlacement := .usingSuffix
  updateActions := [.noAction, .restrict, .cascade, .setNull, .setDefault]
  deleteActions := [.noAction, .restrict, .cascade, .setNull, .setDefault]
  batchSeparator := none
  supportsIfNotExists := true
  supportsUnsigned := false
  supportsArrays := false
  trueLiteral := "1"
  falseLiteral := "0"
  defaultFunctions := ["CURRENT_TIMESTAMP", "DATETIME('NOW')", "DATE('NOW')"]
  types := sqliteTypes

/-- The logical types of SQL Server. -/
def mssqlTypes : List TypeInfo := [
  (plain "TINYINT" "TINYINT").integer,
  (plain "SMALLINT" "SMALLINT").integer,
  (plain "INT" "INT").integer,
  (plain "INTEGER" "INT").integer,
  (plain "BIGINT" "BIGINT").integer,
  (plain "DECIMAL" "DECIMAL").numeric.withPrecision,
  (plain "NUMERIC" "NUMERIC").numeric.withPrecision,
  (plain "NUMBER" "DECIMAL").numeric.withPrecision,
  (plain "FLOAT" "FLOAT").numeric,
  (plain "REAL" "REAL").numeric,
  (plain "DOUBLE" "FLOAT").numeric,
  (plain "CHAR" "NCHAR").sized 1,
  (plain "VARCHAR" "NVARCHAR").sized 255,
  plain "TEXT" "NVARCHAR(MAX)",
  (plain "BOOLEAN" "BIT").unquoted,
  plain "DATE" "DATE",
  plain "TIME" "TIME",
  plain "DATETIME" "DATETIME2",
  plain "TIMESTAMP" "DATETIME2",
  plain "UUID" "UNIQUEIDENTIFIER",
  plain "JSON" "NVARCHAR(MAX)",
  (plain "BLOB" "VARBINARY(MAX)").withoutCheck,
  ((plain "BINARY" "BINARY").sized 1).withoutCheck,
  ((plain "VARBINARY" "VARBINARY").sized 255).withoutCheck]

/-- SQL Server: brackets around identifiers, and a batch separator behind every statement. -/
def mssql : DialectConfig where
  id := "mssql"
  name := "SQL Server"
  openQuote := '['
  closeQuote := ']'
  increment := .identity "IDENTITY(1,1)"
  commentStyle := .statement
  foreignKeys := .alterTable
  inlineIndexes := false
  indexTypes := ["CLUSTERED", "NONCLUSTERED"]
  indexTypePlacement := .modifier
  updateActions := [.noAction, .cascade, .setNull, .setDefault]
  deleteActions := [.noAction, .cascade, .setNull, .setDefault]
  batchSeparator := some "GO"
  supportsIfNotExists := false
  supportsUnsigned := false
  supportsArrays := false
  trueLiteral := "1"
  falseLiteral := "0"
  defaultFunctions := [
    "GETDATE()", "GETUTCDATE()", "SYSDATETIME()", "SYSUTCDATETIME()", "NEWID()",
    "NEWSEQUENTIALID()"]
  types := mssqlTypes

/-- The logical types of Oracle. -/
def oracleTypes : List TypeInfo := [
  (plain "TINYINT" "NUMBER(3)").integer,
  (plain "SMALLINT" "NUMBER(5)").integer,
  (plain "INT" "NUMBER(10)").integer,
  (plain "INTEGER" "NUMBER(10)").integer,
  (plain "BIGINT" "NUMBER(19)").integer,
  (plain "DECIMAL" "NUMBER").numeric.withPrecision.dropZeroScale,
  (plain "NUMERIC" "NUMBER").numeric.withPrecision.dropZeroScale,
  (plain "NUMBER" "NUMBER").numeric.withPrecision.dropZeroScale,
  (plain "FLOAT" "BINARY_FLOAT").numeric,
  (plain "REAL" "BINARY_FLOAT").numeric,
  (plain "DOUBLE" "BINARY_DOUBLE").numeric,
  (plain "CHAR" "CHAR").sized 1,
  (plain "VARCHAR" "VARCHAR2").sized 255,
  (plain "VARCHAR2" "VARCHAR2").sized 255,
  (plain "TEXT" "CLOB").withoutCheck,
  (plain "BOOLEAN" "NUMBER(1)").unquoted,
  plain "DATE" "DATE",
  plain "TIME" "TIMESTAMP",
  plain "DATETIME" "TIMESTAMP",
  plain "TIMESTAMP" "TIMESTAMP",
  (plain "UUID" "VARCHAR2").sized 36,
  (plain "JSON" "CLOB").withoutCheck,
  (plain "BLOB" "BLOB").withoutCheck,
  ((plain "BINARY" "RAW").sized 16).withoutCheck,
  ((plain "VARBINARY" "RAW").sized 2000).withoutCheck]

/-- Oracle: identity columns, and no actions behind `ON UPDATE`. -/
def oracle : DialectConfig where
  id := "oracle"
  name := "Oracle"
  openQuote := '"'
  closeQuote := '"'
  increment := .identity "GENERATED BY DEFAULT AS IDENTITY"
  commentStyle := .statement
  foreignKeys := .alterTable
  inlineIndexes := false
  indexTypes := ["BITMAP"]
  indexTypePlacement := .modifier
  updateActions := []
  deleteActions := [.cascade, .setNull]
  batchSeparator := none
  supportsIfNotExists := false
  supportsUnsigned := false
  supportsArrays := false
  trueLiteral := "1"
  falseLiteral := "0"
  defaultFunctions := ["SYS_GUID()", "SYSDATE", "SYSTIMESTAMP", "CURRENT_TIMESTAMP"]
  types := oracleTypes

end DialectConfig

/-- The built-in engines. -/
inductive Dialect where
  | mysql
  | postgresql
  | sqlite
  | mssql
  | oracle
  deriving DecidableEq, Repr, Inhabited

namespace Dialect

/-- Every built-in engine. -/
def all : List Dialect := [mysql, postgresql, sqlite, mssql, oracle]

/-- The description of an engine. -/
def config : Dialect → DialectConfig
  | mysql => .mysql
  | postgresql => .postgresql
  | sqlite => .sqlite
  | mssql => .mssql
  | oracle => .oracle

/-- The name under which an engine is stored. -/
def id : Dialect → String
  | mysql => "mysql"
  | postgresql => "postgresql"
  | sqlite => "sqlite"
  | mssql => "mssql"
  | oracle => "oracle"

/-- Other names of an engine. -/
def aliases : Dialect → List String
  | mysql => ["mariadb"]
  | postgresql => ["postgres", "pg"]
  | sqlite => []
  | mssql => ["sqlserver", "transactsql"]
  | oracle => ["oraclesql"]

/-- The engine called by a name; blanks around it and the case of letters do not matter. -/
def ofName? (name : String) : Option Dialect :=
  match Text.lower (Text.trim name) with
  | "mysql" | "mariadb" => some mysql
  | "postgresql" | "postgres" | "pg" => some postgresql
  | "sqlite" => some sqlite
  | "mssql" | "sqlserver" | "transactsql" => some mssql
  | "oracle" | "oraclesql" => some oracle
  | _ => none

theorem mem_all (dialect : Dialect) : dialect ∈ all := by
  cases dialect <;> decide

@[simp] theorem config_id (dialect : Dialect) : dialect.config.id = dialect.id := by
  cases dialect <;> rfl

theorem id_injective {a b : Dialect} (h : a.id = b.id) : a = b := by
  revert h
  cases a <;> cases b <;> decide

end Dialect

end EntityDiagram
