/-!
# Reserved words

The words that cannot be identifiers without quotes, in capitals: those of the SQL standard, and
what single engines add to them.
-/

namespace EntityDiagram.ReservedWord

/-- The words that the SQL standard reserves. -/
def standardWords : List String := [
  "ADD", "ALL", "ALTER", "AND", "ANY", "AS", "ASC", "BETWEEN", "BY", "CASE", "CHECK", "COLUMN",
  "CONSTRAINT", "CREATE", "CROSS", "CURRENT_DATE", "CURRENT_TIME", "CURRENT_TIMESTAMP",
  "CURRENT_USER", "DEFAULT", "DELETE", "DESC", "DISTINCT", "DROP", "ELSE", "END", "EXISTS",
  "FALSE", "FETCH", "FOR", "FOREIGN", "FROM", "FULL", "GRANT", "GROUP", "HAVING", "IN", "INDEX",
  "INNER", "INSERT", "INTO", "IS", "JOIN", "KEY", "LEFT", "LIKE", "NOT", "NULL", "ON", "OR",
  "ORDER", "OUTER", "PRIMARY", "REFERENCES", "RIGHT", "SELECT", "SET", "TABLE", "THEN", "TO",
  "TRUE", "UNION", "UNIQUE", "UPDATE", "USING", "VALUES", "WHEN", "WHERE", "WITH"]

/-- Further words of MySQL. -/
def mysqlWords : List String := [
  "AUTO_INCREMENT", "CHANGE", "DATABASE", "LIMIT", "MODIFY", "RENAME", "REPLACE", "SCHEMA",
  "SHOW", "TRIGGER", "UNSIGNED", "ZEROFILL"]

/-- Further words of PostgreSQL. -/
def postgresqlWords : List String := [
  "ANALYZE", "ARRAY", "CAST", "DO", "EXCEPT", "ILIKE", "INTERSECT", "LATERAL", "LOCALTIME",
  "LOCALTIMESTAMP", "OFFSET", "ONLY", "RETURNING", "WINDOW"]

/-- Further words of SQL Server. -/
def mssqlWords : List String := [
  "CLUSTERED", "IDENTITY", "NONCLUSTERED", "PROC", "TOP", "TRAN"]

/-- Further words of Oracle. -/
def oracleWords : List String := [
  "ACCESS", "LEVEL", "MINUS", "NUMBER", "RAW", "ROWID", "ROWNUM", "SYSDATE", "UID", "VARCHAR2"]

/-- Every reserved word. -/
def all : List String :=
  standardWords ++ mysqlWords ++ postgresqlWords ++ mssqlWords ++ oracleWords

end EntityDiagram.ReservedWord
