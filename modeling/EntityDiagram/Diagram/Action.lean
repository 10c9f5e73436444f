/-!
# Referential actions

What the engine does to the rows of one table when the row they refer to changes or goes.
-/

namespace EntityDiagram

/-- A referential action of a foreign key. -/
inductive ForeignKeyAction where
  /-- Leave the check to the end of the statement. -/
  | noAction
  /-- Refuse the change at once. -/
  | restrict
  /-- Follow the change. -/
  | cascade
  /-- Set the referring columns to null. -/
  | setNull
  /-- Set the referring columns to their defaults. -/
  | setDefault
  deriving DecidableEq, Repr, Inhabited

namespace ForeignKeyAction

/-- The SQL words of an action. -/
def sql : ForeignKeyAction → String
  | noAction => "NO ACTION"
  | restrict => "RESTRICT"
  | cascade => "CASCADE"
  | setNull => "SET NULL"
  | setDefault => "SET DEFAULT"

end ForeignKeyAction

end EntityDiagram
