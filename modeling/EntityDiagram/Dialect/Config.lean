import EntityDiagram.Diagram.Action
import EntityDiagram.Text.Case

/-!
# Descriptions of SQL engines

A `DialectConfig` says, as plain data, how one engine quotes names, spells types, counts up keys,
places comments, indexes and foreign keys, and which options it knows. Writing SQL reads all that
depends on the engine from this record.
-/

namespace EntityDiagram

/-- The number of characters after which identifiers are cut, in every engine. -/
def maxIdentifierLength : Nat := 64

/-- How an engine spells a column that counts up by itself. -/
inductive IncrementStrategy where
  /-- A keyword behind the constraints of the column. -/
  | keyword (clause : String)
  /-- A clause right behind the type. -/
  | identity (clause : String)
  /-- A clause that also declares the only primary key column of the table. -/
  | inlinePrimaryKey (clause : String)
  deriving DecidableEq, Repr

/-- Where comments on tables and columns go. -/
inductive CommentStyle where
  /-- Into the definition of the table or column. -/
  | inline
  /-- Into statements of their own behind the tables. -/
  | statement
  deriving DecidableEq, Repr

/-- Where the access method of an index is written. -/
inductive IndexTypePlacement where
  /-- Behind the columns: `(cols) USING BTREE`. -/
  | usingSuffix
  /-- In front of the columns: `ON t USING GIN (cols)`. -/
  | usingBeforeColumns
  /-- In front of the word `INDEX`: `CREATE BITMAP INDEX`. -/
  | modifier
  deriving DecidableEq, Repr

/-- Where foreign keys are declared. -/
inductive ForeignKeyPlacement where
  /-- In statements that alter the tables, after all of them are there. -/
  | alterTable
  /-- Among the elements of the referring table. -/
  | inline
  deriving DecidableEq, Repr

/-- What an engine makes of one logical type. -/
structure TypeInfo where
  /-- The logical name. -/
  name : String
  /-- The name in the SQL of the engine. -/
  sql : String
  /-- Whether a size follows the type. -/
  isSized : Bool := false
  /-- Whether a precision, with or without a scale, may follow the type. -/
  hasPrecision : Bool := false
  /-- Whether the column may carry a check. -/
  hasCheck : Bool := true
  /-- Whether every default of the type is written as a string. -/
  hasQuotes : Bool := true
  /-- Whether the type has a sign that can be given up. -/
  signed : Bool := false
  /-- Whether the type holds integers only. -/
  isInteger : Bool := false
  /-- The size of a column that names none. -/
  defaultSize : Option UInt32 := none
  /-- Whether a scale of zero is left out. -/
  omitZeroScale : Bool := false
  deriving DecidableEq, Repr

namespace TypeInfo

/-- The type followed by a size, with the one to take if the column names none. -/
def sized (size : UInt32) (info : TypeInfo) : TypeInfo :=
  { info with isSized := true, defaultSize := some size }

/-- The type followed by a precision. -/
def withPrecision (info : TypeInfo) : TypeInfo := { info with hasPrecision := true }

/-- The type as a signed number whose defaults may stand unquoted. -/
def numeric (info : TypeInfo) : TypeInfo := { info with hasQuotes := false, signed := true }

/-- The type as an integer. -/
def integer (info : TypeInfo) : TypeInfo := numeric { info with isInteger := true }

/-- The type with defaults that may stand unquoted. -/
def unquoted (info : TypeInfo) : TypeInfo := { info with hasQuotes := false }

/-- The type without checks. -/
def withoutCheck (info : TypeInfo) : TypeInfo := { info with hasCheck := false }

/-- The type with a zero scale left out. -/
def dropZeroScale (info : TypeInfo) : TypeInfo := { info with omitZeroScale := true }

/-- What holds of a type that an engine does not list. -/
def unknown : TypeInfo := { name := "", sql := "" }

end TypeInfo

/-- The description of one SQL engine. -/
structure DialectConfig where
  /-- The name under which the engine is registered. -/
  id : String
  /-- The name shown to people. -/
  name : String
  /-- The character that opens a quoted identifier. -/
  openQuote : Char
  /-- The character that closes a quoted identifier. -/
  closeQuote : Char
  increment : IncrementStrategy
  commentStyle : CommentStyle
  foreignKeys : ForeignKeyPlacement
  /-- Whether indexes are declared among the elements of their table. -/
  inlineIndexes : Bool
  /-- The access methods of indexes that the engine knows. -/
  indexTypes : List String
  indexTypePlacement : IndexTypePlacement
  /-- The actions that may follow `ON UPDATE`. -/
  updateActions : List ForeignKeyAction
  /-- The actions that may follow `ON DELETE`. -/
  deleteActions : List ForeignKeyAction
  /-- A line that ends each batch, behind every statement. -/
  batchSeparator : Option String
  supportsIfNotExists : Bool
  supportsUnsigned : Bool
  supportsArrays : Bool
  trueLiteral : String
  falseLiteral : String
  /-- Calls that are known as defaults. -/
  defaultFunctions : List String
  types : List TypeInfo
  deriving DecidableEq, Repr

namespace DialectConfig

/-- The characters of a text between two quotes, where the closing quote is written twice. -/
def enquote (opening closing : Char) (cs : List Char) : List Char :=
  opening :: cs.flatMap (fun c => if c = closing then [closing, c] else [c]) ++ [closing]

/-- An identifier in the quotes of the engine. -/
def quoteIdentifier (config : DialectConfig) (name : String) : String :=
  String.ofList (enquote config.openQuote config.closeQuote name.toList)

/-- A string literal: single quotes around the text, and those inside it doubled. -/
def quoteString (_ : DialectConfig) (text : String) : String :=
  String.ofList (enquote '\x27' '\x27' text.toList)

/-- The quoted identifiers of a list, separated by commas. -/
def quotedList (config : DialectConfig) (names : List String) : String :=
  String.intercalate ", " (names.map config.quoteIdentifier)

/-- What the engine says about a logical type; blanks around the name and the case of ASCII
letters do not matter. -/
def typeInfo? (config : DialectConfig) (name : String) : Option TypeInfo :=
  config.types.find? fun info => Text.eqIgnoringCase info.name (Text.trim name)

/-- What holds of a logical type in the engine, listed or not. -/
def typeInfo (config : DialectConfig) (name : String) : TypeInfo :=
  (config.typeInfo? name).getD .unknown

/-- The SQL name of a logical type; a type that is not listed is written in capitals. -/
def sqlTypeName (config : DialectConfig) (name : String) : String :=
  match config.typeInfo? name with
  | some info => info.sql
  | none => Text.upper (Text.trim name)

/-- Whether the engine knows an access method. -/
def supportsIndexType (config : DialectConfig) (method : String) : Bool :=
  config.indexTypes.any fun known => Text.eqIgnoringCase known (Text.trim method)

/-- Whether an action may follow `ON UPDATE`. -/
def supportsUpdateAction (config : DialectConfig) (action : ForeignKeyAction) : Bool :=
  config.updateActions.contains action

/-- Whether an action may follow `ON DELETE`. -/
def supportsDeleteAction (config : DialectConfig) (action : ForeignKeyAction) : Bool :=
  config.deleteActions.contains action

@[simp] theorem toList_quoteIdentifier (config : DialectConfig) (name : String) :
    (config.quoteIdentifier name).toList =
      enquote config.openQuote config.closeQuote name.toList := by
  simp [quoteIdentifier]

@[simp] theorem toList_quoteString (config : DialectConfig) (text : String) :
    (config.quoteString text).toList = enquote '\x27' '\x27' text.toList := by
  simp [quoteString]

theorem typeInfo_of_eq_some {config : DialectConfig} {name : String} {info : TypeInfo}
    (h : config.typeInfo? name = some info) : config.typeInfo name = info := by
  simp [typeInfo, h]

theorem typeInfo_of_eq_none {config : DialectConfig} {name : String}
    (h : config.typeInfo? name = none) : config.typeInfo name = .unknown := by
  simp [typeInfo, h]

end DialectConfig

end EntityDiagram
