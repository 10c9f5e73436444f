import EntityDiagram.Ddl.Definition
import EntityDiagram.Ddl.Piece
import EntityDiagram.Dialect.Registry

/-!
# Columns in SQL

A column is its name, its type, and what the field asks for besides: arrays, unsigned integers,
counting up, a default, constraints, a check and a comment. Each request becomes a clause or a
caveat.
-/

namespace EntityDiagram

/-- The digits of a number. -/
def numeral (n : UInt32) : String := toString n.toNat

/-- Whether a text, blanks aside, is a decimal number: a sign or none, then digits with at most one
dot and at least one digit. -/
def isNumericLiteral (text : String) : Bool :=
  let trimmed := Text.trimChars text.toList
  let digits := match trimmed with
    | '-' :: rest => rest
    | '+' :: rest => rest
    | other => other
  digits.count '.' ≤ 1 && digits.all (fun c => c.isDigit || c == '.') && digits.any Char.isDigit

namespace Field

/-- The size or precision that follows the type of a field, if any. -/
def typeSuffix (field : Field) (info : TypeInfo) : String :=
  if info.isSized then
    match field.size.or info.defaultSize with
    | some size => s!"({numeral size})"
    | none => ""
  else if info.hasPrecision then
    match field.precision, field.scale with
    | none, _ => ""
    | some precision, none => s!"({numeral precision})"
    | some precision, some scale =>
      if scale = 0 && info.omitZeroScale then s!"({numeral precision})"
      else s!"({numeral precision},{numeral scale})"
  else ""

/-- The SQL type of a field. -/
def sqlType (field : Field) (config : DialectConfig) : String :=
  config.sqlTypeName field.dataType ++ field.typeSuffix (config.typeInfo field.dataType) ++
    if field.isArray && config.supportsArrays then "[]" else ""

/-- How an engine writes a default for a column of a type. -/
def defaultText (config : DialectConfig) (dataType : String) : DefaultValue → String
  | .keyword word =>
    match Text.upper word with
    | "TRUE" => config.trueLiteral
    | "FALSE" => config.falseLiteral
    | other => other
  | .expression call => Text.trim call
  | .literal value =>
    if !(config.typeInfo dataType).hasQuotes && isNumericLiteral value then Text.trim value
    else config.quoteString value

/-- The operand of `DEFAULT` for a field; a column that counts up has none. -/
def defaultOperand? (field : Field) (config : DialectConfig) : Option String :=
  if field.increment then none else field.default.map (defaultText config field.dataType)

end Field

namespace Ddl

/-- What SQL is written for: an engine and the chosen options. -/
structure Target where
  config : DialectConfig
  comments : CommentSyntax := .standard
  options : Options := {}
  deriving DecidableEq, Repr

namespace Target

/-- Whether comments are written in the given style. -/
def writesComments (target : Target) (style : CommentStyle) : Bool :=
  target.options.includeComments && target.config.commentStyle == style

/-- The words that skip what is there already, where they are wanted and known. -/
def ifNotExists (target : Target) : String :=
  if target.options.ifNotExists && target.config.supportsIfNotExists then "IF NOT EXISTS " else ""

/-- An array column: marked in the type, or reduced to its elements with a caveat. -/
def arrayPieces (target : Target) (table : Table) (field : Field) : List Piece :=
  if field.isArray && !target.config.supportsArrays then
    [.caveat (table.name ++ "." ++ field.name ++ " is an array column; " ++ target.config.name ++
      " has no array types, element type used")]
  else []

/-- An unsigned column. -/
def unsignedPieces (target : Target) (table : Table) (field : Field) : List Piece :=
  if field.unsigned then
    if target.config.supportsUnsigned && (target.config.typeInfo field.dataType).signed then
      [.clause "UNSIGNED"]
    else
      [.caveat (table.name ++ "." ++ field.name ++ ": " ++ target.config.name ++
        " has no UNSIGNED " ++ field.dataType ++ "; clause omitted")]
  else []

/-- A column that counts up, where the engine writes that behind the type. -/
def identityPieces (target : Target) (table : Table) (field : Field) : List Piece :=
  if field.increment then
    match target.config.increment with
    | .keyword _ => []
    | .identity sql => [.clause sql]
    | .inlinePrimaryKey sql =>
      if (table.inlinePrimaryKey? target.config).any (·.id == field.id) then [.clause sql]
      else
        [.caveat (table.name ++ "." ++ field.name ++ ": " ++ sql ++
          " requires a single-column primary key; auto-increment omitted")]
  else []

/-- A column that counts up, where the engine writes that behind the constraints. -/
def incrementPieces (target : Target) (field : Field) : List Piece :=
  match target.config.increment with
  | .keyword sql => Piece.clauseIf field.increment sql
  | _ => []

/-- The default of a column. -/
def defaultPieces (target : Target) (field : Field) : List Piece :=
  match field.defaultOperand? target.config with
  | some operand => [.clause ("DEFAULT " ++ operand)]
  | none => []

/-- The check of a column. -/
def checkPieces (target : Target) (table : Table) (field : Field) : List Piece :=
  match Text.nonBlank? field.check with
  | none => []
  | some check =>
    if (target.config.typeInfo field.dataType).hasCheck then [.clause ("CHECK(" ++ check ++ ")")]
    else
      [.caveat (table.name ++ "." ++ field.name ++ ": " ++ target.config.name ++
        " does not support CHECK on " ++ field.dataType ++ "; CHECK(" ++ check ++ ") omitted")]

/-- A text with the end of a block comment broken up wherever it occurs. -/
def breakBlockEnd : List Char → List Char
  | '*' :: '/' :: rest => '*' :: ' ' :: '/' :: breakBlockEnd rest
  | c :: rest => c :: breakBlockEnd rest
  | [] => []

/-- A comment behind its column. -/
def columnCommentText (target : Target) (comment : String) : String :=
  match target.comments with
  | .sqlText => "/* " ++ String.ofList (breakBlockEnd comment.toList) ++ " */"
  | _ => "COMMENT " ++ target.config.quoteString comment

/-- The comment of a column, where it stands in the definition. -/
def columnCommentPieces (target : Target) (field : Field) : List Piece :=
  Piece.clauseIf (target.writesComments .inline && field.hasComment)
    (target.columnCommentText field.comment)

/-- A column: the pieces of its definition in order. -/
def columnPieces (target : Target) (table : Table) (field : Field) : List Piece :=
  [.clause (target.config.quoteIdentifier field.name), .clause (field.sqlType target.config)] ++
    target.arrayPieces table field ++
    target.unsignedPieces table field ++
    target.identityPieces table field ++
    target.defaultPieces field ++
    Piece.clauseIf field.isRequired "NOT NULL" ++
    Piece.clauseIf field.unique "UNIQUE" ++
    target.incrementPieces field ++
    target.checkPieces table field ++
    target.columnCommentPieces field

end Target

end Ddl

end EntityDiagram
