import EntityDiagram.Dialect.Config

/-!
# Default values

The default of a column is a plain value, a call, or one of the words that every engine knows.
`DefaultValue.infer` sorts what a person typed into these three kinds.
-/

namespace EntityDiagram

/-- The default value of a column. -/
inductive DefaultValue where
  /-- A plain value, written as a string literal unless the column is numeric. -/
  | literal (text : String)
  /-- A call such as `NOW()`, written as it stands. -/
  | expression (text : String)
  /-- A reserved word such as `NULL` or `CURRENT_TIMESTAMP`. -/
  | keyword (text : String)
  deriving DecidableEq, Repr, Inhabited

namespace DefaultValue

/-- The words that are defaults of their own in every engine. -/
def keywords : List String := [
  "NULL", "TRUE", "FALSE", "CURRENT_TIMESTAMP", "CURRENT_DATE", "CURRENT_TIME", "CURRENT_USER",
  "LOCALTIME", "LOCALTIMESTAMP", "SYSDATE", "SYSTIMESTAMP"]

/-- The text of a default, whatever its kind. -/
def text : DefaultValue → String
  | literal text => text
  | expression text => text
  | keyword text => text

/-- A keyword default from a word in any case. -/
def ofKeyword (word : String) : DefaultValue := keyword (Text.upper word)

/-- Whether a character may stand in the name of a called function. -/
def isCallChar (c : Char) : Bool := c.isAlphanum || c == '_' || c == '.'

/-- Whether a text has the shape of a call: a name of ASCII letters, digits, underscores and dots
that starts with a letter or an underscore, an opening parenthesis, and at last a closing one. -/
def looksLikeCall (text : List Char) : Bool :=
  let name := text.takeWhile (· != '(')
  text.contains '(' && text.getLast? == some ')' &&
    name.head?.any (fun c => c.isAlpha || c == '_') && name.all isCallChar

/-- Sort a text as a person typed it. A reserved word counts in any case, a call by the list of
the engine or by its shape; everything else is a literal and keeps its blanks. -/
def infer (config : DialectConfig) (raw : String) : DefaultValue :=
  let trimmed := Text.trim raw
  let upper := Text.upper trimmed
  if keywords.contains upper then keyword upper
  else if config.defaultFunctions.any (Text.eqIgnoringCase · trimmed) ||
      looksLikeCall trimmed.toList then
    expression trimmed
  else literal raw

@[simp] theorem text_literal (text : String) : (literal text).text = text := rfl

@[simp] theorem text_expression (text : String) : (expression text).text = text := rfl

@[simp] theorem text_keyword (text : String) : (keyword text).text = text := rfl

end DefaultValue

end EntityDiagram
