import EntityDiagram.Json.Value

/-!
# Written values

A value is written with every item and member on a line of its own, indented by two spaces for
each container around it. Numbers that are not finite are written as null.
-/

namespace EntityDiagram.Json

/-- A hexadecimal digit. -/
def hexDigit (n : Nat) : Char :=
  if n < 10 then Char.ofNat ('0'.toNat + n) else Char.ofNat ('a'.toNat + (n - 10))

/-- A character as it stands between quotes. -/
def escapeChar (c : Char) : List Char :=
  if c = '"' then ['\\', '"']
  else if c = '\\' then ['\\', '\\']
  else if c = '\x08' then ['\\', 'b']
  else if c = '\x0c' then ['\\', 'f']
  else if c = '\n' then ['\\', 'n']
  else if c = '\r' then ['\\', 'r']
  else if c = '\t' then ['\\', 't']
  else if c.toNat < 0x20 then
    ['\\', 'u', '0', '0', hexDigit (c.toNat / 16), hexDigit (c.toNat % 16)]
  else [c]

/-- A text between quotes. -/
def quoteText (text : String) : List Char := '"' :: (text.toList.flatMap escapeChar ++ ['"'])

/-- A number as text. -/
def Number.chars : Number → List Char
  | integer value => (toString value).toList
  | real value => ((numberLayout.text? value).getD "null").toList

/-- The end of a line and the indentation of the next. -/
def newLine (level : Nat) : List Char := '\n' :: List.replicate (2 * level) ' '

mutual

/-- A value as text, inside the given number of containers. -/
def Value.chars : (level : Nat) → Value → List Char
  | _, .null => "null".toList
  | _, .bool true => "true".toList
  | _, .bool false => "false".toList
  | _, .number value => value.chars
  | _, .string value => quoteText value
  | _, .array .nil => ['[', ']']
  | level, .array (.cons head tail) =>
    '[' :: (newLine (level + 1) ++ head.chars (level + 1) ++ tail.chars (level + 1) ++
      newLine level ++ [']'])
  | _, .object .nil => ['\x7b', '\x7d']
  | level, .object (.cons key value tail) =>
    '\x7b' :: (newLine (level + 1) ++ quoteText key ++ [':', ' '] ++ value.chars (level + 1) ++
      tail.chars (level + 1) ++ newLine level ++ ['\x7d'])

/-- Further items, each behind a comma. -/
def Values.chars : (level : Nat) → Values → List Char
  | _, .nil => []
  | level, .cons head tail => ',' :: (newLine level ++ head.chars level ++ tail.chars level)

/-- Further members, each behind a comma. -/
def Fields.chars : (level : Nat) → Fields → List Char
  | _, .nil => []
  | level, .cons key value tail =>
    ',' :: (newLine level ++ quoteText key ++ [':', ' '] ++ value.chars level ++ tail.chars level)

end

/-- A value as text. -/
def Value.pretty (value : Value) : String := String.ofList (value.chars 0)

end EntityDiagram.Json
