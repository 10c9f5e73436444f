import EntityDiagram.Text.Blank
import EntityDiagram.Text.InvisibleTable

/-!
# Quoted text

A text between double quotes, as a message shows it: quotes and backslashes are escaped, common
control characters have their short escapes, and any other character without a visible form of
its own is written as its code point.
-/

namespace EntityDiagram.Text

/-- A number in lower-case hexadecimal digits without leading zeros. -/
def hex (n : Nat) : String := String.ofList (Nat.toDigits 16 n)

/-- A character as quoted text shows it. -/
def quotedChar (c : Char) : String :=
  if c = '\x00' then "\\0"
  else if c = '\t' then "\\t"
  else if c = '\n' then "\\n"
  else if c = '\r' then "\\r"
  else if c = '"' then "\\\""
  else if c = '\\' then "\\\\"
  else if inSpans InvisibleTable.spans c.toNat then "\\u\x7b" ++ hex c.toNat ++ "\x7d"
  else String.singleton c

/-- A text between double quotes, with what a reader could not see escaped. -/
def quoted (s : String) : String :=
  "\"" ++ String.join (s.toList.map quotedChar) ++ "\""

end EntityDiagram.Text
