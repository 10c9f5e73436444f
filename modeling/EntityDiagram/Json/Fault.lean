import EntityDiagram.Decimal.Layout
import EntityDiagram.Text.Quoted

/-!
# What can be wrong with a JSON text

A text may end too early, break the rules of JSON, or be good JSON that does not describe what is
wanted. Each fault has one wording.
-/

namespace EntityDiagram.Json

/-- How numbers are written: around a point while the leading digit stands for 10⁻⁵ to 10¹⁵, else
with an exponent. -/
def numberLayout : Decimal.Layout where
  positionalFrom := -5
  positionalTo := 15
  mark := "e"
  plus := "+"

/-- What was being read when the text ended. -/
inductive Unfinished where
  | list
  | object
  | string
  | value
  deriving DecidableEq, Repr

/-- The ways in which a text breaks the rules of JSON. -/
inductive Malformed where
  | expectedColon
  | expectedListCommaOrEnd
  | expectedObjectCommaOrEnd
  | expectedIdent
  | expectedValue
  | invalidEscape
  | invalidNumber
  | numberOutOfRange
  | controlCharacter
  | keyMustBeString
  | loneSurrogate
  | trailingComma
  | trailingCharacters
  | unexpectedEndOfHexEscape
  | recursionLimit
  deriving DecidableEq, Repr

/-- What stands where something else was wanted. -/
inductive Found where
  | null
  | boolean (value : Bool)
  | integer (value : Int)
  | real (value : Float)
  | string (value : String)
  | sequence
  | map
  deriving DecidableEq, Repr

/-- The ways in which good JSON fails to describe what is wanted. -/
inductive Mismatch where
  | invalidType (found : Found) (expected : String)
  | invalidValue (found : Found) (expected : String)
  | invalidLength (length : Nat) (expected : String)
  | missingField (name : String)
  | duplicateField (name : String)
  | unknownVariant (name : String) (known : List String)
  deriving DecidableEq, Repr

/-- What is wrong with a text. -/
inductive Fault where
  | unfinished (part : Unfinished)
  | malformed (kind : Malformed)
  | mismatch (kind : Mismatch)
  deriving DecidableEq, Repr

/-- The part as messages call it. -/
def Unfinished.message : Unfinished → String
  | list => "EOF while parsing a list"
  | object => "EOF while parsing an object"
  | string => "EOF while parsing a string"
  | value => "EOF while parsing a value"

/-- What is said about a broken rule. -/
def Malformed.message : Malformed → String
  | expectedColon => "expected `:`"
  | expectedListCommaOrEnd => "expected `,` or `]`"
  | expectedObjectCommaOrEnd => "expected `,` or `\x7d`"
  | expectedIdent => "expected ident"
  | expectedValue => "expected value"
  | invalidEscape => "invalid escape"
  | invalidNumber => "invalid number"
  | numberOutOfRange => "number out of range"
  | controlCharacter => "control character (\\u0000-\\u001F) found while parsing a string"
  | keyMustBeString => "key must be a string"
  | loneSurrogate => "lone leading surrogate in hex escape"
  | trailingComma => "trailing comma"
  | trailingCharacters => "trailing characters"
  | unexpectedEndOfHexEscape => "unexpected end of hex escape"
  | recursionLimit => "recursion limit exceeded"

/-- The thing found, as messages show it. -/
def Found.title : Found → String
  | null => "null"
  | boolean value => "boolean `" ++ (if value then "true" else "false") ++ "`"
  | integer value => "integer `" ++ toString value ++ "`"
  | real value => "floating point `" ++ ((numberLayout.text? value).getD "null") ++ "`"
  | string value => "string " ++ Text.quoted value
  | sequence => "sequence"
  | map => "map"

/-- Names in a sentence: two joined by a word, more as a list. -/
def oneOf : List String → String
  | [] => "there are no variants"
  | [a] => "expected `" ++ a ++ "`"
  | [a, b] => "expected `" ++ a ++ "` or `" ++ b ++ "`"
  | names => "expected one of " ++ String.intercalate ", " (names.map fun a => "`" ++ a ++ "`")

/-- What is said about a mismatch. -/
def Mismatch.message : Mismatch → String
  | invalidType found expected => "invalid type: " ++ found.title ++ ", expected " ++ expected
  | invalidValue found expected => "invalid value: " ++ found.title ++ ", expected " ++ expected
  | invalidLength length expected =>
    "invalid length " ++ toString length ++ ", expected " ++ expected
  | missingField name => "missing field `" ++ name ++ "`"
  | duplicateField name => "duplicate field `" ++ name ++ "`"
  | unknownVariant name known => "unknown variant `" ++ name ++ "`, " ++ oneOf known

/-- What is said about a fault. -/
def Fault.message : Fault → String
  | unfinished part => part.message
  | malformed kind => kind.message
  | mismatch kind => kind.message

end EntityDiagram.Json
