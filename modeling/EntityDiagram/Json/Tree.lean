import EntityDiagram.Json.Number

/-!
# What a JSON text spells

A tree records a text up to its first fault, without judging it: which faults count, and in which
order, depends on who reads the tree. A reader that wants the value of a string minds broken pairs
of escapes, for instance, and one that passes over the string does not.
-/

namespace EntityDiagram.Json

/-- A piece of a string: a character, or the number of a hexadecimal escape. -/
inductive StringPart where
  | char (value : Char)
  | unit (value : Nat)
  deriving DecidableEq, Repr

/-- How the spelling of a string ends. -/
inductive StringEnd where
  /-- With its closing quote. -/
  | closed
  /-- With the text. -/
  | cut
  /-- At a control character. -/
  | control
  /-- At a backslash with a character behind it that begins no escape. -/
  | badEscape
  /-- At an escape that wants four hexadecimal digits and has others. -/
  | badHex
  deriving DecidableEq, Repr

/-- The spelling of a string. -/
structure Spelling where
  parts : List StringPart
  ending : StringEnd
  deriving DecidableEq, Repr

/-- How the members of an array or an object end. -/
inductive Stop where
  /-- With the closing bracket. -/
  | closed
  /-- With the text. -/
  | cut
  /-- At a character that is neither a comma nor the bracket. -/
  | stray
  /-- With a comma and the bracket. -/
  | commaClosed
  /-- With a comma and the end of the text. -/
  | commaCut
  deriving DecidableEq, Repr

mutual

/-- What stands where a value is due. -/
inductive Tree where
  /-- The text does not come to a value here. -/
  | absent (fault : Fault)
  /-- A character or a word that begins no value. -/
  | broken (fault : Fault)
  | null
  | bool (value : Bool)
  | number (numeral : Numeral)
  /-- A number that breaks off, with the text or before. -/
  | badNumber (cut : Bool)
  | string (spelling : Spelling)
  | array (items : Items)
  | object (entries : Entries)
  deriving DecidableEq, Repr

/-- The items of an array. -/
inductive Items where
  | stop (stop : Stop)
  | item (head : Tree) (rest : Items)
  deriving DecidableEq, Repr

/-- The entries of an object. -/
inductive Entries where
  | stop (stop : Stop)
  /-- With something else than a string where a key is due. -/
  | nonKey
  | entry (key : Spelling) (value : Tree) (rest : Entries)
  deriving DecidableEq, Repr

end

/-- What is wrong with the end of an array. -/
def Stop.listFault? : Stop → Option Fault
  | closed => none
  | cut => some (.unfinished .list)
  | stray => some (.malformed .expectedListCommaOrEnd)
  | commaClosed => some (.malformed .trailingComma)
  | commaCut => some (.unfinished .value)

/-- What is wrong with the end of an object. -/
def Stop.objectFault? : Stop → Option Fault
  | closed => none
  | cut => some (.unfinished .object)
  | stray => some (.malformed .expectedObjectCommaOrEnd)
  | commaClosed => some (.malformed .trailingComma)
  | commaCut => some (.unfinished .value)

/-- What is wrong with the rest of an array of which everything wanted has been read. -/
def Items.surplusFault? : Items → Option Fault
  | stop .closed => none
  | stop .cut => some (.unfinished .list)
  | stop .commaClosed => some (.malformed .trailingComma)
  | _ => some (.malformed .trailingCharacters)

end EntityDiagram.Json
