import EntityDiagram.Dialect.Config
import EntityDiagram.ReservedWord

/-!
# Names of tables and columns

A portable name has at most 64 characters, all of them ASCII letters, digits and underscores, does
not start with a digit and holds a letter. `Identifier.validate` says at one of three levels what
is wrong with a name, and `Identifier.sanitize?` makes a portable name of any text that holds an
ASCII letter.
-/

namespace EntityDiagram

/-- What can be wrong with a name. -/
inductive NameFault where
  | empty
  | tooLong (length : Nat)
  | invalidCharacters (invalid : List Char)
  | startsWithDigit
  | startsWithUnderscore
  | reservedKeyword (word : String)
  | noLetters
  | consecutiveUnderscores
  | endsWithUnderscore
  deriving DecidableEq, Repr

namespace NameFault

/-- What a fault is called in messages. -/
def message : NameFault → String
  | empty => "Name cannot be empty"
  | tooLong length => s!"Name is too long ({length} chars, max {maxIdentifierLength})"
  | invalidCharacters invalid =>
    "Name contains invalid characters: '" ++ String.ofList invalid ++
      "'. Only letters, numbers, and underscores are allowed"
  | startsWithDigit => "Name cannot start with a digit"
  | startsWithUnderscore => "Name should not start with an underscore"
  | reservedKeyword word => "'" ++ word ++ "' is a reserved SQL keyword"
  | noLetters => "Name must contain at least one letter"
  | consecutiveUnderscores => "Name cannot contain consecutive underscores"
  | endsWithUnderscore => "Name should not end with an underscore"

end NameFault

namespace Identifier

/-- How strictly names are judged. -/
inductive Level where
  /-- Only what makes a name unusable. -/
  | minimal
  /-- Reserved words too. -/
  | standard
  /-- Questions of style too. -/
  | strict
  deriving DecidableEq, Repr, Inhabited

/-- What was found wrong with a name: faults that refuse it, and faults that only warn. -/
structure Findings where
  errors : List NameFault := []
  warnings : List NameFault := []
  deriving DecidableEq, Repr

namespace Findings

/-- Whether the name is accepted. -/
def isValid (findings : Findings) : Bool := findings.errors.isEmpty

/-- Whether there are warnings. -/
def hasWarnings (findings : Findings) : Bool := !findings.warnings.isEmpty

end Findings

/-- Whether a character may stand in a portable name. -/
def isNameChar (c : Char) : Bool := c.isAlphanum || c == '_'

/-- Whether a name is a reserved word, in any case and with blanks around it. -/
def isReserved (name : String) : Bool := ReservedWord.all.contains (Text.upper (Text.trim name))

/-- Whether two underscores follow each other. -/
def hasDoubleUnderscore : List Char → Bool
  | '_' :: '_' :: _ => true
  | _ :: rest => hasDoubleUnderscore rest
  | [] => false

/-- A fault, if the condition for it holds. -/
def faultIf (condition : Bool) (fault : NameFault) : List NameFault :=
  if condition then [fault] else []

/-- The faults that make a trimmed name unusable. -/
def formFaults (name : List Char) : List NameFault :=
  let invalid := name.filter (!isNameChar ·)
  faultIf (maxIdentifierLength < name.length) (.tooLong name.length) ++
    faultIf (!invalid.isEmpty) (.invalidCharacters invalid) ++
    faultIf (name.head?.any Char.isDigit) .startsWithDigit ++
    faultIf (!name.any Char.isAlpha) .noLetters

/-- The fault of a trimmed name that is a reserved word. -/
def reservedFaults (name : List Char) : List NameFault :=
  faultIf (isReserved (String.ofList name)) (.reservedKeyword (String.ofList name))

/-- The faults of style of a trimmed name. -/
def styleFaults (name : List Char) : List NameFault :=
  faultIf (name.head? == some '_') .startsWithUnderscore ++
    faultIf (name.getLast? == some '_') .endsWithUnderscore ++
    faultIf (hasDoubleUnderscore name) .consecutiveUnderscores

/-- Judge a name at a level. Blanks around the name do not count. -/
def validate (name : String) (level : Level) : Findings :=
  let trimmed := Text.trimChars name.toList
  if trimmed.isEmpty then { errors := [.empty] }
  else
    match level with
    | .minimal => { errors := formFaults trimmed, warnings := styleFaults trimmed }
    | .standard =>
      { errors := formFaults trimmed ++ reservedFaults trimmed, warnings := styleFaults trimmed }
    | .strict =>
      { errors := formFaults trimmed ++ reservedFaults trimmed ++ styleFaults trimmed }

/-- The first fault of a name at the standard level. -/
def firstFault? (name : String) : Option NameFault := (validate name .standard).errors.head?

/-- What becomes of a character: name characters stay, separators turn into underscores, and all
else is dropped. -/
def portableChar? (c : Char) : Option Char :=
  if isNameChar c then some c
  else if c = ' ' || c = '-' || c = '.' then some '_'
  else none

/-- A list of characters with each run of underscores made one. -/
def mergeUnderscores : List Char → List Char
  | '_' :: '_' :: rest => mergeUnderscores ('_' :: rest)
  | c :: rest => c :: mergeUnderscores rest
  | [] => []

/-- A list of characters without the underscores at both ends. -/
def stripUnderscores (cs : List Char) : List Char :=
  ((cs.dropWhile (· == '_')).reverse.dropWhile (· == '_')).reverse

/-- A portable name made of a text, cut to the longest length; `none` if no letter is left. -/
def sanitize? (name : String) : Option String :=
  let portable := (Text.trimChars name.toList).filterMap portableChar?
  let result := stripUnderscores (mergeUnderscores (portable.dropWhile Char.isDigit))
  if result.any Char.isAlpha then some (String.ofList (result.take maxIdentifierLength)) else none

@[simp] theorem faultIf_true (fault : NameFault) : faultIf true fault = [fault] := rfl

@[simp] theorem faultIf_false (fault : NameFault) : faultIf false fault = [] := rfl

@[simp] theorem faultIf_eq_nil {condition : Bool} {fault : NameFault} :
    faultIf condition fault = [] ↔ condition = false := by
  cases condition <;> simp [faultIf]

theorem validate_of_blank {name : String} (h : Text.trimChars name.toList = []) (level : Level) :
    validate name level = { errors := [.empty] } := by
  simp [validate, h]

theorem errors_minimal_of_ne_nil {name : String} (h : Text.trimChars name.toList ≠ []) :
    (validate name .minimal).errors = formFaults (Text.trimChars name.toList) := by
  simp [validate, h]

theorem errors_standard_of_ne_nil {name : String} (h : Text.trimChars name.toList ≠ []) :
    (validate name .standard).errors =
      formFaults (Text.trimChars name.toList) ++ reservedFaults (Text.trimChars name.toList) := by
  simp [validate, h]

end Identifier

end EntityDiagram
