import EntityDiagram.Ddl.Definition
import EntityDiagram.Session.Basic

/-!
# Settings

Settings come from environment variables. A value that cannot be understood is reported and its
usual value is taken instead, so that there are always settings to go on with.
-/

namespace EntityDiagram

/-- The environment variables that hold settings. -/
inductive Variable where
  | dialect
  | historyLimit
  | ifNotExists
  | includeComments
  deriving DecidableEq, Repr

/-- The name of a variable in the environment. -/
def Variable.name : Variable → String
  | dialect => "SCHEMACRAFT_DIALECT"
  | historyLimit => "SCHEMACRAFT_HISTORY_LIMIT"
  | ifNotExists => "SCHEMACRAFT_IF_NOT_EXISTS"
  | includeComments => "SCHEMACRAFT_INCLUDE_COMMENTS"

/-- Why the value of a variable is not understood. -/
inductive SettingError where
  | unknownDialect (source : Variable) (value : String)
  | invalidNumber (source : Variable) (value : String)
  | invalidBool (source : Variable) (value : String)
  deriving DecidableEq, Repr

/-- What is said about a value that is not understood. -/
def SettingError.message : SettingError → String
  | unknownDialect source value => source.name ++ ": unknown dialect '" ++ value ++ "'"
  | invalidNumber source value =>
    source.name ++ ": expected a positive integer, got '" ++ value ++ "'"
  | invalidBool source value => source.name ++ ": expected a boolean, got '" ++ value ++ "'"

namespace Variable

/-- The engine that a value names. -/
def readDialect (source : Variable) (value : String) : Except SettingError Dialect :=
  match Dialect.ofName? value with
  | some known => .ok known
  | none => .error (.unknownDialect source value)

/-- The number of a list of ASCII digits, which is not empty. -/
def digitsToNat? (digits : List Char) : Option Nat :=
  if digits.isEmpty || !digits.all Char.isDigit then none
  else some (digits.foldl (fun n c => 10 * n + (c.toNat - '0'.toNat)) 0)

/-- The positive number that a value spells, which may have a plus sign and fits into 64 bits. -/
def readLimit (source : Variable) (value : String) : Except SettingError Nat :=
  let digits := match value.toList with
    | '+' :: rest => rest
    | cs => cs
  match digitsToNat? digits with
  | some n => if 0 < n ∧ n < UInt64.size then .ok n else .error (.invalidNumber source value)
  | none => .error (.invalidNumber source value)

/-- The yes or no that a value says, in any case of its ASCII letters. -/
def readBool (source : Variable) (value : String) : Except SettingError Bool :=
  let word := Text.asciiLower value
  if ["1", "true", "yes", "on"].contains word then .ok true
  else if ["0", "false", "no", "off"].contains word then .ok false
  else .error (.invalidBool source value)

end Variable

/-- What a user may set once for all diagrams. -/
structure Settings where
  /-- The engine of new diagrams, and of saved ones that name none. -/
  defaultDialect : Dialect := .mysql
  historyLimit : Nat := History.defaultLimit
  ifNotExists : Bool := false
  includeComments : Bool := true
  deriving DecidableEq, Repr

namespace Settings

/-- The setting of a variable: its value without the blanks around it, or the usual one with what
is wrong with the value. -/
def setting {α : Type} (lookup : String → Option String) (source : Variable)
    (read : Variable → String → Except SettingError α) (usual : α) :
    α × List SettingError :=
  match lookup source.name with
  | none => (usual, [])
  | some value =>
    match read source (Text.trim value) with
    | .ok a => (a, [])
    | .error error => (usual, [error])

/-- The settings in an environment, and what is wrong with it. -/
def ofLookup (lookup : String → Option String) : Settings × List SettingError :=
  let usual : Settings := {}
  let (defaultDialect, dialectErrors) :=
    setting lookup .dialect Variable.readDialect usual.defaultDialect
  let (historyLimit, limitErrors) :=
    setting lookup .historyLimit Variable.readLimit usual.historyLimit
  let (ifNotExists, existsErrors) :=
    setting lookup .ifNotExists Variable.readBool usual.ifNotExists
  let (includeComments, commentErrors) :=
    setting lookup .includeComments Variable.readBool usual.includeComments
  ({ defaultDialect, historyLimit, ifNotExists, includeComments },
    dialectErrors ++ limitErrors ++ existsErrors ++ commentErrors)

/-- How SQL is written under some settings. -/
def options (settings : Settings) : Ddl.Options where
  ifNotExists := settings.ifNotExists
  includeComments := settings.includeComments

/-- A session on an empty diagram under some settings. -/
def session (settings : Settings) : Session :=
  .start { title := "Untitled", dialect := settings.defaultDialect } settings.historyLimit

end Settings

end EntityDiagram
