import EntityDiagram.CommandLine.Invocation
import EntityDiagram.Ddl.Statement
import EntityDiagram.Issue
import EntityDiagram.Settings
import EntityDiagram.Snapshot.Basic

/-!
# What the program does

The program reads a snapshot and prints its SQL. Whatever is wrong with the settings, the snapshot
or the diagram goes to the log, and only a snapshot that cannot be read makes it fail.
-/

namespace EntityDiagram.CommandLine

/-- Why a file cannot be read. -/
inductive ReadFailure where
  | notFound
  | isDirectory
  | notDirectory
  | nameTooLong
  /-- The octets of the file are no text. -/
  | notText
  | other (cause : String)
  deriving DecidableEq, Repr

/-- What is said about a file that cannot be read. -/
def ReadFailure.message : ReadFailure → String
  | notFound => "No such file or directory (os error 2)"
  | isDirectory => "Is a directory (os error 21)"
  | notDirectory => "Not a directory (os error 20)"
  | nameTooLong => "File name too long (os error 36)"
  | notText => "stream did not contain valid UTF-8"
  | other cause => cause

/-- A line of the log. -/
structure LogLine where
  severity : Severity
  message : String
  deriving DecidableEq, Repr

/-- What the program leaves behind. -/
structure Outcome where
  exitCode : Nat := 0
  output : String := ""
  log : List LogLine := []
  deriving DecidableEq, Repr

/-- Whether a terminal would act on a character instead of showing it. -/
def isTerminalControl (c : Char) : Bool :=
  c == '\x07' || c == '\x08' || c == '\x0c' || c == '\x1b' ||
    (0x7F ≤ c.toNat && c.toNat < 0xA0)

/-- A character as the log shows it: controls as their numbers. -/
def logChar (c : Char) : String :=
  if !isTerminalControl c then String.singleton c
  else if c.toNat < 0x80 then
    "\\x" ++ (if c.toNat < 0x10 then "0" else "") ++ Text.hex c.toNat
  else "\\u\x7b" ++ Text.hex c.toNat ++ "\x7d"

/-- A line of the log in which nothing can disturb a terminal. -/
def LogLine.of (severity : Severity) (message : String) : LogLine :=
  ⟨severity, String.join (message.toList.map logChar)⟩

/-- The lines about settings that were not understood. -/
def settingLines (errors : List SettingError) : List LogLine :=
  errors.map fun error => .of .warning (error.message ++ "; using default")

/-- What is printed and logged for a diagram. -/
def printDiagram (settings : Settings) (arguments : Arguments) (diagram : Diagram) : Outcome :=
  let engine := engineNamed (arguments.dialect.getD diagram.dialect.id)
  let options : Ddl.Options := {
    ifNotExists := settings.ifNotExists || arguments.ifNotExists
    includeComments := settings.includeComments && !arguments.noComments }
  { output := diagram.ddl engine options ++ "\n"
    log :=
      ((diagram.issues engine.config).map fun issue => .of issue.severity issue.message) ++
        (diagram.omissions engine.config).map fun omission => .of .warning omission.message }

/-- What is printed and logged for the contents of a file. -/
def printFile (settings : Settings) (arguments : Arguments)
    (contents : Except ReadFailure String) : Outcome :=
  match contents with
  | .error failure =>
    { exitCode := 1
      log := [.of .error ("Failed to read " ++ arguments.path ++ ": " ++ failure.message)] }
  | .ok text =>
    match Diagram.ofSnapshotOr settings.defaultDialect text with
    | .error error =>
      { exitCode := 1, log := [.of .error (arguments.path ++ ": " ++ error.message)] }
    | .ok diagram => printDiagram settings arguments diagram

/-- What the program does when it is asked for something: `lookup` is the environment, and
`contents` what a file holds. -/
def Invocation.outcome (lookup : String → Option String)
    (contents : String → Except ReadFailure String) : Invocation → Outcome
  | .help => { output := helpText }
  | .version => { output := versionText }
  | .misuse => { exitCode := 2 }
  | .print arguments =>
    let (settings, errors) := Settings.ofLookup lookup
    let result := printFile settings arguments (contents arguments.path)
    { result with log := settingLines errors ++ result.log }

end EntityDiagram.CommandLine
