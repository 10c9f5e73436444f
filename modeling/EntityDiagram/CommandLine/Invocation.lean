import EntityDiagram.Text.Lines

/-!
# The command line

The program takes the path of a snapshot, perhaps the name of an engine, and flags. Arguments are
taken from left to right, so that a request for help counts unless something before it is wrong.
-/

namespace EntityDiagram.CommandLine

/-- What is asked for when SQL is to be printed. -/
structure Arguments where
  /-- The path of the snapshot. -/
  path : String
  /-- The name of the engine, where it is not the snapshot's own. -/
  dialect : Option String := none
  ifNotExists : Bool := false
  noComments : Bool := false
  deriving DecidableEq, Repr

/-- What the program is asked for. -/
inductive Invocation where
  | help
  | version
  | print (arguments : Arguments)
  /-- The arguments make no sense. -/
  | misuse
  deriving DecidableEq, Repr

/-- The text of the help. -/
def helpText : String := Text.join "\n" [
  "Entity-relationship schema model, undo history and multi-dialect DDL generator",
  "",
  "Usage: schemacraft [OPTIONS] <SNAPSHOT> [DIALECT]",
  "",
  "Arguments:",
  "  <SNAPSHOT>  Diagram snapshot (JSON)",
  "  [DIALECT]   Target dialect; defaults to the snapshot's own dialect",
  "",
  "Options:",
  "      --if-not-exists  Emit IF NOT EXISTS where the dialect supports it",
  "      --no-comments    Leave table and column comments out of the output",
  "  -h, --help           Print help",
  "  -V, --version        Print version",
  ""]

/-- The name and the version of the program. -/
def versionText : String := "schemacraft 0.1.0\n"

/-- What the arguments read so far say. -/
structure Progress where
  /-- The arguments that are no flags, newest first. -/
  values : List String := []
  ifNotExists : Bool := false
  noComments : Bool := false
  deriving DecidableEq, Repr

namespace Progress

/-- One more argument that is no flag: a path, which is not empty, and then an engine. -/
def addValue? (progress : Progress) (value : String) : Option Progress :=
  match progress.values with
  | [] => if value.isEmpty then none else some { progress with values := [value] }
  | [path] => some { progress with values := [value, path] }
  | _ => none

/-- The invocation when no arguments are left. -/
def finish (progress : Progress) : Invocation :=
  let withValues (path : String) (dialect : Option String) : Invocation :=
    .print ⟨path, dialect, progress.ifNotExists, progress.noComments⟩
  match progress.values with
  | [path] => withValues path none
  | [dialect, path] => withValues path (some dialect)
  | _ => .misuse

end Progress

/-- The invocation when nothing that follows is a flag. -/
def ofValues (progress : Progress) : List String → Invocation
  | [] => progress.finish
  | value :: rest =>
    match progress.addValue? value with
    | some progress => ofValues progress rest
    | none => .misuse

/-- The invocation that some arguments complete. No flag may be given twice. -/
def ofArguments (progress : Progress) : List String → Invocation
  | [] => progress.finish
  | "--" :: rest => ofValues progress rest
  | "--help" :: _ => .help
  | "--version" :: _ => .version
  | "--if-not-exists" :: rest =>
    if progress.ifNotExists then .misuse
    else ofArguments { progress with ifNotExists := true } rest
  | "--no-comments" :: rest =>
    if progress.noComments then .misuse
    else ofArguments { progress with noComments := true } rest
  | argument :: rest =>
    match argument.toList with
    | '-' :: 'h' :: _ => .help
    | '-' :: 'V' :: _ => .version
    | '-' :: _ :: _ => .misuse
    | _ =>
      match progress.addValue? argument with
      | some progress => ofArguments progress rest
      | none => .misuse

/-- The invocation that the arguments of the program spell. -/
def Invocation.ofList (arguments : List String) : Invocation := ofArguments {} arguments

end EntityDiagram.CommandLine
