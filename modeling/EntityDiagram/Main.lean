import EntityDiagram.CommandLine.Outcome

/-!
# The program

The outer layer reads the arguments, the environment and one file, and prints what comes of them.
-/

namespace EntityDiagram.CommandLine

/-- The cause of a failure of the file system. -/
def ReadFailure.ofError : IO.Error → ReadFailure
  | .noFileOrDirectory .. => .notFound
  | .inappropriateType _ code _ => if code = 21 then .isDirectory else .notDirectory
  | error@(.invalidArgument _ code _) =>
    if code = 36 ∨ -code = 36 then .nameTooLong else .other (toString error)
  | error => .other (toString error)

/-- The text of a file. -/
def readText (path : String) : IO (Except ReadFailure String) := do
  try
    let octets ← IO.FS.readBinFile path
    return match String.fromUTF8? octets with
      | some text => .ok text
      | none => .error .notText
  catch error => return .error (.ofError error)

/-- The values of the variables that hold settings. -/
def readVariables : IO (List (String × String)) :=
  [Variable.dialect, .historyLimit, .ifNotExists, .includeComments].filterMapM fun source => do
    return (← IO.getEnv source.name).map (source.name, ·)

/-- A line of the log as it is printed. -/
def LogLine.text (line : LogLine) : String :=
  (match line.severity with
    | .error => "ERROR "
    | .warning => " WARN ") ++ line.message

end EntityDiagram.CommandLine

open EntityDiagram.CommandLine in
/-- Run the program with some arguments. -/
def main (arguments : List String) : IO UInt32 := do
  let invocation := Invocation.ofList arguments
  let environment ← readVariables
  let contents ← match invocation with
    | .print arguments => readText arguments.path
    | _ => pure (.error .notFound)
  let outcome := invocation.outcome (fun name => environment.lookup name) fun _ => contents
  if outcome.exitCode = 2 then
    IO.eprintln "Usage: schemacraft [OPTIONS] <SNAPSHOT> [DIALECT]"
  for line in outcome.log do
    IO.eprintln line.text
  IO.print outcome.output
  (← IO.getStdout).flush
  return outcome.exitCode.toUInt32
