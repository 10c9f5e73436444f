import EntityDiagram.CommandLine.Outcome

/-!
# Paths in a folder

The program reads one file by its path. A path is followed step by step: from the folder where the
program runs, or from the root if it begins with a slash. The folder holds one file at most, and
nothing is known of what lies outside except that it consists of folders.
-/

namespace EntityDiagram.CommandLine

/-- A folder with at most one file: its name, and what reading it gives. -/
structure Folder where
  file : Option (String × Except ReadFailure String) := none

/-- Where a path has led so far. -/
inductive Place where
  /-- To the folder itself. -/
  | inside
  /-- To a folder above it, or to the root. -/
  | outside
  /-- To the file. -/
  | file (contents : Except ReadFailure String)

namespace Folder

/-- The largest number of octets in the name of a file. -/
def maxNameSize : Nat := 255

/-- The largest number of octets in a path. -/
def maxPathSize : Nat := 4095

/-- What reading the thing with a name gives, as seen from the folder. -/
def lookup (folder : Folder) (name : String) : Except ReadFailure Place :=
  match folder.file with
  | some (fileName, contents) => if name = fileName then .ok (.file contents) else .error .notFound
  | none => .error .notFound

/-- One step further on a path. Nothing lies behind a file, and a name that is too long is refused
before it is looked for. -/
def step (folder : Folder) : Place → String → Except ReadFailure Place
  | .file _, _ => .error .notDirectory
  | place, name =>
    if name = "" ∨ name = "." then .ok place
    else if name = ".." then .ok .outside
    else if maxNameSize < name.utf8ByteSize then .error .nameTooLong
    else match place with
      | .inside => folder.lookup name
      | _ => .error .notFound

/-- Where a path leads. -/
def follow (folder : Folder) (path : String) : Except ReadFailure Place :=
  if maxPathSize < path.utf8ByteSize then .error .nameTooLong
  else if path = "" then .error .notFound
  else (path.splitOn "/").foldlM folder.step (if path.startsWith "/" then .outside else .inside)

/-- What reading the file at a path gives. -/
def read (folder : Folder) (path : String) : Except ReadFailure String :=
  match folder.follow path with
  | .ok (.file contents) => contents
  | .ok _ => .error .isDirectory
  | .error failure => .error failure

end Folder

end EntityDiagram.CommandLine
