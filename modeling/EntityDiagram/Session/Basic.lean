import EntityDiagram.History
import EntityDiagram.Session.Edit

/-!
# Editing sessions

A session holds the live diagram and its history. An edit that succeeds is recorded, one that is
refused leaves the session as it was. Moving something on the canvas is not recorded, and loading
another diagram empties the history.
-/

namespace EntityDiagram

/-- What can be moved on the canvas. -/
inductive Movable where
  | table
  | note
  | area
  deriving DecidableEq, Repr

/-- The live diagram and the states it can go back and forth to. -/
structure Session where
  diagram : Diagram := {}
  history : History Diagram := .ofLimit History.defaultLimit
  deriving DecidableEq, Repr

/-- All that can be done to a session. -/
inductive Command where
  | edit (edit : Edit)
  | move (kind : Movable) (id : String) (position : Position)
  | undo
  | redo
  | load (diagram : Diagram)
  deriving DecidableEq, Repr

/-- What a session answers: a member of the diagram, or whether there was something to do. -/
inductive Answer where
  | member (member : Member)
  | flag (done : Bool)
  deriving DecidableEq, Repr

namespace Diagram

/-- Move something on the canvas. -/
def move (kind : Movable) (id : String) (position : Position) (diagram : Diagram) :
    Except EditError Diagram :=
  match kind with
  | .table => (tableShelf.update id ({ · with position }) diagram).map Prod.fst
  | .note => (noteShelf.update id ({ · with position }) diagram).map Prod.fst
  | .area => (areaShelf.update id ({ · with position }) diagram).map Prod.fst

end Diagram

namespace Session

/-- A session on a diagram with an empty history for a number of steps. -/
def start (diagram : Diagram) (limit : Nat) : Session := { diagram, history := .ofLimit limit }

/-- The session after an edit of its diagram. -/
def edit (session : Session) (edit : Edit) : Except EditError (Session × Member) :=
  (edit.apply session.diagram).map fun (diagram, member) =>
    ({ diagram, history := session.history.record session.diagram }, member)

/-- The session after something was moved. -/
def move (session : Session) (kind : Movable) (id : String) (position : Position) :
    Except EditError Session :=
  (session.diagram.move kind id position).map fun diagram => { session with diagram }

/-- The session one step back, if there is one. -/
def undo? (session : Session) : Option Session :=
  (session.history.undo? session.diagram).map fun (history, diagram) => { diagram, history }

/-- The session one step forward, if there is one. -/
def redo? (session : Session) : Option Session :=
  (session.history.redo? session.diagram).map fun (history, diagram) => { diagram, history }

/-- The session on another diagram, with nothing to undo or redo. -/
def load (session : Session) (diagram : Diagram) : Session :=
  { diagram, history := session.history.clear }

/-- The session after a command, with the answer or the cause of a refusal. -/
def perform (session : Session) : Command → Session × Except EditError Answer
  | .edit edit =>
    match session.edit edit with
    | .ok (next, member) => (next, .ok (.member member))
    | .error cause => (session, .error cause)
  | .move kind id position =>
    match session.move kind id position with
    | .ok next => (next, .ok (.member .none))
    | .error cause => (session, .error cause)
  | .undo =>
    match session.undo? with
    | some next => (next, .ok (.flag true))
    | none => (session, .ok (.flag false))
  | .redo =>
    match session.redo? with
    | some next => (next, .ok (.flag true))
    | none => (session, .ok (.flag false))
  | .load diagram => (session.load diagram, .ok (.member .none))

/-- The session after a run of commands, refused or not. -/
def run (session : Session) (commands : List Command) : Session :=
  commands.foldl (fun session command => (session.perform command).1) session

@[simp] theorem run_nil (session : Session) : session.run [] = session := rfl

@[simp] theorem run_cons (session : Session) (command : Command) (rest : List Command) :
    session.run (command :: rest) = (session.perform command).1.run rest := rfl

end Session

end EntityDiagram
