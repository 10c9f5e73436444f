import EntityDiagram.Session.Basic

/-!
# Drawing a relationship

A relationship is drawn in two steps: the pen is put down on one field and lifted on another.
Whatever happens at the second step, the pen is up afterwards.
-/

namespace EntityDiagram

/-- The state of the pen. -/
inductive Connection where
  /-- Nothing is being drawn. -/
  | idle
  /-- The line starts at a field and waits for its end. -/
  | pending (source : Endpoint)
  deriving DecidableEq, Repr

namespace Connection

/-- Put the pen down on a field; a line begun before is dropped. -/
def start (_ : Connection) (source : Endpoint) : Connection := pending source

/-- Drop the line. -/
def cancel (_ : Connection) : Connection := idle

/-- Lift the pen on a field and add the relationship under a new id. There is none, and the session
stays as it is, if no line was begun, if it ends where it began, if the two fields are joined
already, or if one of them is not there. -/
def finish (connection : Connection) (session : Session) (target : Endpoint) (newId : String) :
    Connection × Session × Option Relationship :=
  match connection with
  | idle => (idle, session, none)
  | pending source =>
    let relationship := Relationship.between newId source target
    if source = target || (session.diagram.relationshipBetween? source target).isSome then
      (idle, session, none)
    else
      match session.edit (.addRelationship relationship) with
      | .ok (next, _) => (idle, next, some relationship)
      | .error _ => (idle, session, none)

@[simp] theorem finish_fst (connection : Connection) (session : Session) (target : Endpoint)
    (newId : String) : (connection.finish session target newId).1 = idle := by
  unfold finish
  split
  · rfl
  · dsimp only
    split
    · rfl
    · split <;> rfl

end Connection

end EntityDiagram
