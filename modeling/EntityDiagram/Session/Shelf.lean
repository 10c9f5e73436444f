import EntityDiagram.Keyed
import EntityDiagram.Session.Error

/-!
# Collections that edits work on

A shelf is a collection of things with ids inside something larger, together with the refusal for
an id that is not on it. Adding, changing, taking out and moving a member are the same for every
shelf.
-/

namespace EntityDiagram

/-- A collection inside a larger whole. -/
structure Shelf (σ α : Type) where
  /-- The members in order. -/
  items : σ → List α
  /-- The whole with other members. -/
  withItems : σ → List α → σ
  /-- The refusal for an id that no member has. -/
  missing : String → EditError

namespace Shelf

variable {σ α : Type} [Keyed α]

/-- Put a new member at the end; its id must be new to the shelf. -/
def add (shelf : Shelf σ α) (a : α) (whole : σ) : Except EditError σ :=
  if Keyed.contains (shelf.items whole) (Keyed.key a) then .error (.duplicateId (Keyed.key a))
  else .ok (shelf.withItems whole (shelf.items whole ++ [a]))

/-- Change the member with an id, and show it as it is then. -/
def update (shelf : Shelf σ α) (id : String) (f : α → α) (whole : σ) :
    Except EditError (σ × α) :=
  match Keyed.find? (shelf.items whole) id with
  | none => .error (shelf.missing id)
  | some a => .ok (shelf.withItems whole (Keyed.update f id (shelf.items whole)), f a)

/-- Take out the member with an id, and show it. -/
def delete (shelf : Shelf σ α) (id : String) (whole : σ) : Except EditError (σ × α) :=
  match Keyed.find? (shelf.items whole) id with
  | none => .error (shelf.missing id)
  | some a => .ok (shelf.withItems whole (Keyed.erase (shelf.items whole) id), a)

/-- Move the member with an id to another place, at most to the end. -/
def reorder (shelf : Shelf σ α) (id : String) (target : Nat) (whole : σ) : Except EditError σ :=
  if Keyed.contains (shelf.items whole) id then
    .ok (shelf.withItems whole (Keyed.reorder (shelf.items whole) id target))
  else .error (shelf.missing id)

end Shelf

end EntityDiagram
