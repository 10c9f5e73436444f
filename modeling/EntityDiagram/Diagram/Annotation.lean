import EntityDiagram.Diagram.Table

/-!
# Annotations

Notes and areas belong to the canvas only; nothing in the written SQL depends on them.
-/

namespace EntityDiagram

/-- A sticky note on the canvas. -/
structure Note where
  id : String
  title : String := ""
  content : String := ""
  position : Position := {}
  color : Option String := none
  height : Float := 0
  deriving DecidableEq, Repr

instance : Keyed Note := ⟨Note.id⟩

@[simp] theorem Note.key_eq (note : Note) : Keyed.key note = note.id := rfl

/-- A labelled rectangle on the canvas that groups tables. -/
structure Area where
  id : String
  name : String := ""
  position : Position := {}
  width : Float := 0
  height : Float := 0
  color : Option String := none
  deriving DecidableEq, Repr

instance : Keyed Area := ⟨Area.id⟩

@[simp] theorem Area.key_eq (area : Area) : Keyed.key area = area.id := rfl

end EntityDiagram
